import GridGateway.Proofs.Query.Pages
import GridGateway.Proofs.Runs
import GridGateway.Proofs.Sql.Recovery

/-!
# Count and page

A listing whose matches are counted consists of two statements.  They have the source of the listing with its
conditions in common, text and values; the page goes on with an order and a window (`Question.Lists.page_statement`).
A call sends first the one and then the other (`Listing.Serves`), and answers with what is read from the rows of the
page, and with the number from the row of the count.
-/

namespace GridGateway.Sql

open Query

/-! ### Texts -/

namespace Fragment

/-- The text of a fragment of which the first value is number `k`. -/
def textAt (k : Nat) (p : Fragment) : String := String.ofList (textFrom k p)

private theorem text_eq_textAt (p : Fragment) : p.text = p.textAt 1 := rfl

private theorem textAt_nil (k : Nat) : textAt k [] = "" := rfl

private theorem textAt_sql (k : Nat) (s : String) (p : Fragment) : textAt k (.sql s :: p) = s ++ textAt k p := by
  unfold textAt
  rw [textFrom, String.ofList_append, String.ofList_toList]

private theorem textAt_bind (k : Nat) (v : Param) (p : Fragment) :
    textAt k (.bind v :: p) = "$" ++ Text.decimal k ++ textAt (k + 1) p := by
  unfold textAt Text.decimal
  rw [textFrom, String.ofList_append, ← List.singleton_append, String.ofList_append]

private theorem textAt_append (k : Nat) (p q : Fragment) :
    textAt k (p ++ q) = textAt k p ++ textAt (k + p.params.length) q := by
  unfold textAt
  rw [textFrom_append, String.ofList_append]

end Fragment

open Fragment

private theorem Listing.count_statement (l : Listing) :
    l.count.statement = ⟨"SELECT count(*)" ++ l.source.text, l.source.params⟩ := by
  have htext : l.count.text = "SELECT count(*)" ++ l.source.text := by
    rw [text_eq_textAt, Listing.count, select, textAt_sql, textAt_sql, ← String.append_assoc]
    rfl
  unfold Fragment.statement
  rw [htext]
  rfl

/-- The twin whose rented nodes come first in a listing, if there is one. -/
def Question.renter : Question → List Param
  | nodes _ f _ => (number f.availableFor).toList
  | _ => []

/-- Each listing has an order, in which the renter may be bound. -/
private theorem Question.Lists.order_eq {q : Question} {limit : Limit} {l : Listing} (h : q.Lists limit l) :
    l.order.params = q.renter ∧ ∀ k, ∃ order, l.order.textAt k = " ORDER BY " ++ order := by
  -- an order is told by its first text
  have hfirst {s t : String} (hs : s = " ORDER BY " ++ t) (p : Fragment) (k : Nat) :
      ∃ order, textAt k (.sql s :: p) = " ORDER BY " ++ order := by
    rw [textAt_sql, hs, String.append_assoc]
    exact ⟨_, rfl⟩
  cases h with
  | nodes _ =>
    rename_i now f source _
    show (nodeOrder f).params = (number f.availableFor).toList ∧ ∀ k, ∃ order, (nodeOrder f).textAt k = _
    unfold nodeOrder
    cases number f.availableFor with
    | none => exact ⟨rfl, hfirst (t := "node.node_id") rfl _⟩
    | some twin => exact ⟨rfl, hfirst (t := "CASE WHEN COALESCE(rent_contract.twin_id, 0) = ") rfl _⟩
  | farms => exact ⟨rfl, hfirst (t := "farm.farm_id") rfl _⟩
  | twins => exact ⟨rfl, hfirst (t := "twin.twin_id") rfl _⟩
  | contracts _ => exact ⟨rfl, hfirst (t := "contracts.contract_id") rfl _⟩

/-- The page has the source of the count, then an order, and then a window whose values are numbered on. -/
theorem Question.Lists.page_statement {q : Question} {limit : Limit} {l : Listing} (h : q.Lists limit l)
    (start : UInt64) :
    ∃ order, (l.page limit start).statement =
      ⟨"SELECT " ++ l.columns ++ l.source.text ++ " ORDER BY " ++ order ++
          " LIMIT $" ++ Text.decimal (l.source.params.length + q.renter.length + 1) ++
          " OFFSET $" ++ Text.decimal (l.source.params.length + q.renter.length + 2),
        l.source.params ++ q.renter ++
          [.bigint (min limit.size.toNat maxBigint), .bigint (min start.toNat maxBigint)]⟩ := by
  obtain ⟨hparams, horder⟩ := h.order_eq
  obtain ⟨order, htext⟩ := horder (1 + l.source.params.length)
  refine ⟨order, ?_⟩
  have hpage : l.page limit start =
      .sql "SELECT " :: .sql l.columns :: (l.source ++ (l.order ++ window limit.size start)) := by
    rw [Listing.page, select, List.cons_append, List.cons_append, List.cons_append, List.cons_append,
      List.append_assoc]
  have hnumber : 1 + l.source.params.length + l.order.params.length =
      l.source.params.length + q.renter.length + 1 := by
    rw [hparams]
    omega
  have hlimit : " LIMIT " ++ "$" = " LIMIT $" := rfl
  have hoffset : " OFFSET " ++ "$" = " OFFSET $" := rfl
  have hsql : (l.page limit start).text = "SELECT " ++ l.columns ++ l.source.text ++ " ORDER BY " ++ order ++
      " LIMIT $" ++ Text.decimal (l.source.params.length + q.renter.length + 1) ++
      " OFFSET $" ++ Text.decimal (l.source.params.length + q.renter.length + 2) := by
    rw [hpage, text_eq_textAt, text_eq_textAt, textAt_sql, textAt_sql, textAt_append, textAt_append, htext, hnumber,
      window, textAt_sql, textAt_bind, textAt_sql, textAt_bind, ← hlimit, ← hoffset]
    simp only [String.append_assoc, textAt_nil, String.append_empty]
  unfold Fragment.statement
  rw [hsql, hpage]
  congr 1
  rw [params, params, params_append, params_append, hparams, List.append_assoc]
  rfl

/-! ### Rows -/

/-- The words for the kinds of contracts. -/
private theorem ContractKind.ofLabel?_eq_none_iff {word : String} :
    ContractKind.ofLabel? word = none ↔ word ∉ ["node", "rent", "name"] := by
  rw [ContractKind.ofLabel?, List.find?_eq_none]
  constructor
  · intro h hword
    simp only [List.mem_cons, List.not_mem_nil, or_false] at hword
    rcases hword with rfl | rfl | rfl
    · exact h .node (by decide) rfl
    · exact h .rent (by decide) rfl
    · exact h .name (by decide) rfl
  · intro h kind _ hkind
    obtain rfl := of_decide_eq_true hkind
    cases kind <;> exact h (by decide)

/-- A contract is made of a row whose kind is known. -/
private theorem ContractRow.contract_of_known {r : ContractRow} (h : r.kind ∈ ["node", "rent", "name"]) :
    ∃ c, r.contract = .ok c := by
  unfold ContractRow.contract
  cases hkind : ContractKind.ofLabel? r.kind with
  | none => exact absurd h (ContractKind.ofLabel?_eq_none_iff.1 hkind)
  | some kind => cases kind <;> exact ⟨_, rfl⟩

private theorem ContractRow.contract_of_unknown {r : ContractRow} (h : r.kind ∉ ["node", "rent", "name"]) :
    r.contract = .error (.decode "contract type" r.kind) := by
  unfold ContractRow.contract
  rw [ContractKind.ofLabel?_eq_none_iff.2 h]

/-- Contracts are made of all rows if their kinds are known. -/
private theorem contracts_of_known {rows : List ContractRow} (h : ∀ r ∈ rows, r.kind ∈ ["node", "rent", "name"]) :
    ∃ cs, rows.mapM ContractRow.contract = .ok cs := by
  induction rows with
  | nil => exact ⟨[], rfl⟩
  | cons r rows ih =>
    obtain ⟨hr, hrows⟩ := List.forall_mem_cons.1 h
    obtain ⟨c, hc⟩ := ContractRow.contract_of_known hr
    obtain ⟨cs, hcs⟩ := ih hrows
    refine ⟨c :: cs, ?_⟩
    rw [List.mapM_cons, hc, hcs]
    rfl

/-- The first row whose kind is unknown is refused. -/
private theorem contracts_of_unknown {rows : List ContractRow} (h : ∃ r ∈ rows, r.kind ∉ ["node", "rent", "name"]) :
    ∃ kind, rows.mapM ContractRow.contract = .error (.decode "contract type" kind) := by
  induction rows with
  | nil =>
    obtain ⟨_, hr, _⟩ := h
    cases hr
  | cons r rows ih =>
    rw [List.mapM_cons]
    by_cases hr : r.kind ∈ ["node", "rent", "name"]
    · obtain ⟨c, hc⟩ := ContractRow.contract_of_known hr
      obtain ⟨r', hmem, hkind⟩ := h
      rcases List.mem_cons.1 hmem with rfl | hmem
      · exact absurd hr hkind
      · obtain ⟨kind, hrows⟩ := ih ⟨r', hmem, hkind⟩
        rw [hc, hrows]
        exact ⟨kind, rfl⟩
    · rw [ContractRow.contract_of_unknown hr]
      exact ⟨r.kind, rfl⟩

/-! ### Calls -/

section

variable {α β : Type}

/-- A call that counts and then reads a page, whatever the database replies.  If the count gives no number, this is
the end of it.  Otherwise the page starts where the number says; and when both statements succeed, the outcome is made
of the items read from the rows of the page and of the number in the row of the count, where a negative one is zero. -/
def Listing.Serves (l : Listing) (pick : UInt64 → UInt64) (limit : Limit) (read : RowReader α)
    (answer : List α × UInt64 → Except InventoryError β) (t : Talk β) : Prop :=
  ∀ replies : List Reply, ∃ gs : List Segment,
    Session.Hears { replies := replies } (gs.flatMap Segment.exchanges) (t.run { replies := replies }).2 ∧
    ((∃ c e, gs = [c] ∧ c.statement = l.count.statement ∧ c.Gives (.one readCount) (.error e) ∧
        (t.run { replies := replies }).1 = .error (.database e)) ∨
      ∃ c p total, gs = [c, p] ∧ c.statement = l.count.statement ∧ c.Gives (.one readCount) (.ok total) ∧
        p.statement = (l.page limit (pageStart pick limit total)).statement ∧
        ∀ row more n rows items, c.last = .rows (row :: more) → row.value? "count" = some (.int n) →
          p.last = .rows rows → List.Forall₂ (fun row item => read row = .ok item) rows items →
          (t.run { replies := replies }).1 = answer (items, if limit.retCount then .ofNat n.toNat else 0))

/-- What comes out of a segment is told by the last reply. -/
private theorem Segment.Gives.eq_ok {g : Segment} {e : Expect α} {r : Except DatabaseError α} (h : g.Gives e r) {a : α}
    (ha : e.value g.last = .ok a) : r = .ok a := by
  cases h with
  | value h' => rw [← h', ha]
  | error h' _ =>
    rw [ha] at h'
    cases h'

private theorem value_count {row : Row} {more : List Row} {n : Int} (h : row.value? "count" = some (.int n)) :
    Expect.value (.one readCount) (.rows (row :: more)) = .ok (unsigned n) := by
  show readCount row = _
  rw [readCount, h]

/-- A plan that counts and then reads a page is such a call. -/
private theorem Listing.serves {pick : UInt64 → UInt64} {l : Listing} {limit : Limit} {read : RowReader α}
    {answer : List α × UInt64 → Except InventoryError β} {t : Talk β}
    (hcounted : (limit.retCount || limit.randomize) = true) (hread : RowReader.Columnwise read)
    (ht : (Plan.listing pick l limit read answer).talk = t) : l.Serves pick limit read answer t := by
  intro replies
  obtain ⟨gs, hrun, hhears⟩ := Plan.runs (columnwise_listing pick l limit hread answer) { replies := replies }
  rw [ht] at hrun hhears
  refine ⟨gs, hhears, ?_⟩
  unfold Plan.listing at hrun
  rw [if_pos hcounted] at hrun
  generalize (t.run { replies := replies }).1 = outcome at hrun
  cases hrun with
  | stop hc hgives => exact .inl ⟨_, _, rfl, hc, hgives, rfl⟩
  | goOn hc hgives rest =>
    cases rest with
    | stop hp hfails =>
      refine .inr ⟨_, _, _, rfl, hc, hgives, hp, fun row more n rows items _ _ hrows hitems => ?_⟩
      -- a page whose rows can be read does not fail
      have hvalue : Expect.value (.all read) (.rows rows) = .ok items := mapM_eq_ok_iff.2 hitems
      cases hfails.eq_ok (hrows ▸ hvalue)
    | goOn hp hgives' rest =>
      cases rest with
      | done =>
        refine .inr ⟨_, _, _, rfl, hc, hgives, hp, fun row more n rows items hrow hn hrows hitems => ?_⟩
        have hvalue : Expect.value (.all read) (.rows rows) = .ok items := mapM_eq_ok_iff.2 hitems
        cases hgives'.eq_ok (hrows ▸ hvalue)
        cases hgives.eq_ok (hrow ▸ value_count hn)
        rfl

end

/-! ### Listings -/

/-- Without chance a page starts behind the rows of the pages before it, as far as words go. -/
private theorem pageStart_toNat {limit : Limit} (h : limit.randomize = false) (pick : UInt64 → UInt64)
    (total : UInt64) :
    (pageStart pick limit total).toNat = min ((limit.page.toNat - 1) * limit.size.toNat) (UInt64.size - 1) := by
  rw [pageStart, h, if_neg Bool.false_ne_true, Limit.offset_toNat]

/-- The count and the page of a listing share their source, text and values, and a call answers with the items read
from the rows of its page, and with the number in the row of its count if that is asked for.  A listing of contracts
fails after both statements just when a row is of none of the three kinds. -/
theorem count_and_page_share_source (pick : UInt64 → UInt64) (limit : Limit)
    (hcounted : (limit.retCount || limit.randomize) = true) :
    (∀ (q : Question) (l : Listing), q.Lists limit l →
      l.count.statement = ⟨"SELECT count(*)" ++ l.source.text, l.source.params⟩ ∧
      ∀ start : UInt64, ∃ order, (l.page limit start).statement =
        ⟨"SELECT " ++ l.columns ++ l.source.text ++ " ORDER BY " ++ order ++
            " LIMIT $" ++ Text.decimal (l.source.params.length + q.renter.length + 1) ++
            " OFFSET $" ++ Text.decimal (l.source.params.length + q.renter.length + 2),
          l.source.params ++ q.renter ++
            [.bigint (min limit.size.toNat maxBigint), .bigint (min start.toNat maxBigint)]⟩) ∧
    (limit.randomize = false → ∀ total : UInt64,
      (pageStart pick limit total).toNat = min ((limit.page.toNat - 1) * limit.size.toNat) (UInt64.size - 1)) ∧
    (∀ (now : UInt64) (f : NodeFilter), f.validate = .ok () → ∃ source, nodeSource? .view f now = .ok source ∧
      Listing.Serves ⟨nodeColumns, source, nodeOrder f⟩ pick limit (readNode now) .ok (listNodes pick now f limit)) ∧
    (∀ f : FarmFilter,
      Listing.Serves ⟨farmColumns, farmSource f, farmOrder⟩ pick limit readFarm .ok (listFarms pick f limit)) ∧
    (∀ f : TwinFilter,
      Listing.Serves ⟨twinColumns, twinSource f, twinOrder⟩ pick limit readTwin .ok (listTwins pick f limit)) ∧
    (∀ f : ContractFilter, f.validate = .ok () → ∃ source, contractSource? f = .ok source ∧
      Listing.Serves ⟨contractColumns, source, contractOrder⟩ pick limit readContractRow
        (fun page => (page.1.mapM ContractRow.contract).map (·, page.2)) (listContracts pick f limit)) ∧
    (∀ rows : List ContractRow,
      ((∃ what reason, rows.mapM ContractRow.contract = .error (.decode what reason)) ↔
        ∃ r ∈ rows, r.kind ∉ ["node", "rent", "name"]) ∧
      ((∀ r ∈ rows, r.kind ∈ ["node", "rent", "name"]) → ∃ contracts, rows.mapM ContractRow.contract = .ok contracts ∧
        List.Forall₂ (fun r c => r.contract = .ok c) rows contracts)) := by
  refine ⟨fun q l hl => ⟨l.count_statement, fun start => hl.page_statement start⟩,
    fun hrandomize total => pageStart_toNat hrandomize pick total, fun now f hvalid => ?_, fun f => ?_, fun f => ?_,
    fun f hvalid => ?_, fun rows => ?_⟩
  · obtain ⟨source, hsource⟩ := exists_eq_ok_of_map ((nodeSource_map .view f now).trans hvalid)
    have hcall := Question.talk_plan pick (.nodes now f limit)
    rw [Question.plan, hsource] at hcall
    exact ⟨source, hsource, Listing.serves hcounted (columnwise_readNode now) hcall⟩
  · exact Listing.serves hcounted columnwise_readFarm (Question.talk_plan pick (.farms f limit))
  · exact Listing.serves hcounted columnwise_readTwin (Question.talk_plan pick (.twins f limit))
  · obtain ⟨source, hsource⟩ := exists_eq_ok_of_map ((contractSource_map f).trans hvalid)
    have hcall := Question.talk_plan pick (.contracts f limit)
    rw [Question.plan, hsource] at hcall
    exact ⟨source, hsource, Listing.serves hcounted columnwise_readContractRow hcall⟩
  · refine ⟨⟨fun hfails => ?_, fun hunknown => ?_⟩, fun hknown => ?_⟩
    · obtain ⟨what, reason, herror⟩ := hfails
      by_contra hall
      have hknown : ∀ r ∈ rows, r.kind ∈ ["node", "rent", "name"] := by
        intro r hr
        by_contra hkind
        exact hall ⟨r, hr, hkind⟩
      obtain ⟨contracts, hcontracts⟩ := contracts_of_known hknown
      rw [herror] at hcontracts
      cases hcontracts
    · obtain ⟨kind, hkind⟩ := contracts_of_unknown hunknown
      exact ⟨_, _, hkind⟩
    · obtain ⟨contracts, hcontracts⟩ := contracts_of_known hknown
      exact ⟨contracts, hcontracts, mapM_eq_ok_iff.1 hcontracts⟩

/-- The third page of ten nodes that a twin may rent. -/
theorem third_page_shares_source :
    ((true : Bool) || false) = true ∧ ({ availableFor := some 7 } : NodeFilter).validate = .ok () ∧
    ∃ source, nodeSource? .view { availableFor := some 7 } 20000 = .ok source ∧
      (pageStart id { page := 3, size := 10, retCount := true } 25).toNat = 20 ∧
      (Listing.count ⟨nodeColumns, source, nodeOrder { availableFor := some 7 }⟩).statement =
        ⟨"SELECT count(*)" ++ source.text, [.bigint 7]⟩ ∧
      (∃ order, (Listing.page ⟨nodeColumns, source, nodeOrder { availableFor := some 7 }⟩
          { page := 3, size := 10, retCount := true } 20).statement =
        ⟨"SELECT " ++ nodeColumns ++ source.text ++ " ORDER BY " ++ order ++ " LIMIT $" ++ "3" ++ " OFFSET $" ++ "4",
          [.bigint 7, .bigint 7, .bigint 10, .bigint 20]⟩) ∧
      Listing.Serves ⟨nodeColumns, source, nodeOrder { availableFor := some 7 }⟩ id
        { page := 3, size := 10, retCount := true } (readNode 20000) .ok
        (listNodes id 20000 { availableFor := some 7 } { page := 3, size := 10, retCount := true }) := by
  have hparams : (nodeSource .view none { availableFor := some 7 } 20000).params = [.bigint 7] := by decide +kernel
  obtain ⟨htexts, hstart, hnodes, -⟩ := count_and_page_share_source id { page := 3, size := 10, retCount := true } rfl
  obtain ⟨source, hsource, hserves⟩ := hnodes 20000 { availableFor := some 7 } rfl
  obtain rfl : nodeSource .view none { availableFor := some 7 } 20000 = source := Except.ok.inj hsource
  obtain ⟨hcount, hpage⟩ := htexts (.nodes 20000 { availableFor := some 7 } _) _ (.nodes rfl)
  simp only [hparams] at hcount hpage
  exact ⟨rfl, rfl, _, rfl, hstart rfl 25, hcount, hpage 20, hserves⟩

end GridGateway.Sql
