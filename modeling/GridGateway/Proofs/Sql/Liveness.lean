import GridGateway.Proofs.Query.Pages
import GridGateway.Proofs.Sql.Questions
import GridGateway.Proofs.Sql.Readers
import GridGateway.Proofs.Sql.Upserts

/-!
# Liveness in statements and in answers

Whether a node is up is decided in two places: by a condition of a statement, over a column that may hold nothing or a
negative number, and by the reader of a row, over a word.  The condition is read from the text of the statement
(`Condition.ofText?`) and has three truth values (`Condition.truth`).  It comes to a comparison with the oldest time
that counts as up (`isTrueBetween_statusCondition`), and so does the status that is shown (`yields_readNode`,
`atTime_of_stored`).  Hence the nodes listed under a status are those that show it (`listed_status_is_shown_status`).
-/

namespace GridGateway.Sql

open Query Fragment

/-! ### Conditions in a text -/

/-- What a comparison of two numbers comes to. -/
def Comparison.holds (a b : Int) : Comparison → Bool
  | eq => a = b
  | ge => b ≤ a
  | lt => a < b

/-- A condition on the cells of a row. -/
inductive Condition where
  /-- A cell compares with the value of an expression. -/
  | compares (column : String) (c : Comparison) (expression : String)
  /-- There is nothing in a cell. -/
  | isNull (column : String)
  | or (first second : Condition)

namespace Condition

/-- One of two conditions is true as soon as one of them is known to be, and false only when both are. -/
def either : Option Bool → Option Bool → Option Bool
  | some true, _ => some true
  | _, some true => some true
  | some false, some false => some false
  | _, _ => none

/-- The truth value of a condition: nothing is known about a comparison with a cell that holds nothing. -/
def truth (cell : String → Option Int) (params : List Param) : Condition → Option Bool
  | compares column c expression => do
    let a ← cell column
    let b ← (evaluate? params expression.toList).bind Row.int?
    return c.holds a b
  | isNull column => some (cell column).isNone
  | or first second => either (first.truth cell params) (second.truth cell params)

/-- The condition that three words stand for. -/
def single? (column sign expression : String) : Option Condition :=
  if sign = "IS" ∧ expression = "NULL" then some (isNull column)
  else ([.eq, .ge, .lt].find? fun c : Comparison => c.sign = " " ++ sign ++ " ").map (compares column · expression)

/-- The condition that some words stand for. -/
def ofWords? : List String → Option Condition
  | [column, sign, expression] => single? column sign expression
  | column :: sign :: expression :: "OR" :: rest => do
    return or (← single? column sign expression) (← ofWords? rest)
  | _ => none

/-- The words of a text. -/
def words (cs : List Char) : List String := (splitAll ' ' cs).map String.ofList

/-- The condition that a text stands for, which may be in brackets. -/
def ofText? : List Char → Option Condition
  | '(' :: cs => if cs.getLast? = some ')' then ofWords? (words cs.dropLast) else none
  | cs => ofWords? (words cs)

/-- A text of words with blanks between them. -/
def unwords (ws : List String) : List Char := [' '].intercalate (ws.map String.toList)

private theorem words_unwords {ws : List String} (h : ∀ w ∈ ws, ' ' ∉ w.toList) (hne : ws ≠ []) :
    words (unwords ws) = ws := by
  have hparts : ∀ part ∈ ws.map String.toList, ' ' ∉ part := List.forall_mem_map.2 h
  rw [words, unwords, splitAll_intercalate hparts (by simpa using hne), List.map_map]
  simp [Function.comp_def]

end Condition

/-- Behind the part `front` of a statement and in front of `rest` stands a condition that is true of a row. -/
def Fragment.IsTrueBetween (front condition rest : Fragment) (cell : String → Option Int) : Prop :=
  ∃ cs c,
    textFrom 1 (front ++ (condition ++ rest)) =
      textFrom 1 front ++ (" AND ".toList ++ cs) ++
        textFrom (1 + front.params.length + condition.params.length) rest ∧
    Condition.ofText? cs = some c ∧ c.truth cell (front ++ (condition ++ rest)).params = some true

/-! ### The condition on the status -/

/-- The placeholder for a value. -/
def placeholder (k : Nat) : String := String.ofList ('$' :: Nat.toDigits 10 k)

/-- The condition that nodes have a status, where the oldest time that counts as up is a value with a number. -/
def livenessOf (k : Nat) : Status → Condition
  | .up => .compares "node.updated_at" .ge (placeholder k)
  | .down => .or (.compares "node.updated_at" .lt (placeholder k)) (.isNull "node.updated_at")

/-- The text of the condition on the status. -/
def livenessText (k : Nat) : Status → List Char
  | .up => Condition.unwords ["node.updated_at", ">=", placeholder k]
  | .down => '(' :: (Condition.unwords ["node.updated_at", "<", placeholder k, "OR", "node.updated_at", "IS", "NULL"] ++
      [')'])

private theorem textFrom_statusCondition (k : Nat) (now : UInt64) (s : Status) :
    textFrom k (statusCondition now (some s)) = " AND ".toList ++ livenessText k s := by
  cases s with
  | up =>
    have hpieces : statusCondition now (some .up) =
        [.sql " AND ", .sql "node.updated_at >= ", .bind (thresholdParam now), .sql ""] := by
      rfl
    rw [hpieces]
    simp [textFrom, livenessText, Condition.unwords, placeholder]
  | down =>
    have hpieces : statusCondition now (some .down) =
        [.sql " AND ", .sql "(node.updated_at < ", .bind (thresholdParam now),
          .sql " OR node.updated_at IS NULL)"] := by
      rfl
    rw [hpieces]
    simp [textFrom, livenessText, Condition.unwords, placeholder]

private theorem ofText?_livenessText (k : Nat) (s : Status) :
    Condition.ofText? (livenessText k s) = some (livenessOf k s) := by
  have hk : ' ' ∉ (placeholder k).toList := by
    rw [placeholder, String.toList_ofList, List.mem_cons, not_or]
    exact ⟨by decide, fun hm => absurd (Text.isDigit_of_mem_toDigits hm) (by decide)⟩
  cases s with
  | up =>
    have hwords : Condition.words (livenessText k .up) = ["node.updated_at", ">=", placeholder k] := by
      refine Condition.words_unwords ?_ (by simp)
      simp [hk]
    change Condition.ofWords? (Condition.words (livenessText k .up)) = _
    rw [hwords]
    rfl
  | down =>
    rw [livenessText, Condition.ofText?, List.getLast?_concat, if_pos rfl, List.dropLast_concat,
      Condition.words_unwords (by simp [hk]) (by simp)]
    rfl

/-- The oldest time that counts as up, as a number. -/
def oldestUp (now : UInt64) : Int := bigintOf (upThreshold now)

private theorem params_statusCondition (now : UInt64) (s : Status) :
    (statusCondition now (some s)).params = [thresholdParam now] := by
  cases s <;> rfl

private theorem evaluate?_threshold (front rest : List Param) (now : UInt64) :
    (evaluate? (front ++ thresholdParam now :: rest) (placeholder (1 + front.length)).toList).bind Row.int? =
      some (oldestUp now) := by
  rw [placeholder, String.toList_ofList, Nat.add_comm, evaluate?_placeholder,
    List.getElem?_append_right (Nat.le_refl _), Nat.sub_self]
  rfl

/-- The condition is true of a row exactly if the status is the one that the cell calls for. -/
private theorem truth_livenessOf (front rest : List Param) (now : UInt64) (s : Status) (cell : String → Option Int) :
    (livenessOf (1 + front.length) s).truth cell (front ++ thresholdParam now :: rest) = some true ↔
      ((cell "node.updated_at").any (oldestUp now ≤ ·) = true ↔ s = .up) := by
  have hvalue := evaluate?_threshold front rest now
  cases hcell : cell "node.updated_at" with
  | none => cases s <;> simp [livenessOf, Condition.truth, hcell, Condition.either]
  | some v =>
    rcases Int.lt_or_le v (oldestUp now) with hv | hv
    · cases s <;> simp [livenessOf, Condition.truth, hcell, hvalue, Condition.either, Comparison.holds, hv]
    · have hnot : ¬ v < oldestUp now := Int.not_lt.2 hv
      cases s <;> simp [livenessOf, Condition.truth, hcell, hvalue, Condition.either, Comparison.holds, hv, hnot]

/-- Which rows the condition on a status is true of, wherever it stands in a statement. -/
theorem isTrueBetween_statusCondition (front rest : Fragment) (now : UInt64) (s : Status)
    (cell : String → Option Int) :
    Fragment.IsTrueBetween front (statusCondition now (some s)) rest cell ↔
      ((cell "node.updated_at").any (oldestUp now ≤ ·) = true ↔ s = .up) := by
  have htext : textFrom 1 (front ++ (statusCondition now (some s) ++ rest)) =
      textFrom 1 front ++ (" AND ".toList ++ livenessText (1 + front.params.length) s) ++
        textFrom (1 + front.params.length + (statusCondition now (some s)).params.length) rest := by
    rw [textFrom_append, textFrom_append, textFrom_statusCondition, ← List.append_assoc]
  have hparams : (front ++ (statusCondition now (some s) ++ rest)).params =
      front.params ++ thresholdParam now :: rest.params := by
    rw [params_append, params_append, params_statusCondition, List.singleton_append]
  constructor
  · rintro ⟨cs, c, hcs, hc, htrue⟩
    rw [htext, List.append_cancel_right_eq, List.append_cancel_left_eq, List.append_cancel_left_eq] at hcs
    rw [← hcs, ofText?_livenessText] at hc
    obtain rfl := Option.some.inj hc
    rwa [hparams, truth_livenessOf] at htrue
  · intro h
    refine ⟨_, _, htext, ofText?_livenessText _ s, ?_⟩
    rwa [hparams, truth_livenessOf]

/-! ### The status of a row -/

/-- A reader makes something of a row that has a property. -/
def RowReader.Yields {α : Type} (read : RowReader α) (row : Row) (P : α → Prop) : Prop :=
  ∃ a, read row = .ok a ∧ P a

namespace RowReader.Yields

variable {α β : Type} {row : Row}

theorem bind {read : RowReader α} {next : α → RowReader β} {P : α → Prop} {Q : β → Prop} (h : read.Yields row P)
    (hn : ∀ a, P a → (next a).Yields row Q) : (read >>= next).Yields row Q := by
  obtain ⟨a, ha, hP⟩ := h
  obtain ⟨b, hb, hQ⟩ := hn a hP
  exact ⟨b, (bind_of_ok ha).trans hb, hQ⟩

theorem pure {a : α} {P : α → Prop} (h : P a) : (pure a : RowReader α).Yields row P := ⟨a, rfl, h⟩

/-- A column whose value has the kind that is asked for, if it is given. -/
theorem column {name : String} {plain : α} {pick : Json → Option α}
    (h : ∀ v ∈ row.value? name, (pick v).isSome) : (Row.column name plain pick).Yields row fun _ => True := by
  cases hv : row.value? name with
  | none => exact ⟨plain, by simp only [Row.column, hv], trivial⟩
  | some v =>
    obtain ⟨a, ha⟩ := Option.isSome_iff_exists.1 (h v hv)
    exact ⟨a, Row.column_of_value? hv ha, trivial⟩

theorem optional {name : String} {pick : Json → Option α}
    (h : ∀ v ∈ row.value? name, v ≠ .null → (pick v).isSome) :
    (Row.optional name pick).Yields row fun _ => True := by
  refine column fun v hv => ?_
  by_cases hnull : v = .null
  · rw [hnull]
    rfl
  · have hsome := h v hv hnull
    split
    · rfl
    · simpa using hsome

theorem int {name : String} {n : Int} (h : row.value? name = some (.int n)) :
    (Row.int name).Yields row (· = n) := ⟨n, Row.column_of_value? h rfl, rfl⟩

end RowReader.Yields

/-- The columns of a node hold values of their kinds, as far as they are given. -/
structure Row.IsNode (row : Row) : Prop where
  ints : ∀ name ∈ ["node_id", "farm_id", "twin_id", "uptime", "created", "farming_policy_id", "updated_at",
      "total_cru", "total_sru", "total_hru", "total_mru", "used_cru", "used_sru", "used_hru", "used_mru",
      "rent_contract_id", "rented_by_twin_id"], ∀ v ∈ row.value? name, (int? v).isSome
  texts : ∀ name ∈ ["country", "city", "domain", "gw4", "gw6", "ipv4", "ipv6", "certification", "serial_number"],
    ∀ v ∈ row.value? name, (text? v).isSome
  bools : ∀ name ∈ ["dedicated", "secure", "virtualized"], ∀ v ∈ row.value? name, (bool? v).isSome
  floats : ∀ name ∈ ["longitude", "latitude"], ∀ v ∈ row.value? name, v ≠ .null → (float? v).isSome

private theorem yields_readCapacity {row : Row} {kind : String}
    (h : ∀ name ∈ [kind ++ "_cru", kind ++ "_sru", kind ++ "_hru", kind ++ "_mru"],
      ∀ v ∈ row.value? name, (Row.int? v).isSome) : (readCapacity kind).Yields row fun _ => True := by
  simp only [List.forall_mem_cons] at h
  obtain ⟨hcru, hsru, hhru, hmru, -⟩ := h
  exact .bind (.column hcru) fun _ _ => .bind (.column hsru) fun _ _ => .bind (.column hhru) fun _ _ =>
    .bind (.column hmru) fun _ _ => .pure trivial

/-- A node is read from every row whose columns have values of their kinds, and its status is that of the time in the
row. -/
theorem yields_readNode {row : Row} (h : row.IsNode) {v : Int} (hv : row.value? "updated_at" = some (.int v))
    (now : UInt64) : (readNode now).Yields row (·.status = Status.atTime (unsigned v) now) := by
  have hint (name : String) (hname : name ∈ _) : (Row.int name).Yields row fun _ => True := .column (h.ints name hname)
  have htext (name : String) (hname : name ∈ _) : (Row.text name).Yields row fun _ => True :=
    .column (h.texts name hname)
  have hbool (name : String) (hname : name ∈ _) : (Row.bool name).Yields row fun _ => True :=
    .column (h.bools name hname)
  have hfloat (name : String) (hname : name ∈ _) : (Row.optional name Row.float?).Yields row fun _ => True :=
    .optional (h.floats name hname)
  unfold readNode
  iterate 3 refine .bind (hint _ (by simp)) fun _ _ => ?_
  iterate 2 refine .bind (htext _ (by simp)) fun _ _ => ?_
  iterate 3 refine .bind (hint _ (by simp)) fun _ _ => ?_
  refine .bind (.int hv) fun updatedAt hupdated => ?_
  iterate 2
    refine .bind (yields_readCapacity fun _ hname => h.ints _ (List.subset_def.1 (by simp) hname)) fun _ _ => ?_
  iterate 6 refine .bind (htext _ (by simp)) fun _ _ => ?_
  iterate 3 refine .bind (hbool _ (by simp)) fun _ _ => ?_
  refine .bind (htext _ (by simp)) fun _ _ => ?_
  iterate 2 refine .bind (hint _ (by simp)) fun _ _ => ?_
  iterate 2 refine .bind (hfloat _ (by simp)) fun _ _ => ?_
  exact .pure (by rw [hupdated])

/-! ### Both decisions -/

/-- The tolerated age of a last report, in seconds. -/
def toleratedAge : Int := 3 * 3600

section

variable {now : UInt64}

private theorem upThreshold_toNat (now : UInt64) : (upThreshold now).toNat = now.toNat - 10800 := satSub_toNat _ _

private theorem atTime_eq_up_iff {t : UInt64} : Status.atTime t now = .up ↔ upThreshold now ≤ t := by
  unfold Status.atTime
  split <;> simp [*]

private theorem oldestUp_eq (hlow : 10800 < now.toNat) (hhigh : now.toNat ≤ 9223372036854775807) :
    oldestUp now = now.toNat - toleratedAge := by
  rw [oldestUp, bigintOf, upThreshold_toNat, maxBigint, toleratedAge]
  omega

/-- Of a positive oldest time, a negative time falls short as zero does. -/
private theorem atTime_unsigned (hlow : 10800 < now.toNat) (hhigh : now.toNat ≤ 9223372036854775807) (v : Int64) :
    Status.atTime (unsigned v.toInt) now = .up ↔ oldestUp now ≤ v.toInt := by
  have hv : v.toInt < 2 ^ 63 := Int64.toInt_lt v
  have hunsigned : (unsigned v.toInt).toNat = v.toInt.toNat := by
    rw [unsigned, UInt64.toNat_ofNat_of_lt']
    have : UInt64.size = 2 ^ 64 := rfl
    omega
  rw [atTime_eq_up_iff, UInt64.le_iff_toNat_le, upThreshold_toNat, hunsigned, oldestUp_eq hlow hhigh, toleratedAge]
  omega

theorem atTime_of_stored (hlow : 10800 < now.toNat) (hhigh : now.toNat ≤ 9223372036854775807) (stored : Option Int64) :
    Status.atTime (unsigned (stored.elim 0 Int64.toInt)) now = .up ↔
      (stored.map Int64.toInt).any (oldestUp now ≤ ·) = true := by
  cases stored with
  | none =>
    have hzero := atTime_unsigned hlow hhigh 0
    rw [oldestUp_eq hlow hhigh, toleratedAge] at hzero
    simpa using hzero.not.2 (by simp; omega)
  | some v => simpa using atTime_unsigned hlow hhigh v

end

/-- The nodes that a statement lists under a status are the nodes that show it.  The statement sees the time of the
last report as it is stored, where there may be none, and the reader of rows sees zero in this case.  Up means that the
last report is at most as old as tolerated. -/
theorem listed_status_is_shown_status {now : UInt64} (hlow : 10800 < now.toNat)
    (hhigh : now.toNat ≤ 9223372036854775807) (stored : Option Int64) (cell : String → Option Int)
    (hcell : cell "node.updated_at" = stored.map Int64.toInt) {row : Row} (hrow : row.IsNode)
    (hread : row.value? "updated_at" = some (.int (stored.elim 0 Int64.toInt))) :
    ∃ node, readNode now row = .ok node ∧
      (node.status = .up ↔ (now.toNat : Int) - stored.elim 0 Int64.toInt ≤ toleratedAge) ∧
      (∀ front rest s, Fragment.IsTrueBetween front (statusCondition now (some s)) rest cell ↔ node.status = s) ∧
      (∀ front rest, ∃! s, Fragment.IsTrueBetween front (statusCondition now (some s)) rest cell) ∧
      ∀ columns resources f s, f.wantedStatus = .ok (some s) →
        (nodeSource? resources f now).map (select columns) =
          .ok (nodeFront columns resources ++ (statusCondition now (some s) ++ nodeConditions f)) := by
  obtain ⟨node, hnode, hstatus⟩ := yields_readNode hrow hread now
  have hup : node.status = .up ↔ (stored.map Int64.toInt).any (oldestUp now ≤ ·) = true :=
    hstatus ▸ atTime_of_stored hlow hhigh stored
  have hlisted (front rest : Fragment) (s : Status) :
      Fragment.IsTrueBetween front (statusCondition now (some s)) rest cell ↔ node.status = s := by
    rw [isTrueBetween_statusCondition, hcell, ← hup]
    cases s <;> cases node.status <;> decide
  refine ⟨node, hnode, ?_, hlisted, fun front rest => ?_, fun columns resources f s hs => ?_⟩
  · rw [hup, oldestUp_eq hlow hhigh, toleratedAge]
    cases stored with
    | none => simp; omega
    | some v => simp; omega
  · exact ⟨node.status, (hlisted ..).2 rfl, fun s hs => ((hlisted ..).1 hs).symm⟩
  · rw [nodeSource?, hs, ← select_nodeSource]
    rfl

/-- A node that reported exactly three hours ago is listed under the status up, which it shows, and not under down. -/
theorem listed_status_is_shown_status_after_three_hours :
    ∃ node, readNode 20000 [("node_id", .int 7), ("updated_at", .int 9200)] = .ok node ∧ node.status = .up ∧
      Fragment.IsTrueBetween (nodeFront nodeColumns .view) (statusCondition 20000 (some .up)) (nodeConditions {})
        (fun _ => some 9200) ∧
      ¬ Fragment.IsTrueBetween (nodeFront nodeColumns .view) (statusCondition 20000 (some .down)) (nodeConditions {})
        (fun _ => some 9200) := by
  have hrow : Row.IsNode [("node_id", .int 7), ("updated_at", .int 9200)] := by
    constructor <;> simp [Row.value?, Row.int?]
  have hlow : 10800 < (20000 : UInt64).toNat := by decide
  obtain ⟨node, hnode, hup, hlisted, -, -⟩ :=
    listed_status_is_shown_status hlow (by decide) (some 9200) (fun _ => some 9200) rfl hrow rfl
  have hstatus : node.status = .up := hup.2 (by decide)
  exact ⟨node, hnode, hstatus, (hlisted _ _ _).2 hstatus, fun h => by simpa [hstatus] using (hlisted _ _ _).1 h⟩

end GridGateway.Sql
