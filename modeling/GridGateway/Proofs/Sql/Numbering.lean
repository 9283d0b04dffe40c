import GridGateway.Proofs.Sql.Placeholders
import GridGateway.Proofs.Sql.Shape

/-!
# Numbering of the statements

Every statement of the inventory is numbered: its fixed texts are clean, and whatever constraints a filter has, each
of them adds a neat fragment.  The rows written about telemetry have a fixed expression among the values, so their
list is only numbered, between two texts that close it off (`numbered_upsert`).
-/

namespace GridGateway.Sql

open Query Fragment

/-! ### Optional constraints -/

private theorem neat_compare {column : String} (hc : Clean column) (c : Comparison) (p : Option Param) :
    Neat (compare column c p) := by
  cases p with
  | none => exact .nil
  | some p =>
    have hsign : Clean c.sign := by cases c <;> exact .ofList rfl
    exact .sql (.ofList rfl) (.sql hc (.sql hsign (.bind p .nil)))

/-- A condition whose value stands between two texts. -/
private theorem neat_condition {start column sign close : String} (hstart : Clean start) (hcolumn : Clean column)
    (hsign : Clean sign) (hclose : Clean close) (p : Param) :
    Neat [.sql start, .sql column, .sql sign, .bind p, .sql close] :=
  .sql hstart (.sql hcolumn (.sql hsign (.bind p (.text hclose))))

private theorem neat_equalsIgnoringCase {column : String} (hc : Clean column) (s : Option String) :
    Neat (equalsIgnoringCase column s) := by
  cases s with
  | none => exact .nil
  | some s => exact neat_condition (.ofList rfl) hc (.ofList rfl) (.ofList rfl) _

private theorem neat_containsIgnoringCase {column : String} (hc : Clean column) (s : Option String) :
    Neat (containsIgnoringCase column s) := by
  cases s with
  | none => exact .nil
  | some s => exact neat_condition (.ofList rfl) hc (.ofList rfl) (.ofList rfl) _

private theorem neat_anyOf {column : String} (hc : Clean column) (ns : List Int) : Neat (anyOf column ns) := by
  cases ns with
  | nil => exact .nil
  | cons n ns => exact neat_condition (.ofList rfl) hc (.ofList rfl) (.ofList rfl) _

private theorem neat_choose {s t : String} (hs : Clean s) (ht : Clean t) (b : Option Bool) : Neat (choose s t b) := by
  cases b with
  | none => exact .nil
  | some b =>
    cases b with
    | false => exact .sql (.ofList rfl) (.text ht)
    | true => exact .sql (.ofList rfl) (.text hs)

private theorem neat_fill (p : Param) {parts : List (List Char)} (h : ∀ part ∈ parts, isClean part = true) :
    Neat (fill p parts) := by
  fun_induction fill p parts with
  | case1 => exact .nil
  | case2 part => exact .text (.ofList (h part (List.mem_cons_self ..)))
  | case3 part parts _ ih =>
    rw [List.forall_mem_cons] at h
    exact .sql (.ofList h.1) (.bind p (ih h.2))

/-- A clause may be a template when the texts between its question marks are clean. -/
private theorem neat_template {clause : String} {cs : List Char} (hcs : clause.toList = cs)
    (h : (splitAll '?' cs).all isClean = true) (p : Option Param) : Neat (template clause p) := by
  subst hcs
  cases p with
  | none => exact .nil
  | some p => exact .sql (.ofList rfl) (neat_fill p (List.all_eq_true.1 h))

private theorem neat_statusCondition (now : UInt64) (status : Option Status) : Neat (statusCondition now status) := by
  cases status with
  | none => exact .nil
  | some s =>
    rw [statusCondition]
    cases s with
    | up => exact neat_template String.toList_ofList (by rfl) _
    | down => exact neat_template String.toList_ofList (by rfl) _

/-! ### Sources, orders and windows -/

theorem neat_window (size start : UInt64) : Neat (window size start) :=
  .sql (.ofList rfl) (.bind _ (.sql (.ofList rfl) (.bind _ .nil)))

theorem neat_select {columns : String} (hc : Clean columns) {source : Fragment} (hs : Neat source) :
    Neat (select columns source) :=
  .sql (.ofList rfl) (.sql hc hs)

private theorem neat_enoughFreeIps (p : Option Param) : Neat (template enoughFreeIps p) :=
  neat_template String.toList_ofList (by rfl) p

private theorem neat_enoughIps (p : Option Param) : Neat (template enoughIps p) :=
  neat_template String.toList_ofList (by rfl) p

private theorem toList_append_ofList (cs ds : List Char) :
    (String.ofList cs ++ String.ofList ds).toList = cs ++ ds := by
  rw [String.toList_append, String.toList_ofList, String.toList_ofList]

private theorem neat_rentable (p : Option Param) : Neat (template rentableClause p) :=
  neat_template (toList_append_ofList _ _) (by decide +kernel) p

private theorem neat_rented (p : Option Param) : Neat (template rentedClause p) :=
  neat_template String.toList_ofList (by rfl) p

private theorem neat_available (p : Option Param) : Neat (template availableClause p) :=
  neat_template (toList_append_ofList _ _) (by decide +kernel) p

-- One lemma for each constraint, in the order `nodeConditions` tests them.
private theorem neat_nodeConditions (f : NodeFilter) : Neat (nodeConditions f) :=
  neat_compare (.ofList (by rfl)) _ _
    |>.append (neat_compare (.ofList (by rfl)) _ _)
    |>.append (neat_compare (.ofList (by rfl)) _ _)
    |>.append (neat_compare (.ofList (by rfl)) _ _)
    |>.append (neat_compare (.ofList (by rfl)) _ _)
    |>.append (neat_compare (.ofList (by rfl)) _ _)
    |>.append (neat_compare (.ofList (by rfl)) _ _)
    |>.append (neat_equalsIgnoringCase (.ofList (by rfl)) _)
    |>.append (neat_containsIgnoringCase (.ofList (by rfl)) _)
    |>.append (neat_equalsIgnoringCase (.ofList (by rfl)) _)
    |>.append (neat_containsIgnoringCase (.ofList (by rfl)) _)
    |>.append (neat_compare (.ofList (by rfl)) _ _)
    |>.append (neat_compare (.ofList (by rfl)) _ _)
    |>.append (neat_anyOf (.ofList (by rfl)) _)
    |>.append (neat_equalsIgnoringCase (.ofList (by rfl)) _)
    |>.append (neat_containsIgnoringCase (.ofList (by rfl)) _)
    |>.append (neat_enoughFreeIps _)
    |>.append (neat_choose (.ofList (by rfl)) (.ofList (by rfl)) _)
    |>.append (neat_choose (.ofList (by rfl)) (.ofList (by rfl)) _)
    |>.append (neat_choose (.ofList (by rfl)) (.ofList (by rfl)) _)
    |>.append (neat_compare (.ofList (by rfl)) _ _)
    |>.append (neat_rentable _)
    |>.append (neat_rented _)
    |>.append (neat_compare (.ofList (by rfl)) _ _)
    |>.append (neat_available _)
    |>.append (neat_equalsIgnoringCase (.ofList (by rfl)) _)

private theorem neat_join (r : Resources) : Neat r.join := by
  cases r with
  | view => exact .text (.ofList rfl)
  | ofNode id => exact .sql (.ofList rfl) (.bind _ (.text (.ofList rfl)))

private theorem neat_whereTrue : Neat whereTrue := .text (.ofList rfl)

set_option maxRecDepth 20000 in
private theorem clean_nodeJoins : Clean nodeJoins := .ofList rfl

set_option maxRecDepth 20000 in
private theorem clean_contractSource : Clean contractSource := .ofList rfl

theorem neat_nodeSource (r : Resources) (status : Option Status) (f : NodeFilter) (now : UInt64) :
    Neat (nodeSource r status f now) := by
  have htable : Neat [.sql " FROM node"] := .text (.ofList rfl)
  have hjoins : Neat [.sql nodeJoins] := .text clean_nodeJoins
  exact htable.append (neat_join r) |>.append hjoins |>.append neat_whereTrue
    |>.append (neat_statusCondition now status) |>.append (neat_nodeConditions f)

theorem neat_nodeOrder (f : NodeFilter) : Neat (nodeOrder f) := by
  unfold nodeOrder
  split
  · exact .sql (.ofList rfl) (.bind _ (.text (.ofList rfl)))
  · exact .text (.ofList rfl)

theorem neat_farmSource (f : FarmFilter) : Neat (farmSource f) := by
  have htable : Neat [.sql " FROM farm"] := .text (.ofList rfl)
  exact htable.append neat_whereTrue
    |>.append (neat_enoughFreeIps _)
    |>.append (neat_enoughIps _)
    |>.append (neat_compare (.ofList (by rfl)) _ _)
    |>.append (neat_compare (.ofList (by rfl)) _ _)
    |>.append (neat_compare (.ofList (by rfl)) _ _)
    |>.append (neat_compare (.ofList (by rfl)) _ _)
    |>.append (neat_equalsIgnoringCase (.ofList (by rfl)) _)
    |>.append (neat_containsIgnoringCase (.ofList (by rfl)) _)
    |>.append (neat_equalsIgnoringCase (.ofList (by rfl)) _)
    |>.append (neat_compare (.ofList (by rfl)) _ _)

theorem neat_farmOrder : Neat farmOrder := .text (.ofList rfl)

theorem neat_twinSource (f : TwinFilter) : Neat (twinSource f) := by
  have htable : Neat [.sql " FROM twin"] := .text (.ofList rfl)
  exact htable.append neat_whereTrue
    |>.append (neat_compare (.ofList (by rfl)) _ _)
    |>.append (neat_compare (.ofList (by rfl)) _ _)
    |>.append (neat_compare (.ofList (by rfl)) _ _)
    |>.append (neat_compare (.ofList (by rfl)) _ _)

theorem neat_twinOrder : Neat twinOrder := .text (.ofList rfl)

theorem neat_contractConditions (state : Option ContractState) (kind : Option ContractKind) (f : ContractFilter) :
    Neat (contractConditions state kind f) := by
  have htable : Neat [.sql contractSource] := .text clean_contractSource
  exact htable.append neat_whereTrue
    |>.append (neat_compare (.ofList (by rfl)) _ _)
    |>.append (neat_compare (.ofList (by rfl)) _ _)
    |>.append (neat_compare (.ofList (by rfl)) _ _)
    |>.append (neat_compare (.ofList (by rfl)) _ _)
    |>.append (neat_equalsIgnoringCase (.ofList (by rfl)) _)
    |>.append (neat_compare (.ofList (by rfl)) _ _)
    |>.append (neat_compare (.ofList (by rfl)) _ _)
    |>.append (neat_compare (.ofList (by rfl)) _ _)
    |>.append (neat_compare (.ofList (by rfl)) _ _)

theorem neat_contractOrder : Neat contractOrder := .text (.ofList rfl)

/-! ### Columns -/

theorem clean_countColumns : Clean countColumns := .ofList rfl

set_option maxRecDepth 20000 in
theorem clean_nodeColumns : Clean nodeColumns := .ofList rfl

set_option maxRecDepth 20000 in
theorem clean_farmColumns : Clean farmColumns := .ofList rfl

set_option maxRecDepth 4000 in
theorem clean_twinColumns : Clean twinColumns := .ofList rfl

set_option maxRecDepth 20000 in
theorem clean_contractColumns : Clean contractColumns := .ofList rfl

/-! ### Statistics -/

theorem neat_countersQuery (status : Option Status) (now : UInt64) : Neat (countersQuery status now) := by
  have hs := neat_statusCondition now status
  exact Neat.text (.append (.append (.ofList (by rfl)) (.ofList (by rfl))) (.ofList (by rfl)))
    |>.append hs
    |>.append (.text (.ofList (by rfl)))
    |>.append hs
    |>.append (.text (.ofList (by rfl)))
    |>.append hs
    |>.append (.text (.append (.ofList (by rfl)) (.ofList (by rfl))))
    |>.append hs
    |>.append (.text (.append (.append (.append (.ofList (by rfl)) (.ofList (by rfl))) (.ofList (by rfl)))
      (.ofList (by rfl))))
    |>.append hs
    |>.append (.text (.append (.append (.append (.append (.append (.ofList (by rfl)) (.ofList (by rfl)))
      (.ofList (by rfl))) (.ofList (by rfl))) (.ofList (by rfl))) (.ofList (by rfl))))
    |>.append hs
    |>.append (.text (.ofList (by rfl)))

theorem neat_distributionQuery (status : Option Status) (now : UInt64) : Neat (distributionQuery status now) := by
  have hselect : Neat [.sql "SELECT COALESCE(node.country, '') AS country, count(*) AS nodes FROM node WHERE TRUE"] :=
    .text (.ofList rfl)
  exact hselect.append (neat_statusCondition now status) |>.append (.text (.ofList (by rfl)))

/-! ### Telemetry -/

private theorem numbered_commaSeparated {pieces : List Piece} (h : ∀ s, .sql s ∈ pieces → Plain s) :
    Numbered (commaSeparated pieces) := by
  fun_induction commaSeparated pieces with
  | case1 => exact Neat.nil.numbered
  | case2 p =>
    cases p with
    | sql s => exact .sql (h s (List.mem_cons_self ..)) Neat.nil.numbered
    | bind v => exact .bind v .nil
  | case3 p ps _ ih =>
    have hps := ih fun s hs => h s (List.mem_cons_of_mem _ hs)
    have hcomma : Neat (.sql ", " :: commaSeparated ps) := .sql_of_head (.ofList (by rfl)) rfl rfl hps
    cases p with
    | sql s => exact .sql (h s (List.mem_cons_self ..)) hcomma.numbered
    | bind v => exact .bind v hcomma

/-- Insertions and updates are numbered, whatever their values, if the fixed texts have no dollar signs. -/
theorem numbered_upsert {table key : String} {row : List (String × ColumnValue)} {updates : List (String × String)}
    (htable : Plain table) (hkey : Plain key) (hcolumns : ∀ entry ∈ row, Plain entry.1)
    (hfixed : ∀ entry ∈ row, ∀ s, entry.2 = .fixed s → Plain s) (hupdates : ∀ u ∈ updates, Plain u.1 ∧ Plain u.2) :
    Numbered (upsert table key row updates) := by
  have hinsert : Plain ("INSERT INTO " ++ table ++ " (" ++ ", ".intercalate (row.map (·.1)) ++ ") VALUES (") := by
    refine .append (.append (.append (.append (.ofList rfl) htable) (.ofList rfl)) ?_) (.ofList rfl)
    exact .intercalate (.ofList rfl) (List.forall_mem_map.2 hcolumns)
  have hvalues : Numbered (commaSeparated (row.map (·.2.piece))) := by
    refine numbered_commaSeparated fun s hs => ?_
    obtain ⟨entry, hentry, hpiece⟩ := List.mem_map.1 hs
    cases hv : entry.2 with
    | bound p =>
      rw [hv] at hpiece
      cases hpiece
    | fixed t =>
      rw [hv] at hpiece
      cases hpiece
      exact hfixed entry hentry s hv
  have hassignments : ∀ a ∈ updates.map assignment, Plain a := by
    refine List.forall_mem_map.2 fun u hu => ?_
    exact .append (.append (hupdates u hu).1 (.ofList rfl)) (hupdates u hu).2
  have hupdate :
      Neat [.sql (") ON CONFLICT (" ++ key ++ ") DO UPDATE SET " ++ ", ".intercalate (updates.map assignment))] := by
    refine .sql_of_head ?_ (c := ')') ?_ rfl Neat.nil.numbered
    · exact .append (.append (.append (.ofList rfl) hkey) (.ofList rfl)) (.intercalate (.ofList rfl) hassignments)
    · simp
  exact (Numbered.sql hinsert hvalues).append hupdate

private theorem plain_telemetryTable : Plain telemetryTable := .ofList rfl

private theorem plain_fromInserted {cs : List Char} (h : cs.all (· ≠ '$') = true) :
    Plain (fromInserted (String.ofList cs)).1 ∧ Plain (fromInserted (String.ofList cs)).2 :=
  ⟨.ofList h, .append (.ofList rfl) (.ofList h)⟩

private theorem plain_successUpdates : ∀ u ∈ successUpdates, Plain u.1 ∧ Plain u.2 := by
  simp only [successUpdates, List.forall_mem_cons, List.not_mem_nil, false_imp_iff, implies_true, and_true]
  exact ⟨plain_fromInserted rfl, plain_fromInserted rfl, plain_fromInserted rfl, plain_fromInserted rfl,
    plain_fromInserted rfl, plain_fromInserted rfl, plain_fromInserted rfl, plain_fromInserted rfl,
    plain_fromInserted rfl, plain_fromInserted rfl, plain_fromInserted rfl, plain_fromInserted rfl,
    ⟨.ofList rfl, .ofList rfl⟩, ⟨.ofList rfl, .ofList rfl⟩, plain_fromInserted rfl, plain_fromInserted rfl⟩

theorem numbered_recordSuccess (nodeId : UInt32) (report : Bus.Report) (time : UInt64) :
    Numbered (recordSuccess nodeId report time) := by
  refine numbered_upsert plain_telemetryTable (.ofList rfl) ?_ ?_ plain_successUpdates
  · simp only [successRow, List.forall_mem_cons, List.not_mem_nil, false_imp_iff, implies_true, and_true]
    and_intros
    all_goals exact .ofList rfl
  · simp [successRow]

private theorem plain_failureUpdates : ∀ u ∈ failureUpdates, Plain u.1 ∧ Plain u.2 := by
  simp only [failureUpdates, List.forall_mem_cons, List.not_mem_nil, false_imp_iff, implies_true, and_true]
  exact ⟨plain_fromInserted rfl, ⟨.ofList rfl, .append plain_telemetryTable (.ofList rfl)⟩, plain_fromInserted rfl,
    plain_fromInserted rfl⟩

theorem numbered_recordFailure (nodeId : UInt32) (reason : String) (time : UInt64) :
    Numbered (recordFailure nodeId reason time) := by
  refine numbered_upsert plain_telemetryTable (.ofList rfl) ?_ ?_ plain_failureUpdates
  · simp only [failureRow, List.forall_mem_cons, List.not_mem_nil, false_imp_iff, implies_true, and_true]
    and_intros
    all_goals exact .ofList rfl
  · have hone : Plain "1" := .ofList rfl
    simpa [failureRow] using hone

theorem numbered_fetchTargets (offset count : UInt64) : Numbered (fetchTargets offset count) := by
  refine Numbered.append (.sql ?_ Neat.nil.numbered) (neat_window count offset)
  exact .append (.append (.append (.ofList rfl) (.ofList rfl)) (.ofList rfl)) (.ofList rfl)

private theorem plain_telemetryColumns : ∀ c ∈ telemetryColumns, Plain c := by
  simp only [telemetryColumns, List.forall_mem_cons, List.not_mem_nil, false_imp_iff, implies_true, and_true]
  and_intros
  all_goals exact .ofList rfl

theorem numbered_telemetryOf (nodeId : UInt32) : Numbered (telemetryOf nodeId) := by
  refine .sql ?_ (.bind _ .nil)
  exact .append (.append (.ofList rfl) (.intercalate (.ofList rfl) plain_telemetryColumns)) (.ofList rfl)

end GridGateway.Sql
