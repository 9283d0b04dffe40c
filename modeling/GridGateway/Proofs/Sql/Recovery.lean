import GridGateway.Proofs.Sql.Plans
import GridGateway.Proofs.Sql.Questions

/-!
# Recovery from missing objects

Every question to the database follows a plan (`Question.plan`), whose statements are different from each other and
from the setup script (`Plan.Fresh`).  So the conversation about a question is the plan's statements in their order,
each with at most one run of the setup script and at most one repetition (`Question.runs_in_segments`).
-/

namespace GridGateway.Sql

open Query Telemetry

/-! ### Plans of questions -/

/-- The statement that counts the matches of a listing. -/
def Listing.count (l : Listing) : Fragment := select countColumns l.source

/-- The statement that reads the page of a listing from a row on. -/
def Listing.page (l : Listing) (limit : Limit) (start : UInt64) : Fragment :=
  select l.columns l.source ++ l.order ++ window limit.size start

namespace Plan

variable {α β : Type}

/-- A statement whose value is the outcome. -/
def single (q : Fragment) (e : Expect α) : Plan α := .ask q e fun a => .done (.ok a)

/-- A statement that looks up a row that must be there. -/
def lookup (q : Fragment) (read : RowReader α) (absent : InventoryError) : Plan α :=
  .ask q (.optional read) fun row => .done (row.elim (.error absent) .ok)

/-- A plan that is given up before the first statement when a filter is refused. -/
def checked (r : Except QueryError β) (next : β → Plan α) : Plan α :=
  match r with
  | .ok b => next b
  | .error e => .done (.error (.invalidFilter e))

/-- The count of a listing, if the limit needs it, and the page. -/
def listing (pick : UInt64 → UInt64) (l : Listing) (limit : Limit) (read : RowReader β)
    (answer : List β × UInt64 → Except InventoryError α) : Plan α :=
  let page (total : UInt64) : Plan α := .ask (l.page limit (pageStart pick limit total)) (.all read) fun rows =>
    .done (answer (rows, limit.shownCount total))
  if limit.retCount || limit.randomize then .ask l.count (.one readCount) page else page 0

end Plan

namespace Question

/-- What a question is answered with. -/
def Answer : Question → Type
  | nodes .. => List Node × UInt64
  | node .. => Node
  | farms .. => List Farm × UInt64
  | farm .. => Farm
  | twins .. => List Twin × UInt64
  | contracts .. => List Contract × UInt64
  | counters .. => Counters
  | fetchTargets .. => List Target
  | telemetry .. => Option Record
  | recordSuccess .. => Unit
  | recordFailure .. => Unit

/-- The call of the inventory that answers a question. -/
def call (pick : UInt64 → UInt64) : (q : Question) → Talk q.Answer
  | nodes now f limit => (inventory pick).nodes now f limit
  | node now nodeId => (inventory pick).node now nodeId
  | farms f limit => (inventory pick).farms f limit
  | farm farmId => (inventory pick).farm farmId
  | twins f limit => (inventory pick).twins f limit
  | contracts f limit => (inventory pick).contracts f limit
  | counters now f => (inventory pick).counters now f
  | fetchTargets offset count => (inventory pick).fetchTargets offset count
  | telemetry nodeId => (inventory pick).telemetry nodeId
  | recordSuccess nodeId report time => (inventory pick).recordSuccess nodeId report time
  | recordFailure nodeId reason time => (inventory pick).recordFailure nodeId reason time

/-- The statements planned for a question and what is made of their values. -/
def plan (pick : UInt64 → UInt64) : (q : Question) → Plan q.Answer
  | nodes now f limit => .checked (nodeSource? .view f now) fun source =>
      .listing pick ⟨nodeColumns, source, nodeOrder f⟩ limit (readNode now) .ok
  | node now nodeId =>
      .lookup (select nodeColumns (nodeSource (.ofNode nodeId) none { nodeId := some nodeId.toUInt64 } now))
        (readNode now) .nodeNotFound
  | farms f limit => .listing pick ⟨farmColumns, farmSource f, farmOrder⟩ limit readFarm .ok
  | farm farmId =>
      .lookup (select farmColumns (farmSource { farmId := some farmId.toUInt64 })) readFarm .farmNotFound
  | twins f limit => .listing pick ⟨twinColumns, twinSource f, twinOrder⟩ limit readTwin .ok
  | contracts f limit => .checked (contractSource? f) fun source =>
      .listing pick ⟨contractColumns, source, contractOrder⟩ limit readContractRow fun (rows, count) =>
        (rows.mapM ContractRow.contract).map (·, count)
  | counters now f => .checked f.wantedStatus fun status =>
      .ask (countersQuery status now) (.one readCounters) fun counters =>
      .ask (distributionQuery status now) (.all readCountry) fun countries =>
      .done (.ok { counters with nodesDistribution := Json.sortMembers countries })
  | fetchTargets offset count => .single (Sql.fetchTargets offset count) (.all readTarget)
  | telemetry nodeId => .single (telemetryOf nodeId) (.optional readRecord)
  | recordSuccess nodeId report time => .single (Sql.recordSuccess nodeId report time) .nothing
  | recordFailure nodeId reason time => .single (Sql.recordFailure nodeId reason time) .nothing

/-- Refuses a question with a filter that cannot be understood. -/
def validate : Question → Except QueryError Unit
  | nodes _ f _ => f.validate
  | contracts f _ => f.validate
  | counters _ f => f.wantedStatus.map fun _ => ()
  | _ => .ok ()

end Question

/-! ### The plans are followed -/

section

variable {α β : Type}

private theorem Plan.talk_single (q : Fragment) (e : Expect α) : (Plan.single q e).talk = query q e :=
  bind_pure (query q e)

private theorem Plan.talk_lookup (columns : String) (source : Fragment) (read : RowReader α) (absent : InventoryError) :
    (Plan.lookup (select columns source) read absent).talk = findRow columns source read absent := by
  unfold Plan.lookup Plan.talk findRow
  congr 1
  funext row
  cases row <;> rfl

private theorem Plan.talk_checked (r : Except QueryError β) (next : β → Plan α) :
    (Plan.checked r next).talk = Sql.checked r >>= fun b => (next b).talk := by
  cases r <;> rfl

/-- What is made of a value in the outcome may be made of it afterwards. -/
private theorem mk_pure_map (r : Except InventoryError α) (f : α → β) :
    (ExceptT.mk (pure (r.map f)) : Talk β) = ExceptT.mk (pure r) >>= fun a => pure (f a) := by
  cases r <;> rfl

private theorem Plan.talk_listing (pick : UInt64 → UInt64) (l : Listing) (limit : Limit) (read : RowReader β)
    (answer : List β × UInt64 → Except InventoryError α) :
    (Plan.listing pick l limit read answer).talk =
      listPage pick l.columns l.source l.order read limit >>= fun r => ExceptT.mk (pure (answer r)) := by
  simp only [Plan.listing, listPage, bind_assoc, pure_bind]
  unfold countMatches
  split
  · rfl
  · rw [pure_bind]
    rfl

end

theorem Question.talk_plan (pick : UInt64 → UInt64) (q : Question) : (q.plan pick).talk = q.call pick := by
  -- a listing that is answered with its rows is the page of the inventory
  have hlisting {α : Type} (l : Listing) (limit : Limit) (read : RowReader α) :
      (Plan.listing pick l limit read .ok).talk = listPage pick l.columns l.source l.order read limit := by
    rw [Plan.talk_listing]
    exact bind_pure _
  cases q with
  | nodes now f limit =>
    exact (Plan.talk_checked _ _).trans (bind_congr fun source => hlisting _ _ _)
  | node now nodeId => exact Plan.talk_lookup _ _ _ _
  | farms f limit => exact hlisting _ _ _
  | farm farmId => exact Plan.talk_lookup _ _ _ _
  | twins f limit => exact hlisting _ _ _
  | contracts f limit =>
    refine (Plan.talk_checked _ _).trans (bind_congr fun source => ?_)
    refine (Plan.talk_listing _ _ _ _ _).trans (bind_congr fun (rows, count) => ?_)
    exact mk_pure_map _ _
  | counters now f =>
    refine (Plan.talk_checked _ _).trans (bind_congr fun status => ?_)
    rfl
  | fetchTargets offset count => exact Plan.talk_single _ _
  | telemetry nodeId => exact Plan.talk_single _ _
  | recordSuccess nodeId report time => exact Plan.talk_single _ _
  | recordFailure nodeId reason time => exact Plan.talk_single _ _

/-! ### Readers -/

theorem columnwise_listing {α β : Type} (pick : UInt64 → UInt64) (l : Listing) (limit : Limit) {read : RowReader β}
    (hread : RowReader.Columnwise read) (answer : List β × UInt64 → Except InventoryError α) :
    (Plan.listing pick l limit read answer).Columnwise := by
  unfold Plan.listing
  split
  · exact ⟨columnwise_readCount, fun _ => ⟨hread, fun _ => trivial⟩⟩
  · exact ⟨hread, fun _ => trivial⟩

private theorem columnwise_checked {α β : Type} (r : Except QueryError β) {next : β → Plan α}
    (h : ∀ b, (next b).Columnwise) : (Plan.checked r next).Columnwise := by
  cases r with
  | ok b => exact h b
  | error e => trivial

private theorem Question.columnwise_plan (pick : UInt64 → UInt64) (q : Question) : (q.plan pick).Columnwise := by
  cases q with
  | nodes now f limit =>
    exact columnwise_checked _ fun source => columnwise_listing pick _ limit (columnwise_readNode now) _
  | node now nodeId => exact ⟨columnwise_readNode now, fun _ => trivial⟩
  | farms f limit => exact columnwise_listing pick _ limit columnwise_readFarm _
  | farm farmId => exact ⟨columnwise_readFarm, fun _ => trivial⟩
  | twins f limit => exact columnwise_listing pick _ limit columnwise_readTwin _
  | contracts f limit =>
    exact columnwise_checked _ fun source => columnwise_listing pick _ limit columnwise_readContractRow _
  | counters now f =>
    exact columnwise_checked _ fun status =>
      ⟨columnwise_readCounters, fun _ => ⟨columnwise_readCountry, fun _ => trivial⟩⟩
  | fetchTargets offset count => exact ⟨columnwise_readTarget, fun _ => trivial⟩
  | telemetry nodeId => exact ⟨columnwise_readRecord, fun _ => trivial⟩
  | recordSuccess nodeId report time => exact ⟨trivial, fun _ => trivial⟩
  | recordFailure nodeId reason time => exact ⟨trivial, fun _ => trivial⟩

/-! ### How statements open -/

/-- A statement whose text begins with the given characters. -/
def Statement.Opens (s : Statement) (cs : List Char) : Prop := cs <+: s.sql.toList

private theorem Statement.Opens.ne {s t : Statement} {cs ds : List Char} (hs : s.Opens cs) (ht : t.Opens ds)
    (h : ¬ cs <+: ds ∧ ¬ ds <+: cs) : s ≠ t := by
  rintro rfl
  rcases List.prefix_or_prefix_of_prefix hs ht with hcs | hds
  · exact h.1 hcs
  · exact h.2 hds

private theorem begins_of_eq_ofList {s : String} {cs rest : List Char} (h : s = String.ofList (cs ++ rest)) :
    cs <+: s.toList := by
  rw [h, String.toList_ofList]
  exact List.prefix_append _ _

private theorem begins_append {s : String} {cs : List Char} (h : cs <+: s.toList) (t : String) :
    cs <+: (s ++ t).toList := by
  rw [String.toList_append]
  exact h.trans (List.prefix_append _ _)

/-- A statement opens as its first text does. -/
private theorem opens_sql {s : String} {cs : List Char} (h : cs <+: s.toList) (p : Fragment) :
    (Fragment.statement (.sql s :: p)).Opens cs := by
  have hsql : (Fragment.statement (.sql s :: p)).sql.toList = s.toList ++ Fragment.textFrom 1 p :=
    String.toList_ofList
  unfold Statement.Opens
  rw [hsql]
  exact h.trans (List.prefix_append _ _)

private theorem opens_select {columns : String} {cs : List Char} (h : cs <+: columns.toList) (source : Fragment) :
    (select columns source).statement.Opens ("SELECT ".toList ++ cs) := by
  have hsql : (select columns source).statement.sql.toList =
      "SELECT ".toList ++ (columns.toList ++ Fragment.textFrom 1 source) :=
    String.toList_ofList
  unfold Statement.Opens
  rw [hsql, List.prefix_append_right_inj]
  exact h.trans (List.prefix_append _ _)

set_option maxRecDepth 20000 in
private theorem opens_setupStatement : setupStatement.Opens ['\n'] := begins_of_eq_ofList rfl

private theorem begins_countColumns : ['c'] <+: countColumns.toList := begins_of_eq_ofList rfl

set_option maxRecDepth 20000 in
private theorem begins_nodeColumns : ['\n'] <+: nodeColumns.toList := begins_of_eq_ofList rfl

set_option maxRecDepth 20000 in
private theorem begins_farmColumns : ['\n'] <+: farmColumns.toList := begins_of_eq_ofList rfl

set_option maxRecDepth 20000 in
private theorem begins_twinColumns : ['\n'] <+: twinColumns.toList := begins_of_eq_ofList rfl

set_option maxRecDepth 20000 in
private theorem begins_contractColumns : ['\n'] <+: contractColumns.toList := begins_of_eq_ofList rfl

private theorem opens_countersQuery (status : Option Status) (now : UInt64) :
    (countersQuery status now).statement.Opens ['S', 'E', 'L', 'E', 'C', 'T', ' ', '('] := by
  refine opens_sql ?_ _
  exact begins_append (begins_append (begins_of_eq_ofList rfl) _) _

private theorem opens_distributionQuery (status : Option Status) (now : UInt64) :
    (distributionQuery status now).statement.Opens ['S', 'E', 'L', 'E', 'C', 'T', ' ', 'C'] := by
  refine opens_sql ?_ _
  exact begins_of_eq_ofList rfl

private theorem opens_upsert (table key : String) (row : List (String × ColumnValue))
    (updates : List (String × String)) : (upsert table key row updates).statement.Opens "INSERT INTO ".toList :=
  opens_sql (begins_append (begins_append (begins_append (begins_append (List.prefix_refl _) _) _) _) _) _

/-- Nothing that opens with another letter is the setup script. -/
private theorem not_mem_setup {s : Statement} {c : Char} {cs : List Char} (h : s.Opens (c :: cs)) (hc : c ≠ '\n') :
    s ∉ [setupStatement] := by
  rw [List.mem_singleton]
  refine h.ne opens_setupStatement ⟨fun hp => ?_, fun hp => ?_⟩
  · exact hc (List.cons_prefix_cons.1 hp).1
  · exact hc (List.cons_prefix_cons.1 hp).1.symm

private theorem fresh_listing {α β : Type} (pick : UInt64 → UInt64) {l : Listing} (hl : ['\n'] <+: l.columns.toList)
    (limit : Limit) (read : RowReader β) (answer : List β × UInt64 → Except InventoryError α) :
    (Plan.listing pick l limit read answer).Fresh [setupStatement] := by
  have hpage (start : UInt64) : (l.page limit start).statement.Opens ("SELECT ".toList ++ ['\n']) :=
    opens_select hl _
  have hcount : l.count.statement.Opens ("SELECT ".toList ++ ['c']) := opens_select begins_countColumns _
  have hne (start : UInt64) : (l.page limit start).statement ≠ l.count.statement :=
    (hpage start).ne hcount (by decide)
  unfold Plan.listing
  split
  · refine ⟨not_mem_setup hcount (by decide), fun total => ⟨?_, fun _ => trivial⟩⟩
    rw [List.mem_append, not_or]
    exact ⟨not_mem_setup (hpage _) (by decide), fun h => hne _ (List.mem_singleton.1 h)⟩
  · exact ⟨not_mem_setup (hpage _) (by decide), fun _ => trivial⟩

private theorem fresh_checked {α β : Type} (r : Except QueryError β) {next : β → Plan α} {sent : List Statement}
    (h : ∀ b, (next b).Fresh sent) : (Plan.checked r next).Fresh sent := by
  cases r with
  | ok b => exact h b
  | error e => trivial

/-- The statements of a plan are different from each other and from the setup script. -/
private theorem Question.fresh_plan (pick : UInt64 → UInt64) (q : Question) : (q.plan pick).Fresh [setupStatement] := by
  cases q with
  | nodes now f limit =>
    refine fresh_checked _ fun source => ?_
    exact fresh_listing pick (l := ⟨nodeColumns, source, nodeOrder f⟩) begins_nodeColumns limit _ _
  | node now nodeId => exact ⟨not_mem_setup (opens_select begins_nodeColumns _) (by decide), fun _ => trivial⟩
  | farms f limit => exact fresh_listing pick (l := ⟨farmColumns, _, _⟩) begins_farmColumns limit _ _
  | farm farmId => exact ⟨not_mem_setup (opens_select begins_farmColumns _) (by decide), fun _ => trivial⟩
  | twins f limit => exact fresh_listing pick (l := ⟨twinColumns, _, _⟩) begins_twinColumns limit _ _
  | contracts f limit =>
    refine fresh_checked _ fun source => ?_
    exact fresh_listing pick (l := ⟨contractColumns, source, _⟩) begins_contractColumns limit _ _
  | counters now f =>
    refine fresh_checked _ fun status => ⟨not_mem_setup (opens_countersQuery status now) (by decide), fun _ => ?_⟩
    refine ⟨?_, fun _ => trivial⟩
    rw [List.mem_append, not_or]
    refine ⟨not_mem_setup (opens_distributionQuery status now) (by decide), fun h => ?_⟩
    exact (opens_distributionQuery status now).ne (opens_countersQuery status now) (by decide)
      (List.mem_singleton.1 h)
  | fetchTargets offset count =>
    have hopens : (Sql.fetchTargets offset count).statement.Opens ['S'] := by
      refine opens_sql ?_ _
      exact begins_append (begins_append (begins_append (begins_of_eq_ofList rfl) _) _) _
    exact ⟨not_mem_setup hopens (by decide), fun _ => trivial⟩
  | telemetry nodeId =>
    have hopens : (telemetryOf nodeId).statement.Opens "SELECT ".toList := by
      refine opens_sql ?_ _
      exact begins_append (begins_append (List.prefix_refl _) _) _
    exact ⟨not_mem_setup hopens (by decide), fun _ => trivial⟩
  | recordSuccess nodeId report time =>
    exact ⟨not_mem_setup (opens_upsert _ _ _ _) (by decide), fun _ => trivial⟩
  | recordFailure nodeId reason time =>
    exact ⟨not_mem_setup (opens_upsert _ _ _ _) (by decide), fun _ => trivial⟩

/-! ### Refused filters -/

private theorem eq_error_of_map_eq_error {ε α β : Type} {r : Except ε α} {g : α → β} {e : ε}
    (h : r.map g = .error e) : r = .error e := by
  cases r with
  | ok a => cases h
  | error e' =>
    cases h
    rfl

/-- A filter of nodes has a source just when it is understood. -/
theorem nodeSource_map (r : Resources) (f : NodeFilter) (now : UInt64) :
    (nodeSource? r f now).map (fun _ => ()) = f.validate := by
  unfold nodeSource? NodeFilter.validate
  cases f.wantedStatus <;> rfl

/-- A filter of contracts has a source just when it is understood. -/
theorem contractSource_map (f : ContractFilter) : (contractSource? f).map (fun _ => ()) = f.validate := by
  unfold contractSource? ContractFilter.validate
  cases f.wantedState with
  | error e => rfl
  | ok state => cases f.wantedKind <;> rfl

/-! ### Runs -/

namespace Question

private theorem ask_eq_forget_call (pick : UInt64 → UInt64) (q : Question) : q.ask pick = forget (q.call pick) := by
  cases q <;> rfl

/-- A question with a filter that cannot be understood is given up at once. -/
private theorem plan_of_refused (pick : UInt64 → UInt64) {q : Question} {e : QueryError} (h : q.validate = .error e) :
    q.plan pick = .done (.error (.invalidFilter e)) := by
  cases q with
  | nodes now f limit =>
    rw [plan, eq_error_of_map_eq_error ((nodeSource_map .view f now).trans h)]
    rfl
  | contracts f limit =>
    rw [plan, eq_error_of_map_eq_error ((contractSource_map f).trans h)]
    rfl
  | counters now f =>
    rw [plan, eq_error_of_map_eq_error h]
    rfl
  | node | farms | farm | twins | fetchTargets | telemetry | recordSuccess | recordFailure => cases h

/-- Whatever the database replies, the plan of a question is followed in segments about different statements. -/
theorem runs_in_segments (pick : UInt64 → UInt64) (q : Question) (s : Session) :
    ∃ gs : List Segment, (q.plan pick).Run gs ((q.call pick).run s).1 ∧
      s.Hears (gs.flatMap Segment.exchanges) ((q.call pick).run s).2 ∧
      (setupStatement :: gs.map (·.statement)).Nodup := by
  obtain ⟨gs, hrun, hhears⟩ := Plan.runs (q.columnwise_plan pick) s
  rw [q.talk_plan pick] at hrun hhears
  exact ⟨gs, hrun, hhears, hrun.nodup (List.pairwise_singleton _ _) (q.fresh_plan pick)⟩

/-- The statements sent for a question are the planned ones in their order.  Each takes up one segment, with the setup
script and the repetition just when `Segment` says so, and the first segment without a value ends the call with the
error of its first reply.  No statement occurs in two segments, and a filter that is refused has none. -/
theorem missing_objects_recovered_once (pick : UInt64 → UInt64) (q : Question) (replies : List Reply) :
    ∃ gs : List Segment,
      (q.sent pick replies).reverse = (gs.flatMap Segment.exchanges).map (·.statement) ∧
      Session.Hears { replies := replies } (gs.flatMap Segment.exchanges)
        ((q.call pick).run { replies := replies }).2 ∧
      (q.plan pick).Run gs ((q.call pick).run { replies := replies }).1 ∧
      (setupStatement :: gs.map (·.statement)).Nodup ∧
      ∀ e, q.validate = .error e →
        gs = [] ∧ ((q.call pick).run { replies := replies }).1 = .error (.invalidFilter e) := by
  obtain ⟨gs, hrun, hhears, hnodup⟩ := q.runs_in_segments pick { replies := replies }
  have hsent : q.sent pick replies = ((q.call pick).run { replies := replies }).2.sent := by
    rw [sent, ask_eq_forget_call]
    rfl
  refine ⟨gs, ?_, hhears, hrun, hnodup, fun e he => ?_⟩
  · rw [hsent, hhears.sent_eq, List.append_nil, List.reverse_reverse]
  · rw [plan_of_refused pick he] at hrun
    generalize ((q.call pick).run { replies := replies }).1 = outcome at hrun
    cases hrun
    exact ⟨rfl, rfl⟩

/-- Contracts in a state that does not exist are asked for without a statement. -/
theorem unknown_state_sends_nothing :
    ∃ e, (contracts { state := some "broken" } {}).validate = .error e ∧
      (contracts { state := some "broken" } {}).sent id [.failed "closed"] = [] ∧
      (((contracts { state := some "broken" } {}).call id).run { replies := [.failed "closed"] }).1 =
        .error (.invalidFilter e) := by
  obtain ⟨gs, hsent, _, _, _, hrefused⟩ :=
    missing_objects_recovered_once id (contracts { state := some "broken" } {}) [.failed "closed"]
  obtain ⟨rfl, houtcome⟩ := hrefused _ rfl
  exact ⟨_, rfl, List.reverse_eq_nil_iff.1 hsent, houtcome⟩

end Question

end GridGateway.Sql
