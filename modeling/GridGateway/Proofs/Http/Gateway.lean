import GridGateway.Proofs.Grid.Answers
import GridGateway.Proofs.Http.OverGrid
import GridGateway.Proofs.Telemetry.History

/-!
# The service with a bus

Most requests are answered without a look at the state of a gateway (`Http.Service.respond_constant`).  The exception is
the detail of a node: what a node tells about itself is the report of the last success, and when there is none and a bus
is at hand, the node is refreshed (`Http.Service.selfDescription_of_report`, `Http.Service.selfDescription_of_no_bus`
and `Http.Service.selfDescription_of_bus`).
-/

namespace GridGateway

open Json Telemetry Bus

/-- The gateway that serves a grid, with a bus to its nodes if there is one. -/
def Grid.gateway {β : Type} (g : Grid) (bus : Option (Bus β)) (version : String) (timeout : Nat) :
    Http.Service Records β where
  inventory := Grid.inventory g
  bus := bus
  timeout := timeout
  version := version

namespace Http

variable {σ β α γ : Type}

/-- The work comes to the same result in every state, and leaves the state as it is. -/
def Work.IsConstant (w : Work σ β α) : Prop := ∃ r, ∀ state, w.Yields state r

namespace Work.IsConstant

theorem pure (a : α) : IsConstant (pure a : Work σ β α) := ⟨_, fun _ => Yields.pure a⟩

theorem checked (r : Except Query.QueryError α) : IsConstant (Http.checked r : Work σ β α) :=
  ⟨_, fun _ => Yields.checked r⟩

/-- What a grid answers without a look at the telemetry. -/
theorem consult (r : Except InventoryError α) : IsConstant (Http.consult (Grid.answer r) : Work Records β α) :=
  ⟨r.mapError .ofInventory, fun _ => rfl⟩

theorem bind {w : Work σ β α} {k : α → Work σ β γ} (hw : w.IsConstant) (hk : ∀ a, (k a).IsConstant) :
    (w >>= k).IsConstant := by
  obtain ⟨r, hr⟩ := hw
  cases r with
  | error e => exact ⟨_, fun state => run_bind_of_error (hr state)⟩
  | ok a =>
    obtain ⟨r, hr'⟩ := hk a
    exact ⟨r, fun state => (run_bind_of_ok (hr state)).trans (hr' state)⟩

end Work.IsConstant

/-- The number of the node that a segment of a path names, if it names one. -/
def nodeNumber? (segment : String) : Option UInt32 := (Text.percentDecode? segment.toList).bind Text.uint32?

/-- A segment that names no node is a bad request. -/
private theorem nodeNumber_yields (segment : String) :
    ∃ r : Except Failure UInt32, (∀ state : σ × β, (nodeNumber segment : Work σ β UInt32).Yields state r) ∧
      r.toOption = nodeNumber? segment ∧ ∀ e, r = .error e → e.response.status = 400 := by
  unfold nodeNumber nodeNumber?
  cases Text.percentDecode? segment.toList with
  | none => exact ⟨_, fun _ => rfl, rfl, fun e he => by cases he; rfl⟩
  | some raw =>
    rw [Option.bind_some]
    dsimp only
    cases Text.uint32? raw with
    | none => exact ⟨_, fun _ => rfl, rfl, fun e he => by cases he; rfl⟩
    | some id => exact ⟨_, fun _ => rfl, rfl, fun e he => nomatch he⟩

/-- A segment that names a node comes to its number. -/
theorem nodeNumber_of_eq_some {segment : String} {id : UInt32} (h : nodeNumber? segment = some id)
    (state : σ × β) : (nodeNumber segment : Work σ β UInt32).Yields state (.ok id) := by
  obtain ⟨r, hr, hr', -⟩ := nodeNumber_yields segment
  rw [h] at hr'
  cases r with
  | error e => cases hr'
  | ok n =>
    cases hr'
    exact hr state

section

variable (g : Grid) (bus : Option (Bus β)) (version : String) (timeout : Nat) (now : UInt64) (query : String)

/-- The node with a number is looked up in the grid. -/
theorem Service.consult_node (id : UInt32) (state : Records × β) :
    (consult ((g.gateway bus version timeout).inventory.node now id)).Yields state
      ((g.findNode now id).mapError .ofInventory) := rfl

private theorem Service.nodeStatus_constant (segment : String) :
    ((g.gateway bus version timeout).nodeStatus now segment).IsConstant := by
  obtain ⟨r, hr, -⟩ := nodeNumber_yields segment
  exact .bind ⟨r, hr⟩ fun id => .bind (.consult _) fun _ => .pure _

private theorem Service.listNodes_constant (shape : Shape) (filter : Query.NodeFilter) :
    ((g.gateway bus version timeout).listNodes shape now filter query).IsConstant :=
  .bind (.checked _) fun _ => .bind (.checked _) fun _ => .bind (.consult _) fun _ => .pure _

/-- Everything but the detail of a node is told without a look at the state, and without any change. -/
theorem Service.respond_constant {route : Route} (hroute : ∀ segment, route.endpoint ≠ .node segment) :
    ((g.gateway bus version timeout).respond now route query).IsConstant := by
  unfold respond
  cases hendpoint : route.endpoint with
  | index | ping | version => exact .pure _
  | farms | twins =>
    exact .bind (.checked _) fun _ => .bind (.checked _) fun _ => .bind (.consult _) fun _ => .pure _
  | contracts =>
    refine .bind (.checked _) fun _ => .bind (.checked _) fun _ => .bind (.checked _) fun _ => ?_
    exact .bind (.consult _) fun _ => .pure _
  | stats =>
    exact .bind (.checked _) fun _ => .bind (.checked _) fun _ => .bind (.consult _) fun _ => .pure _
  | nodes => exact .bind (.checked _) fun f => listNodes_constant g bus version timeout now query _ f
  | gateways => exact .bind (.checked _) fun f => listNodes_constant g bus version timeout now query _ _
  | node segment => exact absurd hendpoint (hroute segment)
  | nodeStatus segment => exact nodeStatus_constant g bus version timeout now segment

/-- Without the number of a node there is no detail. -/
theorem Service.nodeDetail_constant (shape : Shape) {segment : String} (hid : nodeNumber? segment = none) :
    ∃ e : Failure, e.response.status = 400 ∧ ∀ state : Records × β,
      ((g.gateway bus version timeout).nodeDetail shape now segment).Yields state (.error e) := by
  obtain ⟨r, hr, hr', herror⟩ := nodeNumber_yields segment
  rw [hid] at hr'
  cases r with
  | error e => exact ⟨e, herror e rfl, fun state => run_bind_of_error (hr state)⟩
  | ok id => cases hr'

end

/-! ### What a node tells about itself -/

end Http

/-- The report of the last fetch from a node that succeeded, if one ever did. -/
def Telemetry.Records.report? (rs : Records) (nodeId : UInt32) : Option Report :=
  ((rs.get? nodeId).filter (·.lastFetchSuccess.isSome)).map (·.report)

/-- A success replaces the report, a failure keeps it. -/
theorem Telemetry.Records.report?_enter (rs : Records) (e : Entry) (nodeId : UInt32) :
    (rs.enter e).report? nodeId =
      if nodeId = e.nodeId then e.report?.or (rs.report? nodeId) else rs.report? nodeId := by
  rw [report?, get?_enter]
  split
  · obtain ⟨id, outcome, time⟩ := e
    cases outcome with
    | ok report => rfl
    | error reason =>
      rw [report?]
      cases rs.get? nodeId with
      | none => rfl
      | some r =>
        cases hlast : r.lastFetchSuccess <;> simp [Option.filter, hlast, Entry.update, Record.fail, Entry.report?]
  · rfl

namespace Http

section

variable {g : Grid} {bus : Option (Bus β)} {version : String} {timeout : Nat} {now : UInt64} {records : Records}
  {script : β} {node : Node}

theorem Service.selfDescription_of_report {report : Report} (h : records.report? node.nodeId = some report) :
    ((g.gateway bus version timeout).selfDescription now node).Yields (records, script)
      (.ok (report.hypervisor, report.zosVersion)) := by
  obtain ⟨record, hrecord, rfl⟩ := Option.map_eq_some_iff.1 h
  refine (run_bind_of_ok (a := records.get? node.nodeId) rfl).trans ?_
  simp only [hrecord]
  rfl

theorem Service.selfDescription_of_no_bus (h : records.report? node.nodeId = none) :
    ((g.gateway (none : Option (Bus β)) version timeout).selfDescription now node).Yields (records, script)
      (.ok ("", "")) := by
  have hrecord := Option.map_eq_none_iff.1 h
  refine (run_bind_of_ok (a := records.get? node.nodeId) rfl).trans ?_
  simp only [hrecord]
  rfl

theorem refresh_grid (g : Grid) (bus : Bus β) (nodeId twinId : UInt32) (timeout : Nat) (now : UInt64)
    (records : Records) (script : β) :
    refresh g.inventory bus nodeId twinId timeout now (records, script) =
      ((bus.fetch twinId timeout script).1,
        (records.enter (.ofResult nodeId now (bus.fetch twinId timeout script).1.result),
          (bus.fetch twinId timeout script).2)) := by
  rw [refresh]
  simp only [record_grid]
  rfl

theorem Service.selfDescription_of_bus {bus : Bus β} (h : records.report? node.nodeId = none) {fetch : Fetch}
    {state : Records × β}
    (hrefresh : refresh g.inventory bus node.nodeId node.twinId timeout now (records, script) = (fetch, state)) :
    ((g.gateway (some bus) version timeout).selfDescription now node).run (records, script) =
      ((fetch.result.map fun report => (report.hypervisor, report.zosVersion)).mapError .ofBus, state) := by
  have hrecord := Option.map_eq_none_iff.1 h
  refine (run_bind_of_ok (a := records.get? node.nodeId) rfl).trans ?_
  simp only [hrecord]
  refine (run_bind_of_ok (run_lift_of_eq hrefresh)).trans ?_
  cases fetch.result with
  | ok report => rfl
  | error e => rfl

/-- The detail of a node that is there is what it tells about itself. -/
theorem Service.nodeDetail_run {shape : Shape} {segment : String} {id : UInt32} (hid : nodeNumber? segment = some id)
    (hnode : g.findNode now id = .ok node) :
    ((g.gateway bus version timeout).nodeDetail shape now segment).run (records, script) =
      ((g.gateway bus version timeout).selfDescription now node >>= fun d =>
        pure (.json 200 (shape.detail d.1 d.2 node)) : Work Records β Response).run (records, script) := by
  have hconsult := Service.consult_node g bus version timeout now id (records, script)
  rw [hnode] at hconsult
  exact (run_bind_of_ok (nodeNumber_of_eq_some hid _)).trans (run_bind_of_ok hconsult)

/-- There is no detail of a node that is not there. -/
theorem Service.nodeDetail_of_missing {shape : Shape} {segment : String} {id : UInt32}
    (hid : nodeNumber? segment = some id) (hnode : g.findNode now id = .error .nodeNotFound) :
    ((g.gateway bus version timeout).nodeDetail shape now segment).Yields (records, script)
      (.error (.notFound "node not found")) := by
  have hconsult := Service.consult_node g bus version timeout now id (records, script)
  rw [hnode] at hconsult
  exact (run_bind_of_ok (nodeNumber_of_eq_some hid _)).trans (run_bind_of_error hconsult)

end

end Http

end GridGateway
