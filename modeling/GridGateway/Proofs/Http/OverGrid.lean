import GridGateway.Grid.Inventory
import GridGateway.Http.Router
import GridGateway.Proofs.Query.RoundTrip
import GridGateway.Proofs.Runs
import GridGateway.Proofs.Text.Integer

/-!
# The service over a grid

A service whose inventory is a grid and that has no bus never changes the state it works on, so what comes out of a
request is a plain result (`Work.Yields`). Below are the results of all endpoints whose query lists the pairs of a
filter and a limit, in terms of the questions that the grid is asked.
-/

namespace GridGateway

open Query Telemetry

/-- The gateway that serves a grid, without a bus to its nodes. -/
def Grid.service {β : Type} (g : Grid) (version : String) (timeout : Nat) : Http.Service Records β :=
  { inventory := Grid.inventory g, bus := none, timeout := timeout, version := version }

/-- The answer of a grid to a question, given the telemetry. -/
def Grid.asked {α : Type} (records : Records) (q : Ask Records α) : Except InventoryError α := (q.run records).1

/-- What is known of a node itself: its hypervisor and the version of its operating system as of the last successful
fetch, or nothing. -/
def Telemetry.Records.selfDescription (records : Records) (nodeId : UInt32) : String × String :=
  match (records.get? nodeId).filter (·.lastFetchSuccess.isSome) with
  | some record => (record.report.hypervisor, record.report.zosVersion)
  | none => ("", "")

namespace Http

variable {σ β α γ : Type}

/-- In this state the work comes to this result and leaves the state as it is. -/
def Work.Yields (w : Work σ β α) (state : σ × β) (r : Except Failure α) : Prop := w.run state = (r, state)

namespace Work.Yields

variable {state : σ × β}

theorem pure (a : α) : Yields (pure a : Work σ β α) state (.ok a) := rfl

/-- Work after work goes on with what came out. -/
theorem bind {w : Work σ β α} {k : α → Work σ β γ} {r : Except Failure α} {s : α → Except Failure γ}
    (hw : Yields w state r) (hk : ∀ a, r = .ok a → Yields (k a) state (s a)) :
    Yields (w >>= k) state (r >>= s) := by
  cases r with
  | error e => exact run_bind_of_error hw
  | ok a => exact (run_bind_of_ok hw).trans (hk a rfl)

theorem checked (r : Except QueryError α) : Yields (checked r) state (r.mapError .ofQuery) := rfl

end Work.Yields

/-- A `GET` to a path is answered on its route, for pages of any origin. -/
theorem Service.serve_of_get {s : Service σ β} {now : UInt64} {state after : σ × β} {request : Request} {route : Route}
    {r : Response} (hmethod : request.method = "GET") (hroute : Route.ofPath? request.target.path = some route)
    (hget : s.get now route request.target.query state = (r, after)) :
    s.serve now request state = (r.permitted, after) := by
  simp only [Service.serve, hroute, hmethod, ↓reduceIte]
  change StateT.bind (s.get now route request.target.query) _ state = _
  simp only [StateT.bind, hget]
  rfl

/-- A `GET` to a path is answered with the response that its work comes to. -/
theorem Service.serve_of_yields {s : Service σ β} {now : UInt64} {state : σ × β} {path query : String} {route : Route}
    {r : Response} (hroute : Route.ofPath? path = some route)
    (h : (s.respond now route query).Yields state (.ok r)) :
    s.serve now { target := ⟨path, query⟩ } state = (r.permitted, state) := by
  have hrun : (s.respond now route query).run state = (.ok r, state) := h
  refine Service.serve_of_get rfl hroute ?_
  simp only [Service.get, bind, StateT.bind, hrun]
  rfl

/-- A question to a grid that leaves the telemetry alone. -/
theorem Work.Yields.consult {records : Records} {script : β} {q : Ask Records α}
    (hq : (q.run records).2 = records) :
    Yields (Http.consult q) (records, script) ((Grid.asked records q).mapError .ofInventory) := by
  have hrun : q.run records = (Grid.asked records q, records) := Prod.ext rfl hq
  change (match q.run records with
    | (answer, store) => (answer.mapError Failure.ofInventory, (store, script))) = _
  rw [hrun]

/-- A limit that is read from a query goes on when it is accepted. -/
theorem Work.Yields.limit {state : σ × β} {query : String} {l : Limit} {k : Limit → Work σ β α}
    {r : Except Failure α} (hl : Params.ofQuery query = l.check.map fun _ => l) (hk : (k l).Yields state r) :
    (Http.checked (Params.ofQuery query) >>= k).Yields state (l.check.mapError .ofQuery >>= fun _ => r) := by
  rw [hl]
  have h := Work.Yields.bind (k := k) (s := fun _ => r) (.checked (l.check.map fun _ => l) : Work.Yields _ state _)
  cases hcheck : l.check with
  | error e =>
    rw [hcheck] at h
    exact h fun _ h => nomatch h
  | ok _ =>
    rw [hcheck] at h
    refine h fun a ha => ?_
    cases ha
    exact hk

/-- A filter that is read from a query goes on. -/
theorem Work.Yields.filter {F : Type} [Params F] {state : σ × β} {query : String} {f : F} {k : F → Work σ β α}
    {r : Except Failure α} (hf : Params.ofQuery query = .ok f) (hk : (k f).Yields state r) :
    (Http.checked (Params.ofQuery query) >>= k).Yields state r := by
  rw [hf]
  exact hk

section Endpoints

variable (g : Grid) (version : String) (timeout : Nat) (records : Records) (script : β) (now : UInt64)

/-- A page of nodes: first the status is checked, then the limit. -/
theorem Service.listNodes_yields (shape : Shape) (f : NodeFilter) {query : String} {l : Limit}
    (hl : Params.ofQuery query = l.check.map fun _ => l) :
    ((g.service version timeout).listNodes shape now f query).Yields (records, script) (do
      let _ ← f.validate.mapError .ofQuery
      let _ ← l.check.mapError .ofQuery
      let page ← (Grid.asked records ((Grid.inventory g).nodes now f l.withCount)).mapError .ofInventory
      .ok (listing (page.1.map shape.node) l.withCount page.2)) := by
  refine .bind (.checked _) fun _ _ => .limit hl ?_
  exact .bind (.consult rfl) fun _ _ => .pure _

/-- The number of a node is read from its own segment. -/
private theorem nodeNumber_decimal (id : UInt32) :
    (nodeNumber (Text.decimal id.toNat) : Work σ β UInt32) = pure id := by
  rw [nodeNumber, Text.percentDecode?_of_unreserved (Text.unreserved_decimal _), String.ofList_toList]
  simp only [Text.uint32?_decimal]

private theorem Service.selfDescription_yields (node : Node) :
    ((g.service version timeout).selfDescription now node).Yields (records, script)
      (.ok (records.selfDescription node.nodeId)) := by
  have htelemetry : Work.Yields (consult ((Grid.inventory g).telemetry node.nodeId)) (records, script)
      (.ok (records.get? node.nodeId)) := rfl
  refine htelemetry.bind (s := fun _ => _) fun record hrecord => ?_
  cases hrecord
  rw [Telemetry.Records.selfDescription]
  cases (records.get? node.nodeId).filter (·.lastFetchSuccess.isSome) with
  | none => rfl
  | some record => rfl

/-- The detail of a node. -/
theorem Service.nodeDetail_yields (shape : Shape) (id : UInt32) :
    ((g.service version timeout).nodeDetail shape now (Text.decimal id.toNat)).Yields (records, script) (do
      let node ← (Grid.asked records ((Grid.inventory g).node now id)).mapError .ofInventory
      let known := records.selfDescription node.nodeId
      .ok (.json 200 (shape.detail known.1 known.2 node))) := by
  rw [Service.nodeDetail, nodeNumber_decimal, pure_bind]
  refine .bind (.consult rfl) fun node _ => ?_
  exact .bind (s := fun _ => _) (Service.selfDescription_yields g version timeout records script now node) fun _ h => by
    cases h
    exact .pure _

/-- The status of a node. -/
theorem Service.nodeStatus_yields (id : UInt32) :
    ((g.service version timeout).nodeStatus now (Text.decimal id.toNat)).Yields (records, script) (do
      let node ← (Grid.asked records ((Grid.inventory g).node now id)).mapError .ofInventory
      .ok (.json 200 (NodeStatus.mk node.status).toJson)) := by
  rw [Service.nodeStatus, nodeNumber_decimal, pure_bind]
  exact .bind (.consult rfl) fun _ _ => .pure _

/-- A page of farms. -/
theorem Service.listFarms_yields (f : FarmFilter) {query : String} {l : Limit} (hf : Params.ofQuery query = .ok f)
    (hl : Params.ofQuery query = l.check.map fun _ => l) :
    ((g.service version timeout).listFarms query).Yields (records, script) (do
      let _ ← l.check.mapError .ofQuery
      let page ← (Grid.asked records ((Grid.inventory g).farms f l)).mapError .ofInventory
      .ok (listing (page.1.map Farm.toJson) l page.2)) := by
  refine .filter hf (.limit hl ?_)
  exact .bind (.consult rfl) fun _ _ => .pure _

/-- A page of twins. -/
theorem Service.listTwins_yields (f : TwinFilter) {query : String} {l : Limit} (hf : Params.ofQuery query = .ok f)
    (hl : Params.ofQuery query = l.check.map fun _ => l) :
    ((g.service version timeout).listTwins query).Yields (records, script) (do
      let _ ← l.check.mapError .ofQuery
      let page ← (Grid.asked records ((Grid.inventory g).twins f l)).mapError .ofInventory
      .ok (listing (page.1.map Twin.toJson) l page.2)) := by
  refine .filter hf (.limit hl ?_)
  exact .bind (.consult rfl) fun _ _ => .pure _

/-- A page of contracts: first the state and the kind are checked, then the limit. -/
theorem Service.listContracts_yields (f : ContractFilter) {query : String} {l : Limit}
    (hf : Params.ofQuery query = .ok f) (hl : Params.ofQuery query = l.check.map fun _ => l) :
    ((g.service version timeout).listContracts query).Yields (records, script) (do
      let _ ← f.validate.mapError .ofQuery
      let _ ← l.check.mapError .ofQuery
      let page ← (Grid.asked records ((Grid.inventory g).contracts f l)).mapError .ofInventory
      .ok (listing (page.1.map Contract.toJson) l page.2)) := by
  refine .filter hf (.bind (.checked _) fun _ _ => .limit hl ?_)
  exact .bind (.consult rfl) fun _ _ => .pure _

/-- The figures about the grid. -/
theorem Service.statistics_yields (f : StatsFilter) {query : String} (hf : Params.ofQuery query = .ok f) :
    ((g.service version timeout).statistics now query).Yields (records, script) (do
      let _ ← f.wantedStatus.mapError .ofQuery
      let counters ← (Grid.asked records ((Grid.inventory g).counters now f)).mapError .ofInventory
      .ok (.json 200 counters.toJson)) := by
  refine .filter hf (.bind (.checked _) fun _ _ => ?_)
  exact .bind (.consult rfl) fun _ _ => .pure _

end Endpoints

end Http

end GridGateway
