import GridGateway.Http.Router
import GridGateway.Proofs.Sql.Questions

/-!
# Calls that are noted

A service may note every question to its inventory and every call on its bus (`Http.Service.noting`).  Nothing else
changes by it: responses and states are those of the service itself (`Http.Service.serve_noting`).  So a statement about
what a service calls is one about its notes.
-/

namespace GridGateway

/-! ### Runs with more in their states -/

/-- Where a state stands for another one, a run does there what the other run does. -/
def Projects {σ σ' α : Type} (π : σ → σ') (w : StateM σ α) (w' : StateM σ' α) : Prop :=
  ∀ s, Prod.map id π (w s) = w' (π s)

namespace Projects

variable {σ σ' ε α γ : Type} {π : σ → σ'}

theorem pure (a : α) : Projects π (pure a) (pure a) := fun _ => rfl

theorem bind {w : StateM σ α} {w' : StateM σ' α} {k : α → StateM σ γ} {k' : α → StateM σ' γ} (hw : Projects π w w')
    (hk : ∀ a, Projects π (k a) (k' a)) : Projects π (w >>= k) (w' >>= k') := by
  intro s
  change Prod.map id π (k (w s).1 (w s).2) = k' (w' (π s)).1 (w' (π s)).2
  rw [← hw s]
  exact hk _ _

/-- Runs that may fail, one after the other. -/
theorem next {t : ExceptT ε (StateM σ) α} {t' : ExceptT ε (StateM σ') α} {k : α → ExceptT ε (StateM σ) γ}
    {k' : α → ExceptT ε (StateM σ') γ} (ht : Projects π t.run t'.run) (hk : ∀ a, Projects π (k a).run (k' a).run) :
    Projects π (t >>= k).run (t' >>= k').run := by
  rw [ExceptT.run_bind, ExceptT.run_bind]
  refine ht.bind fun r => ?_
  cases r with
  | ok a => exact hk a
  | error e => exact .pure _

end Projects

/-! ### Noting -/

/-- Asks a question and notes it. -/
def Ask.noted {σ α : Type} (question : Sql.Question) (q : Ask σ α) : Ask (σ × List Sql.Question) α :=
  ExceptT.mk fun (store, asked) =>
    let (answer, store) := q.run store
    (answer, (store, question :: asked))

/-- An inventory that notes the questions to it, the last one first. -/
def Inventory.noting {σ : Type} (inv : Inventory σ) : Inventory (σ × List Sql.Question) where
  nodes := fun now f limit => Ask.noted (.nodes now f limit) (inv.nodes now f limit)
  node := fun now nodeId => Ask.noted (.node now nodeId) (inv.node now nodeId)
  farms := fun f limit => Ask.noted (.farms f limit) (inv.farms f limit)
  farm := fun farmId => Ask.noted (.farm farmId) (inv.farm farmId)
  twins := fun f limit => Ask.noted (.twins f limit) (inv.twins f limit)
  contracts := fun f limit => Ask.noted (.contracts f limit) (inv.contracts f limit)
  counters := fun now f => Ask.noted (.counters now f) (inv.counters now f)
  fetchTargets := fun offset count => Ask.noted (.fetchTargets offset count) (inv.fetchTargets offset count)
  telemetry := fun nodeId => Ask.noted (.telemetry nodeId) (inv.telemetry nodeId)
  recordSuccess := fun nodeId report time =>
    Ask.noted (.recordSuccess nodeId report time) (inv.recordSuccess nodeId report time)
  recordFailure := fun nodeId reason time =>
    Ask.noted (.recordFailure nodeId reason time) (inv.recordFailure nodeId reason time)

/-- A bus that notes the twins called and their commands, the last one first. -/
def Bus.noting {β : Type} (bus : Bus β) : Bus (β × List (UInt32 × String)) where
  call := fun twinId command (script, sent) =>
    let (outcome, script) := bus.call twinId command script
    (outcome, (script, (twinId, command) :: sent))

section

variable {σ β α : Type}

private theorem projects_noted (question : Sql.Question) (q : Ask σ α) :
    Projects Prod.fst (Ask.noted question q).run q.run :=
  fun _ => rfl

private theorem Telemetry.projects_ignore {q : Ask σ α} {question : Sql.Question} :
    Projects Prod.fst (Ask.ignore (Ask.noted question q)) (Ask.ignore q) :=
  (projects_noted question q).bind fun _ => .pure _

private theorem Telemetry.projects_record (inv : Inventory σ) (nodeId : UInt32) (time : UInt64)
    (result : Except Bus.BusError Bus.Report) :
    Projects Prod.fst (record inv.noting nodeId time result) (record inv nodeId time result) := by
  cases result <;> exact projects_ignore

private theorem Bus.projects_ask (bus : Bus β) (twinId : UInt32) (q : Bus.Question) :
    Projects Prod.fst (bus.noting.ask twinId q) (bus.ask twinId q) :=
  Projects.bind (fun _ => rfl) fun _ => .pure _

private theorem Bus.projects_pass (bus : Bus β) (twinId : UInt32) (timeout deadline time : Nat) (stage : Stage) :
    Projects Prod.fst (stage.pass bus.noting twinId timeout deadline time)
      (stage.pass bus twinId timeout deadline time) := by
  refine (bus.projects_ask twinId stage.question).bind fun (delay, reply) => ?_
  show Projects _ (if deadline < time + delay then _ else _) (if deadline < time + delay then _ else _)
  split
  · exact .pure _
  · cases reply with
    | error e => exact .pure _
    | ok r =>
      dsimp only
      cases stage.next r <;> exact .pure _

private theorem Bus.projects_run (bus : Bus β) (twinId : UInt32) (timeout left time : Nat) (stage : Stage) :
    Projects Prod.fst (stage.run bus.noting twinId timeout left time) (stage.run bus twinId timeout left time) := by
  induction left generalizing time stage with
  | zero => exact .pure _
  | succ left ih =>
    refine (bus.projects_pass twinId timeout timeout time stage).bind fun turn => ?_
    rcases turn with ⟨later, stage⟩ | ⟨last, result⟩
    · exact (ih later stage).bind fun _ => .pure _
    · exact .pure _

end

/-! ### Services that note their calls -/

namespace Http

variable {σ β α : Type}

/-- The service with an inventory and a bus that note what they are called for. -/
def Service.noting (s : Service σ β) : Service (σ × List Sql.Question) (β × List (UInt32 × String)) where
  inventory := s.inventory.noting
  bus := s.bus.map Bus.noting
  timeout := s.timeout
  version := s.version

/-- The state without the notes. -/
def withoutNotes (state : (σ × List Sql.Question) × (β × List (UInt32 × String))) : σ × β :=
  state.map Prod.fst Prod.fst

private theorem projects_consult (question : Sql.Question) (q : Ask σ α) :
    Projects (withoutNotes (β := β)) (consult (Ask.noted question q)).run (consult q).run := fun _ => rfl

private theorem projects_checked (r : Except Query.QueryError α) :
    Projects (withoutNotes (σ := σ) (β := β)) (checked r).run (checked r).run := fun _ => rfl

namespace Service

variable (s : Service σ β) (now : UInt64)

private theorem projects_refresh (bus : Bus β) (nodeId twinId : UInt32) :
    Projects withoutNotes (Telemetry.refresh s.inventory.noting bus.noting nodeId twinId s.timeout now)
      (Telemetry.refresh s.inventory bus nodeId twinId s.timeout now) := by
  rintro ⟨⟨store, asked⟩, script, sent⟩
  rcases hnoting : bus.noting.fetch twinId s.timeout (script, sent) with ⟨fetch, script', sent'⟩
  rcases hrecording : Telemetry.record s.inventory.noting nodeId now fetch.result (store, asked) with
    ⟨done, store', asked'⟩
  have hfetch : bus.fetch twinId s.timeout script = (fetch, script') := by
    have hrun := bus.projects_run twinId s.timeout 3 0 .first (script, sent)
    rw [show Bus.Stage.run bus.noting twinId s.timeout 3 0 .first (script, sent) = _ from hnoting] at hrun
    exact hrun.symm
  have hrecord : Telemetry.record s.inventory nodeId now fetch.result store = (done, store') := by
    have hrun := Telemetry.projects_record s.inventory nodeId now fetch.result (store, asked)
    rw [hrecording] at hrun
    exact hrun.symm
  simp only [Telemetry.refresh, hnoting, hrecording, withoutNotes, Prod.map, hfetch, hrecord, id_eq]

private theorem projects_selfDescription (node : Node) :
    Projects withoutNotes (s.noting.selfDescription now node).run (s.selfDescription now node).run := by
  refine (projects_consult _ _).next fun record => ?_
  cases record.filter (·.lastFetchSuccess.isSome) with
  | some record => exact .pure _
  | none =>
    have hrefresh := fun bus => s.projects_refresh now bus node.nodeId node.twinId
    obtain ⟨inventory, bus, timeout, version⟩ := s
    cases bus with
    | none => exact .pure _
    | some bus =>
      refine .next ((hrefresh bus).bind fun _ => .pure _) fun fetch => ?_
      cases fetch.result <;> exact .pure _

private theorem projects_nodeNumber (segment : String) :
    Projects (withoutNotes (σ := σ) (β := β)) (nodeNumber segment).run (nodeNumber segment).run := by
  unfold nodeNumber
  split
  · exact .pure _
  · split <;> exact .pure _

private theorem projects_respond (route : Route) (query : String) :
    Projects withoutNotes (s.noting.respond now route query).run (s.respond now route query).run := by
  obtain ⟨shape, endpoint⟩ := route
  have hnodes (f : Query.NodeFilter) : Projects withoutNotes (s.noting.listNodes shape now f query).run
      (s.listNodes shape now f query).run :=
    (projects_checked _).next fun _ => (projects_checked _).next fun _ => (projects_consult _ _).next fun _ => .pure _
  cases endpoint with
  | index => exact .pure _
  | ping => exact .pure _
  | version => exact .pure _
  | farms | twins | stats =>
    exact (projects_checked _).next fun _ => (projects_checked _).next fun _ =>
      (projects_consult _ _).next fun _ => .pure _
  | contracts =>
    exact (projects_checked _).next fun _ => (projects_checked _).next fun _ => (projects_checked _).next fun _ =>
      (projects_consult _ _).next fun _ => .pure _
  | nodes => exact (projects_checked _).next hnodes
  | gateways => exact (projects_checked _).next fun f => hnodes _
  | node segment =>
    exact (projects_nodeNumber segment).next fun _ => (projects_consult _ _).next fun node =>
      (s.projects_selfDescription now node).next fun _ => .pure _
  | nodeStatus segment =>
    exact (projects_nodeNumber segment).next fun _ => (projects_consult _ _).next fun _ => .pure _

private theorem projects_get (route : Route) (query : String) :
    Projects withoutNotes (s.noting.get now route query) (s.get now route query) := by
  refine (s.projects_respond now route query).bind fun r => ?_
  cases r <;> exact .pure _

/-- Nothing else changes when calls are noted. -/
theorem serve_noting (r : Request) : Projects withoutNotes (s.noting.serve now r) (s.serve now r) := by
  unfold serve
  split
  · split <;> exact .pure _
  · next route _ =>
    split
    · exact (s.projects_get now route r.target.query).bind fun _ => .pure _
    · split
      · exact (s.projects_get now route r.target.query).bind fun _ => .pure _
      · split <;> exact .pure _

end Service

end Http

end GridGateway
