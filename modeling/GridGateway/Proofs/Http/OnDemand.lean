import GridGateway.Proofs.Http.Gateway

/-!
# Telemetry on demand

A gateway that is asked for the detail of a node tells the last report, and gets one when there is none.  A single
request is described by `Http.IsAnswer`; over a history of requests, with notes of the refresher in between, a record
changes for few reasons (`Http.Service.writes_of_changed`), and a report is only ever replaced by a later one
(`Http.Service.report?_after`).
-/

namespace GridGateway

open Json Telemetry Bus

/-- Two states in which an inventory knows the same entities. -/
structure Inventory.SameEntities {σ : Type} (inv : Inventory σ) (a b : σ) : Prop where
  nodes : ∀ now f limit, ((inv.nodes now f limit).run a).1 = ((inv.nodes now f limit).run b).1
  node : ∀ now id, ((inv.node now id).run a).1 = ((inv.node now id).run b).1
  farms : ∀ f limit, ((inv.farms f limit).run a).1 = ((inv.farms f limit).run b).1
  farm : ∀ id, ((inv.farm id).run a).1 = ((inv.farm id).run b).1
  twins : ∀ f limit, ((inv.twins f limit).run a).1 = ((inv.twins f limit).run b).1
  contracts : ∀ f limit, ((inv.contracts f limit).run a).1 = ((inv.contracts f limit).run b).1
  counters : ∀ now f, ((inv.counters now f).run a).1 = ((inv.counters now f).run b).1

namespace Http

variable {σ β : Type}

/-! ### One request -/

/-- The response that a request comes to. -/
def responseOf : Except Failure Response → Response
  | .ok r => r
  | .error e => e.response

theorem Service.serve_of_run {s : Service σ β} {now : UInt64} {state after : σ × β} {target : Target}
    (body : Option Json) {route : Route} {result : Except Failure Response}
    (hroute : Route.ofPath? target.path = some route)
    (hrun : (s.respond now route target.query).run state = (result, after)) :
    s.serve now { target := target, body := body } state = ((responseOf result).permitted, after) := by
  refine serve_of_get rfl hroute ?_
  simp only [get, bind, StateT.bind, hrun]
  cases result <;> rfl

/-- The target asks for the detail of the node with a number, in one of the two forms. -/
def Target.AsksFor (t : Target) (shape : Shape) (id : UInt32) : Prop :=
  ∃ segment, Route.ofPath? t.path = some ⟨shape, .node segment⟩ ∧ nodeNumber? segment = some id

/-- The target asks for the detail of a node that is there, whose record holds no report yet, and that can be
reached. -/
structure Demands (g : Grid) (bus : Option (Bus β)) (t : Target) (id : UInt32) (records : Records) : Prop where
  asks : ∃ shape, t.AsksFor shape id
  isThere : ∃ n ∈ g.nodes, n.nodeId = id
  report : records.report? id = none
  bus : bus.isSome = true

/-- How a gateway answers a request at a time. -/
structure IsAnswer (g : Grid) (bus : Option (Bus β)) (timeout : Nat) (now : UInt64) (target : Target)
    (state : Records × β) (answer : Response × (Records × β)) : Prop where
  /-- Unless there is a demand for a fetch, nothing is written and the bus is left alone. -/
  idle : (∀ id, ¬ Demands g bus target id state.1) → answer.2 = state
  missing : ∀ shape id, target.AsksFor shape id → (∀ n ∈ g.nodes, n.nodeId ≠ id) →
    answer = ((Response.json 404 (Failure.errorJson "node not found")).permitted, state)
  /-- A report that is kept is told. -/
  kept : ∀ shape id node report, target.AsksFor shape id → g.findNode now id = .ok node →
    state.1.report? id = some report →
    answer = ((Response.json 200 (shape.detail report.hypervisor report.zosVersion node)).permitted, state)
  /-- Without a report and without a bus nothing is known. -/
  unreached : ∀ shape id node, target.AsksFor shape id → g.findNode now id = .ok node → state.1.report? id = none →
    bus = none → answer = ((Response.json 200 (shape.detail "" "" node)).permitted, state)
  /-- On demand the node is asked once; the report that comes is told and kept. -/
  fetched : ∀ shape id node b fetch script report, target.AsksFor shape id → g.findNode now id = .ok node →
    state.1.report? id = none → bus = some b → b.fetch node.twinId timeout state.2 = (fetch, script) →
    fetch.result = .ok report →
    ∃ records, answer = ((Response.json 200 (shape.detail report.hypervisor report.zosVersion node)).permitted,
      (records, script)) ∧ state.1.Renewed records id report now
  /-- The error that comes instead is told, and counts as one more failure. -/
  failed : ∀ shape id node b fetch script e, target.AsksFor shape id → g.findNode now id = .ok node →
    state.1.report? id = none → bus = some b → b.fetch node.twinId timeout state.2 = (fetch, script) →
    fetch.result = .error e →
    ∃ records, answer = ((Response.json 502 (Failure.errorJson e.message)).permitted, (records, script)) ∧
      state.1.FailedOnceMore records id e.message now

section

variable {g : Grid} {bus : Option (Bus β)} {version : String} {timeout : Nat} {now : UInt64} {target : Target}
  {body : Option Json} {records : Records} {script : β} {shape : Shape} {id : UInt32} {node : Node}

/-- What a node tells about itself is what the request for its detail comes to. -/
theorem Service.serve_detail {told : Except Failure (String × String)} {after : Records × β}
    (hasks : target.AsksFor shape id) (hnode : g.findNode now id = .ok node)
    (htold : ((g.gateway bus version timeout).selfDescription now node).run (records, script) = (told, after)) :
    (g.gateway bus version timeout).serve now { target := target, body := body } (records, script) =
      ((responseOf (told.map fun d => .json 200 (shape.detail d.1 d.2 node))).permitted, after) := by
  obtain ⟨segment, hroute, hid⟩ := hasks
  refine serve_of_run body hroute ?_
  refine (nodeDetail_run hid hnode).trans ?_
  cases told with
  | error e => exact run_bind_of_error htold
  | ok d => exact run_bind_of_ok htold

theorem Service.serve_kept {report : Report} (hasks : target.AsksFor shape id) (hnode : g.findNode now id = .ok node)
    (h : records.report? id = some report) :
    (g.gateway bus version timeout).serve now { target := target, body := body } (records, script) =
      ((Response.json 200 (shape.detail report.hypervisor report.zosVersion node)).permitted, (records, script)) := by
  obtain ⟨rfl, -⟩ := g.nodeId_of_findNode now hnode
  exact serve_detail hasks hnode (selfDescription_of_report h)

theorem Service.serve_missing (hasks : target.AsksFor shape id) (hmissing : ∀ n ∈ g.nodes, n.nodeId ≠ id) :
    (g.gateway bus version timeout).serve now { target := target, body := body } (records, script) =
      ((Response.json 404 (Failure.errorJson "node not found")).permitted, (records, script)) := by
  obtain ⟨segment, hroute, hid⟩ := hasks
  exact serve_of_run body hroute (nodeDetail_of_missing hid (g.findNode_of_missing now hmissing))

theorem Service.serve_unreached (hasks : target.AsksFor shape id) (hnode : g.findNode now id = .ok node)
    (h : records.report? id = none) :
    (g.gateway (none : Option (Bus β)) version timeout).serve now { target := target, body := body } (records, script) =
      ((Response.json 200 (shape.detail "" "" node)).permitted, (records, script)) := by
  obtain ⟨rfl, -⟩ := g.nodeId_of_findNode now hnode
  exact serve_detail hasks hnode (selfDescription_of_no_bus h)

private theorem Service.serve_demanded {b : Bus β} {fetch : Fetch} {after : β} (hasks : target.AsksFor shape id)
    (hnode : g.findNode now id = .ok node) (h : records.report? id = none)
    (hfetch : b.fetch node.twinId timeout script = (fetch, after)) :
    (g.gateway (some b) version timeout).serve now { target := target, body := body } (records, script) =
      ((match fetch.result with
        | .ok report => Response.json 200 (shape.detail report.hypervisor report.zosVersion node)
        | .error e => Response.json 502 (Failure.errorJson e.message)).permitted,
        (records.enter (.ofResult id now fetch.result), after)) := by
  obtain ⟨rfl, -⟩ := g.nodeId_of_findNode now hnode
  have hrefresh := refresh_grid g b node.nodeId node.twinId timeout now records script
  rw [hfetch] at hrefresh
  refine (serve_detail hasks hnode (selfDescription_of_bus h hrefresh)).trans ?_
  cases fetch.result with
  | ok report => rfl
  | error e => rfl

/-- Without a demand for a fetch nothing happens. -/
private theorem Service.serve_idle (h : ∀ id, ¬ Demands g bus target id records) :
    ((g.gateway bus version timeout).serve now { target := target, body := body } (records, script)).2 =
      (records, script) := by
  cases hroute : Route.ofPath? target.path with
  | none =>
    unfold serve
    simp only [hroute]
    rfl
  | some route =>
    have hkeeps (hrespond : ((g.gateway bus version timeout).respond now route target.query).IsConstant) :
        ((g.gateway bus version timeout).serve now { target := target, body := body } (records, script)).2 =
          (records, script) := by
      obtain ⟨r, hr⟩ := hrespond
      rw [serve_of_run body hroute (hr (records, script))]
    obtain ⟨shape, endpoint⟩ := route
    -- what the request asks for is decided in the order in which the detail of a node is made up
    by_cases hdetail : ∃ segment, endpoint = .node segment
    · obtain ⟨segment, rfl⟩ := hdetail
      cases hid : nodeNumber? segment with
      | none =>
        obtain ⟨e, -, he⟩ := nodeDetail_constant g bus version timeout now shape hid
        exact hkeeps ⟨_, he⟩
      | some id =>
        have hasks : target.AsksFor shape id := ⟨segment, hroute, hid⟩
        by_cases hthere : ∃ n ∈ g.nodes, n.nodeId = id
        · obtain ⟨node, hnode⟩ := g.exists_findNode now hthere
          cases hreport : records.report? id with
          | some report => rw [serve_kept hasks hnode hreport]
          | none =>
            cases hbus : bus with
            | none => rw [serve_unreached hasks hnode hreport]
            | some b => exact absurd ⟨⟨shape, hasks⟩, hthere, hreport, by rw [hbus]; rfl⟩ (h id)
        · have hmissing : ∀ n ∈ g.nodes, n.nodeId ≠ id := fun n hn heq => hthere ⟨n, hn, heq⟩
          rw [serve_missing hasks hmissing]
    · exact hkeeps (respond_constant g bus version timeout now _ fun segment heq => hdetail ⟨segment, heq⟩)

/-- A demand for a fetch makes one entry, about the node that was asked for. -/
private theorem Service.serve_of_demands (h : Demands g bus target id records) :
    ∃ result, ((g.gateway bus version timeout).serve now { target := target, body := body } (records, script)).2.1 =
      records.enter (.ofResult id now result) := by
  obtain ⟨⟨shape, hasks⟩, hthere, hreport, hbus⟩ := h
  obtain ⟨node, hnode⟩ := g.exists_findNode now hthere
  obtain ⟨b, rfl⟩ := Option.isSome_iff_exists.1 hbus
  obtain ⟨fetch, after, hfetch⟩ : ∃ fetch after, b.fetch node.twinId timeout script = (fetch, after) := ⟨_, _, rfl⟩
  refine ⟨fetch.result, ?_⟩
  rw [serve_demanded hasks hnode hreport hfetch]

private theorem Service.isAnswer_serve (now : UInt64) (target : Target) (body : Option Json) (state : Records × β) :
    IsAnswer g bus timeout now target state
      ((g.gateway bus version timeout).serve now { target := target, body := body } state) where
  idle := serve_idle
  missing _ _ hasks hmissing := serve_missing hasks hmissing
  kept _ _ _ _ hasks hnode hreport := serve_kept hasks hnode hreport
  unreached _ _ _ hasks hnode hreport hbus := by
    subst hbus
    exact serve_unreached hasks hnode hreport
  fetched _ id _ _ _ _ report hasks hnode hreport hbus hfetch hresult := by
    subst hbus
    refine ⟨_, ?_, state.1.renewed_enter id report now⟩
    rw [serve_demanded hasks hnode hreport hfetch, hresult]
    rfl
  failed _ id _ _ _ _ e hasks hnode hreport hbus hfetch hresult := by
    subst hbus
    refine ⟨_, ?_, state.1.failedOnceMore_enter id e.message now⟩
    rw [serve_demanded hasks hnode hreport hfetch, hresult]
    rfl

end

/-! ### Histories -/

/-- What happens to the records: a `GET` request is served, or the refresher notes the outcome of a fetch. -/
inductive Happening where
  | get (now : UInt64) (target : Target) (body : Option Json)
  | note (e : Entry)

/-- The state after something has happened. -/
def Service.happen (s : Service σ β) (state : σ × β) : Happening → σ × β
  | .get now target body => (s.serve now { target := target, body := body } state).2
  | .note e => (((s.inventory.enter e).run state.1).2, state.2)

/-- The state after a history. -/
def Service.after (s : Service σ β) (state : σ × β) (history : List Happening) : σ × β :=
  history.foldl s.happen state

/-- What may write the record of a node. -/
def Happening.Writes (g : Grid) (bus : Option (Bus β)) (id : UInt32) (records : Records) : Happening → Prop
  | get _ target _ => Demands g bus target id records
  | note e => e.nodeId = id

/-- The entries noted in a history. -/
def noted : List Happening → List Entry
  | [] => []
  | .get .. :: history => noted history
  | .note e :: history => e :: noted history

/-- The report of the last success about a node that is noted in a history, or the one that was there before. -/
def latestReport (id : UInt32) (history : List Happening) (before : Report) : Report :=
  ((Entry.lastSuccess? (Entry.about id (noted history))).bind (·.report?)).getD before

section

variable {g : Grid} {bus : Option (Bus β)} {version : String} {timeout : Nat} {id : UInt32}

/-- A note is kept as an entry. -/
private theorem Service.happen_note (state : Records × β) (e : Entry) :
    (g.gateway bus version timeout).happen state (.note e) = (state.1.enter e, state.2) := by
  obtain ⟨nodeId, outcome, time⟩ := e
  cases outcome <;> rfl

/-- Nothing but what may write a record changes it. -/
private theorem Service.get?_happen {state : Records × β} {h : Happening} (hwrites : ¬ h.Writes g bus id state.1) :
    ((g.gateway bus version timeout).happen state h).1.get? id = state.1.get? id := by
  cases h with
  | note e =>
    rw [happen_note]
    exact (Records.get?_enter ..).trans (if_neg (Ne.symm hwrites))
  | get now target body =>
    change ((g.gateway bus version timeout).serve now { target := target, body := body }
      (state.1, state.2)).2.1.get? id = _
    by_cases hdemands : ∃ other, Demands g bus target other state.1
    · obtain ⟨other, hdemands⟩ := hdemands
      obtain ⟨result, hresult⟩ := serve_of_demands hdemands
      have hne : id ≠ other := by
        rintro rfl
        exact hwrites hdemands
      rw [hresult]
      exact (Records.get?_enter ..).trans (if_neg hne)
    · rw [serve_idle (not_exists.1 hdemands)]

/-- A record that has changed has been written. -/
theorem Service.writes_of_changed {start : Records × β} {history : List Happening}
    (h : ((g.gateway bus version timeout).after start history).1.get? id ≠ start.1.get? id) :
    ∃ before written later, history = before ++ written :: later ∧
      written.Writes g bus id ((g.gateway bus version timeout).after start before).1 := by
  -- up to the first happening that may write it, the record is as it was at the beginning
  induction history generalizing start with
  | nil => exact absurd rfl h
  | cons first history ih =>
    by_cases hwrites : first.Writes g bus id start.1
    · exact ⟨[], first, history, rfl, hwrites⟩
    · have hfirst : ((g.gateway bus version timeout).happen start first).1.get? id = start.1.get? id :=
        get?_happen hwrites
      rw [← hfirst] at h
      obtain ⟨before, written, later, rfl, hlater⟩ := ih h
      exact ⟨first :: before, written, later, rfl, hlater⟩

private theorem noted_append (first second : List Happening) :
    noted (first ++ second) = noted first ++ noted second := by
  induction first with
  | nil => rfl
  | cons happening first ih => cases happening <;> simp [noted, ih]

private theorem latestReport_append_note (history : List Happening) (e : Entry) (before : Report) :
    latestReport id (history ++ [.note e]) before =
      if id = e.nodeId then e.report?.getD (latestReport id history before) else latestReport id history before := by
  rw [latestReport, noted_append, Entry.about, List.filter_append]
  change ((Entry.lastSuccess? (Entry.about id (noted history) ++ [e].filter _)).bind _).getD _ = _
  by_cases h : id = e.nodeId
  · rw [if_pos h, List.filter_cons_of_pos (by simpa using h.symm), List.filter_nil,
      Entry.lastSuccess?_append_singleton]
    obtain ⟨nodeId, outcome, time⟩ := e
    cases outcome <;> rfl
  · rw [if_neg h, List.filter_cons_of_neg (by simpa using Ne.symm h), List.filter_nil, List.append_nil]
    rfl

/-- Once there is a report, the latest one is kept. -/
theorem Service.report?_after {start : Records × β} {report : Report} (h : start.1.report? id = some report)
    (history : List Happening) :
    ((g.gateway bus version timeout).after start history).1.report? id = some (latestReport id history report) := by
  induction history using List.reverseRecOn with
  | nil => exact h
  | append_singleton history last ih =>
    rw [after, List.foldl_append]
    change ((g.gateway bus version timeout).happen ((g.gateway bus version timeout).after start history) last).1.report?
      id = _
    cases last with
    | get now target body =>
      -- requests write only where there is no report
      have hwrites : ¬ (Happening.get now target body).Writes g bus id
          ((g.gateway bus version timeout).after start history).1 := by
        intro hdemands
        have hnone := Demands.report hdemands
        rw [ih] at hnone
        cases hnone
      have hsame : latestReport id (history ++ [.get now target body]) report = latestReport id history report := by
        rw [latestReport, noted_append, noted, noted, List.append_nil, latestReport]
      rw [Records.report?, get?_happen hwrites, hsame]
      exact ih
    | note e =>
      rw [latestReport_append_note, happen_note]
      refine (Records.report?_enter _ e id).trans ?_
      rw [ih]
      split
      · cases e.report? <;> rfl
      · rfl

end

/-- A bus that counts the calls.  The first one fails. -/
def countingBus : Bus Nat where
  call twinId command calls :=
    let reply := if command = "zos.system.hypervisor" then .str "kvm" else .obj []
    (⟨0, if calls = 0 then .error (.remote twinId "unreachable") else .ok reply⟩, calls + 1)

/-- The gateway over two nodes and the bus that counts. -/
def countingGateway : Service Records Nat := twoNodes.gateway (some countingBus) "1.0" 30000

end Http

end GridGateway
