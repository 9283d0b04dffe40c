import GridGateway.Proofs.Entity.ReadBack
import GridGateway.Proofs.Http.OnDemand

/-!
# Telemetry stays out of the inventory

What the gateway keeps about the fetches shows in one place, the two texts in the detail of a node.  Two gateways over
one grid, each with records and a bus of its own, give the same response to every other request
(`Service.serve_constant`); to a request for a detail they give the same refusal, or details of one node that differ in
the two texts at most (`Service.serve_found`).  Nothing that is recorded changes what the grid answers
(`telemetry_stays_private`).
-/

namespace GridGateway.Http

open Json Telemetry Bus

/-! ### Paths of details -/

/-- The path asks for the detail of a node. -/
def IsDetailPath (path : String) : Prop := ∃ shape segment, Route.ofPath? path = some ⟨shape, .node segment⟩

theorem Endpoint.ofSegments?_eq_node {parts : List String} {segment : String} :
    Endpoint.ofSegments? parts = some (.node segment) ↔
      segment ≠ "" ∧ (parts = ["nodes", segment] ∨ parts = ["gateways", segment]) := by
  constructor
  · intro h
    unfold Endpoint.ofSegments? at h
    split at h
    all_goals first | cases h | skip
    all_goals
      split at h
      · cases h
      · cases h
        simp_all [String.isEmpty_iff]
  · rintro ⟨hsegment, rfl | rfl⟩ <;> simp [Endpoint.ofSegments?, String.isEmpty_iff, hsegment]

/-- A path asks for a detail if it is `/nodes/{id}` or `/gateways/{id}`, alone or behind `/api/v2`. -/
theorem isDetailPath_iff {path : String} : IsDetailPath path ↔
    ∃ front ∈ [[], nestedPrefix], ∃ kind ∈ ["nodes", "gateways"], ∃ segment, segment ≠ "" ∧
      segments path = front ++ [kind, segment] := by
  constructor
  · rintro ⟨shape, segment, h⟩
    have hfront (front : List String) {parts : List String} {s : Shape} (hmem : front ∈ [[], nestedPrefix])
        (hpath : segments path = front ++ parts)
        (hroute : (Endpoint.ofSegments? parts).map (Route.mk s) = some ⟨shape, .node segment⟩) :
        ∃ front ∈ [[], nestedPrefix], ∃ kind ∈ ["nodes", "gateways"], ∃ segment, segment ≠ "" ∧
          segments path = front ++ [kind, segment] := by
      obtain ⟨endpoint, hendpoint, heq⟩ := Option.map_eq_some_iff.mp hroute
      cases heq
      obtain ⟨hsegment, rfl | rfl⟩ := Endpoint.ofSegments?_eq_node.mp hendpoint
      · exact ⟨front, hmem, "nodes", by simp, segment, hsegment, hpath⟩
      · exact ⟨front, hmem, "gateways", by simp, segment, hsegment, hpath⟩
    unfold Route.ofPath? at h
    split at h
    · cases h
    · cases h
    · next hpath => exact hfront nestedPrefix (by simp) hpath h
    · exact hfront [] (by simp) rfl h
  · rintro ⟨front, hfront, kind, hkind, segment, hsegment, hpath⟩
    have hnode : Endpoint.ofSegments? [kind, segment] = some (.node segment) :=
      Endpoint.ofSegments?_eq_node.mpr ⟨hsegment, by simpa using hkind⟩
    rcases List.mem_pair.mp hfront with rfl | rfl
    · refine ⟨.flat, segment, ?_⟩
      rcases List.mem_pair.mp hkind with rfl | rfl <;> simp [Route.ofPath?, hpath, hnode]
    · refine ⟨.nested, segment, ?_⟩
      simp [Route.ofPath?, hpath, nestedPrefix, hnode]

variable {β : Type}

/-! ### Requests for anything else -/

private theorem Service.get_of_yields {s : Service Records β} {now : UInt64} {route : Route} {query : String}
    {state : Records × β} {r : Except Failure Response} (h : (s.respond now route query).Yields state r) :
    s.get now route query state = (responseOf r, state) := by
  have hrun : (s.respond now route query).run state = (r, state) := h
  simp only [get, bind, StateT.bind, hrun]
  cases r <;> rfl

/-- Every request for anything but the detail of a node comes to one response, whatever the records and the bus. -/
theorem Service.serve_constant (g : Grid) (bus : Option (Bus β)) (version : String) (timeout : Nat) (now : UInt64)
    {request : Request} (hpath : ¬ IsDetailPath request.target.path) :
    ∃ response, ∀ state, (g.gateway bus version timeout).serve now request state = (response, state) := by
  unfold serve
  cases hroute : Route.ofPath? request.target.path with
  | none =>
    dsimp only
    split
    · exact ⟨_, fun _ => rfl⟩
    · exact ⟨_, fun _ => rfl⟩
  | some route =>
    have hother : ∀ segment, route.endpoint ≠ .node segment := fun segment h =>
      hpath ⟨route.shape, segment, by rw [hroute, ← h]⟩
    obtain ⟨r, hr⟩ := respond_constant g bus version timeout now request.target.query hother
    dsimp only
    split
    · refine ⟨(responseOf r).permitted, fun state => ?_⟩
      simp only [bind, StateT.bind, get_of_yields (hr state)]
      rfl
    · split
      · refine ⟨{ responseOf r with body := .empty }.permitted, fun state => ?_⟩
        simp only [bind, StateT.bind, get_of_yields (hr state)]
        rfl
      · split
        · exact ⟨_, fun _ => rfl⟩
        · exact ⟨_, fun _ => rfl⟩

/-! ### Requests for details -/

/-- The members of a body without the two texts that a node tells about itself. -/
def Response.ownMembers? (r : Response) : Option (List (String × Json)) :=
  match r.body with
  | .json (.obj ms) => some (ms.filter NodeDetail.isOwn)
  | _ => none

/-- The members of a node in the form that is served. -/
def Shape.members : Shape → Node → List (String × Json)
  | flat, n => n.members
  | nested, n => n.nest.members

/-- Without the two texts the detail of a node is the node. -/
theorem ownMembers?_detail (shape : Shape) (hypervisor zosVersion : String) (node : Node) :
    (Response.json 200 (shape.detail hypervisor zosVersion node)).permitted.ownMembers? =
      some (shape.members node) := by
  cases shape with
  | flat => exact congrArg some (NodeDetail.filter_isOwn node.members_names.2 _ _)
  | nested => exact congrArg some (NodeDetail.filter_isOwn node.nest.members_names.2 _ _)

section

variable (g : Grid) (bus : Option (Bus β)) (version : String) (timeout : Nat) (now : UInt64) (body : Option Json)

/-- A node tells its two texts, or the bus fails. -/
private theorem Service.selfDescription_ends (node : Node) (state : Records × β) :
    ∃ told after, ((g.gateway bus version timeout).selfDescription now node).run state = (told, after) ∧
      ∀ e, told = .error e → e.response.status = 502 := by
  obtain ⟨records, script⟩ := state
  cases hreport : records.report? node.nodeId with
  | some report => exact ⟨_, _, selfDescription_of_report hreport, fun e he => nomatch he⟩
  | none =>
    cases bus with
    | none => exact ⟨_, _, selfDescription_of_no_bus hreport, fun e he => nomatch he⟩
    | some b =>
      refine ⟨_, _, selfDescription_of_bus hreport (refresh_grid ..), fun e he => ?_⟩
      cases hfetch : (b.fetch node.twinId timeout script).1.result with
      | ok report =>
        rw [hfetch] at he
        cases he
      | error reason =>
        rw [hfetch] at he
        cases he
        rfl

/-- The detail of a node that is there is the node with two texts, unless the bus fails. -/
theorem Service.serve_found {target : Target} {shape : Shape} {id : UInt32} {node : Node}
    (hasks : target.AsksFor shape id) (hnode : g.findNode now id = .ok node) (state : Records × β) :
    let response := ((g.gateway bus version timeout).serve now { target := target, body := body } state).1
    response.status = 502 ∨ response.status = 200 ∧ response.ownMembers? = some (shape.members node) := by
  obtain ⟨told, after, htold, herror⟩ := selfDescription_ends g bus version timeout now node state
  rw [serve_detail hasks hnode htold]
  cases told with
  | error e => exact .inl (herror e rfl)
  | ok d => exact .inr ⟨rfl, ownMembers?_detail shape d.1 d.2 node⟩

/-- A path that names no node, or none that is there, is refused alike. -/
private theorem Service.serve_refused {target : Target} {shape : Shape} {segment : String}
    (hroute : Route.ofPath? target.path = some ⟨shape, .node segment⟩)
    (h : ∀ id, nodeNumber? segment = some id → g.findNode now id = .error .nodeNotFound) :
    ∃ e : Failure, (e.response.status = 400 ∨ e.response.status = 404) ∧ ∀ state : Records × β,
      (g.gateway bus version timeout).serve now { target := target, body := body } state =
        (e.response.permitted, state) := by
  cases hid : nodeNumber? segment with
  | none =>
    obtain ⟨e, hstatus, he⟩ := nodeDetail_constant g bus version timeout now shape hid
    exact ⟨e, .inl hstatus, fun state => serve_of_run body hroute (he state)⟩
  | some id =>
    exact ⟨.notFound "node not found", .inr rfl, fun state =>
      serve_of_run body hroute (nodeDetail_of_missing hid (h id hid))⟩

end

/-- Two gateways over one grid, whatever each has recorded and whatever the bus of each is about to reply: a request for
anything but the detail of a node gets one response from both.  The detail of a node is refused by both alike, or tells
by both of one node, and whenever both tell it they differ in the two texts at most.  Recorded outcomes change no answer
of the grid. -/
theorem telemetry_stays_private (g : Grid) (bus : Option (Bus β)) (version : String) (timeout : Nat) (now : UInt64) :
    (∀ request : Request, ¬ IsDetailPath request.target.path →
      ∃ response, ∀ state, (g.gateway bus version timeout).serve now request state = (response, state)) ∧
    (∀ (target : Target) (body : Option Json), IsDetailPath target.path → ∀ state state' : Records × β,
      let first := ((g.gateway bus version timeout).serve now { target := target, body := body } state).1
      let second := ((g.gateway bus version timeout).serve now { target := target, body := body } state').1
      (∃ e : Failure, (e.response.status = 400 ∨ e.response.status = 404) ∧
        first = e.response.permitted ∧ second = e.response.permitted) ∨
      (first.status = 502 ∨ first.status = 200) ∧ (second.status = 502 ∨ second.status = 200) ∧
      (first.status = 200 → second.status = 200 →
        ∃ ms, first.ownMembers? = some ms ∧ second.ownMembers? = some ms)) ∧
    ∀ (history : List Entry) (records : Records),
      g.inventory.SameEntities records ((history.forM g.inventory.enter).run records).2 := by
  refine ⟨fun request => Service.serve_constant g bus version timeout now, ?_, ?_⟩
  · rintro target body ⟨shape, segment, hroute⟩ state state' first second
    by_cases hfound : ∃ id node, nodeNumber? segment = some id ∧ g.findNode now id = .ok node
    · obtain ⟨id, node, hid, hnode⟩ := hfound
      have hasks : target.AsksFor shape id := ⟨segment, hroute, hid⟩
      have hfirst := Service.serve_found g bus version timeout now body hasks hnode state
      have hsecond := Service.serve_found g bus version timeout now body hasks hnode state'
      refine .inr ⟨hfirst.imp_right And.left, hsecond.imp_right And.left, fun h h' => ⟨shape.members node, ?_, ?_⟩⟩
      · exact (hfirst.resolve_left fun hbus => by simp [first, hbus] at h).2
      · exact (hsecond.resolve_left fun hbus => by simp [second, hbus] at h').2
    · have hmissing : ∀ id, nodeNumber? segment = some id → g.findNode now id = .error .nodeNotFound := by
        intro id hid
        cases hfind : g.findNode now id with
        | ok node => exact absurd ⟨id, node, hid, hfind⟩ hfound
        | error e =>
          rw [Grid.findNode] at hfind
          split at hfind
          · cases hfind
          · exact hfind.symm
      obtain ⟨e, hstatus, he⟩ := Service.serve_refused g bus version timeout now body hroute hmissing
      exact .inl ⟨e, hstatus, congrArg Prod.fst (he state), congrArg Prod.fst (he state')⟩
  · exact fun _ _ => ⟨fun _ _ _ => rfl, fun _ _ => rfl, fun _ _ => rfl, fun _ => rfl, fun _ _ => rfl, fun _ _ => rfl,
      fun _ _ => rfl⟩

/-- The statistics do not depend on what is recorded.  A detail that is fetched on demand and one that is told from the
record of a success have the members of the node in common. -/
theorem detail_fetched_and_recorded :
    (∃ response, ∀ state, countingGateway.serve 40 { target := ⟨"/stats", "status=up"⟩ } state = (response, state)) ∧
    (∃ ms,
      (countingGateway.serve 40 { target := ⟨"/nodes/7", ""⟩ } ([], 1)).1.ownMembers? = some ms ∧
      (countingGateway.serve 40 { target := ⟨"/nodes/7", ""⟩ }
        (Records.succeed [] 7 { hypervisor := "qemu" } 10, 0)).1.ownMembers? = some ms) ∧
    twoNodes.inventory.SameEntities [] ((mixedHistory.forM twoNodes.inventory.enter).run []).2 := by
  obtain ⟨hother, hdetail, hrecords⟩ := telemetry_stays_private twoNodes (some countingBus) "1.0" 30000 40
  have hstats : ¬ IsDetailPath "/stats" := by
    rintro ⟨shape, segment, h⟩
    have hroute : Route.ofPath? "/stats" = some ⟨.flat, .stats⟩ := by decide +kernel
    rw [hroute] at h
    cases h
  have hnode : IsDetailPath "/nodes/7" := ⟨.flat, "7", by decide +kernel⟩
  refine ⟨hother { target := ⟨"/stats", "status=up"⟩ } hstats, ?_, hrecords mixedHistory []⟩
  have hfirst : (countingGateway.serve 40 { target := ⟨"/nodes/7", ""⟩ } ([], 1)).1.status = 200 := by
    decide +kernel
  have hsecond : (countingGateway.serve 40 { target := ⟨"/nodes/7", ""⟩ }
      (Records.succeed [] 7 { hypervisor := "qemu" } 10, 0)).1.status = 200 := by decide +kernel
  rcases hdetail ⟨"/nodes/7", ""⟩ none hnode ([], 1) (Records.succeed [] 7 { hypervisor := "qemu" } 10, 0) with
    ⟨e, hstatus, he, -⟩ | ⟨-, -, hsame⟩
  · have hok : e.response.status = 200 := (congrArg Response.status he).symm.trans hfirst
    omega
  · exact hsame hfirst hsecond

end GridGateway.Http
