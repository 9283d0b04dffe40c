import GridGateway.Proofs.Entity.Nesting
import GridGateway.Proofs.Http.Calls
import GridGateway.Proofs.Http.OnDemand

/-!
# The two sets of paths

A request below `/api/v2` does what the request without this front does, and its response differs in the form of nodes
alone (`nested_paths_mirror`).

* `Route.ofPath?_nestedPath`: both paths stand for the same endpoint.
* `Service.respond_mirrors`: on both routes the same questions are asked in the same order, so the runs come to the same
  state, and to the same failure if they fail.
* `Response.NestsTo`: what the two responses have to do with each other.
-/

namespace GridGateway.Http

open Json

variable {σ β γ : Type}

/-! ### Paths -/

private theorem segments_nestedPath {p : String} (hp : p.toList.head? = some '/') :
    segments (nestedPath ++ p) = "api" :: "v2" :: segments p := by
  obtain ⟨cs, hcs⟩ := List.head?_eq_some_iff.mp hp
  have hfront : Query.splitAll '/' nestedPath.toList = [[], ['a', 'p', 'i'], ['v', '2']] := by decide +kernel
  have hpath : Query.splitAll '/' ('/' :: cs) = [] :: Query.splitAll '/' cs := if_pos rfl
  rw [segments, segments, String.toList_append, hcs, Query.splitAll_append_cons, hfront, hpath]
  rfl

/-- Below the front a path stands for the same endpoint, in the second form.  The index alone has another path there. -/
theorem Route.ofPath?_nestedPath {p : String} {endpoint : Endpoint} (hp : p.toList.head? = some '/')
    (hroute : Route.ofPath? p = some ⟨.flat, endpoint⟩) (hindex : endpoint ≠ .index) :
    Route.ofPath? (nestedPath ++ p) = some ⟨.nested, endpoint⟩ := by
  have hsegments : Endpoint.ofSegments? (segments p) = some endpoint := by
    rw [Route.ofPath?] at hroute
    split at hroute
    · cases hroute
      exact absurd rfl hindex
    · cases hroute
    · obtain ⟨_, -, h⟩ := Option.map_eq_some_iff.mp hroute
      cases h
    · obtain ⟨e, he, h⟩ := Option.map_eq_some_iff.mp hroute
      cases h
      exact he
  rw [Route.ofPath?, segments_nestedPath hp]
  split
  · next h => exact absurd (List.cons.inj h).1 (by decide)
  · next h =>
    rw [(List.cons.inj (List.cons.inj h).2).2] at hsegments
    cases hsegments
  · next h =>
    obtain rfl := (List.cons.inj (List.cons.inj h).2).2
    rw [hsegments]
    rfl
  · next hnot => exact (hnot _ rfl).elim

/-! ### Responses -/

/-- The endpoints whose responses show nodes. -/
inductive Endpoint.ShowsNodes : Endpoint → Prop where
  | nodes : ShowsNodes .nodes
  | gateways : ShowsNodes .gateways
  | node (segment : String) : ShowsNodes (.node segment)

/-- What the response to a request below the front has to do with the response to the request without it. -/
structure Response.NestsTo (endpoint : Endpoint) (r r' : Response) : Prop where
  status : r'.status = r.status
  headers : r'.headers = r.headers
  failure : r.status ≠ 200 → r'.body = r.body
  plain : ¬ endpoint.ShowsNodes → r'.body = r.body
  listing : endpoint = .nodes ∨ endpoint = .gateways → r.status = 200 → ∃ nodes : List Node,
    r.body = .json (.arr (nodes.map Node.toJson)) ∧
    r'.body = .json (.arr (nodes.map fun n => nestCapacity n.toJson))
  detail : ∀ segment, endpoint = .node segment → r.status = 200 → ∃ d : NodeDetail Node,
    r.body = .json d.flatJson ∧ r'.body = .json (nestCapacity d.flatJson)

namespace Response.NestsTo

variable {endpoint : Endpoint} {r r' : Response}

theorem permitted (h : r.NestsTo endpoint r') : r.permitted.NestsTo endpoint r'.permitted :=
  ⟨h.status, congrArg (· ++ permission) h.headers, h.failure, h.plain, h.listing, h.detail⟩

/-- A response without nodes is the same in both forms. -/
theorem same (h : r.status = 200 → ¬ endpoint.ShowsNodes) : r.NestsTo endpoint r where
  status := rfl
  headers := rfl
  failure _ := rfl
  plain _ := rfl
  listing hlisting hstatus := by
    rcases hlisting with rfl | rfl
    · exact (h hstatus .nodes).elim
    · exact (h hstatus .gateways).elim
  detail segment hdetail hstatus := (h hstatus (hdetail ▸ .node segment)).elim

/-- The items of a listing are its body and nothing else. -/
private theorem listing_eq (items : List Json) (limit : Query.Limit) (count : UInt64) :
    Http.listing items limit count = { Http.listing [] limit count with body := .json (.arr items) } ∧
      (Http.listing items limit count).status = 200 := by
  unfold Http.listing
  split <;> exact ⟨rfl, rfl⟩

private theorem ofListing (hendpoint : endpoint = .nodes ∨ endpoint = .gateways) (nodes : List Node)
    (limit : Query.Limit) (count : UInt64) :
    (Http.listing (nodes.map Shape.flat.node) limit count).NestsTo endpoint
      (Http.listing (nodes.map Shape.nested.node) limit count) := by
  obtain ⟨hflat, hstatus⟩ := listing_eq (nodes.map Shape.flat.node) limit count
  obtain ⟨hnested, hstatus'⟩ := listing_eq (nodes.map Shape.nested.node) limit count
  have hitems : nodes.map Shape.nested.node = nodes.map fun n => nestCapacity n.toJson :=
    List.map_congr_left fun n _ => n.toJson_nest
  exact {
    status := hstatus'.trans hstatus.symm
    headers := by rw [hflat, hnested]
    failure := fun h => (h hstatus).elim
    plain := fun hnone => by rcases hendpoint with rfl | rfl <;> exact (hnone (by constructor)).elim
    listing := fun _ _ => ⟨nodes, by rw [hflat]; rfl, by rw [hnested, hitems]⟩
    detail := fun segment h _ => by rcases hendpoint with rfl | rfl <;> cases h }

private theorem ofDetail (segment hypervisor zosVersion : String) (node : Node) :
    (Response.json 200 (Shape.flat.detail hypervisor zosVersion node)).NestsTo (.node segment)
      (.json 200 (Shape.nested.detail hypervisor zosVersion node)) where
  status := rfl
  headers := rfl
  failure h := (h rfl).elim
  plain h := (h (.node segment)).elim
  listing h := by rcases h with h | h <;> cases h
  detail _ _ _ := ⟨⟨node, hypervisor, zosVersion⟩, rfl, by
    rw [← NodeDetail.nestedJson_nest]
    rfl⟩

end Response.NestsTo

private theorem Failure.status_ne_ok (e : Failure) : e.response.status ≠ 200 := by
  cases e <;> simp [response, Response.json, Response.plain]

/-! ### Runs -/

/-- Both runs come to the same state, and to responses of which the second is the first in the other form or to the
same failure. -/
def Mirrors (endpoint : Endpoint) (w w' : Work σ β Response) : Prop :=
  ∀ state, ∃ result result' after, w.run state = (result, after) ∧ w'.run state = (result', after) ∧
    (responseOf result).NestsTo endpoint (responseOf result')

namespace Mirrors

variable {endpoint : Endpoint}

theorem pure {r r' : Response} (h : r.NestsTo endpoint r') :
    Mirrors endpoint (pure r : Work σ β Response) (pure r') := fun state => ⟨.ok r, .ok r', state, rfl, rfl, h⟩

/-- Runs that begin alike. -/
theorem bind {w : Work σ β γ} {k k' : γ → Work σ β Response} (h : ∀ a, Mirrors endpoint (k a) (k' a)) :
    Mirrors endpoint (w >>= k) (w >>= k') := by
  intro state
  rcases hrun : w.run state with ⟨result, after⟩
  cases result with
  | error e =>
    have hsame : e.response.NestsTo endpoint e.response := .same fun hstatus => (e.status_ne_ok hstatus).elim
    exact ⟨.error e, .error e, after, run_bind_of_error hrun, run_bind_of_error hrun, hsame⟩
  | ok a =>
    rw [run_bind_of_ok hrun, run_bind_of_ok hrun]
    exact h a after

/-- A run on a route without nodes. -/
theorem same (hnodes : ¬ endpoint.ShowsNodes) (w : Work σ β Response) : Mirrors endpoint w w := by
  intro state
  rcases hrun : w.run state with ⟨result, after⟩
  exact ⟨result, result, after, rfl, rfl, .same fun _ => hnodes⟩

end Mirrors

/-- On the two routes of an endpoint a service does the same. -/
theorem Service.respond_mirrors (s : Service σ β) (now : UInt64) (endpoint : Endpoint) (query : String) :
    Mirrors endpoint (s.respond now ⟨.flat, endpoint⟩ query) (s.respond now ⟨.nested, endpoint⟩ query) := by
  have hlist (hendpoint : endpoint = .nodes ∨ endpoint = .gateways) (filter : Query.NodeFilter) :
      Mirrors endpoint (s.listNodes .flat now filter query) (s.listNodes .nested now filter query) :=
    .bind fun _ => .bind fun limit => .bind fun answer => .pure (.ofListing hendpoint answer.1 _ answer.2)
  cases endpoint with
  | nodes => exact .bind fun filter => hlist (.inl rfl) filter
  | gateways => exact .bind fun filter => hlist (.inr rfl) _
  | node segment =>
    exact .bind fun id => .bind fun node => .bind fun told => .pure (.ofDetail segment told.1 told.2 node)
  | index | ping | version | farms | twins | contracts | stats | nodeStatus segment =>
    exact .same (by rintro ⟨⟩) _

/-- A request below the front is answered like the one without it, in the form of the other set of paths, and leaves
the same state. -/
private theorem Service.serve_nestedPath (s : Service σ β) (now : UInt64) {p : String} {endpoint : Endpoint}
    (hp : p.toList.head? = some '/') (hroute : Route.ofPath? p = some ⟨.flat, endpoint⟩) (hindex : endpoint ≠ .index)
    (query : String) (state : σ × β) :
    let flat := s.serve now { target := ⟨p, query⟩ } state
    let nested := s.serve now { target := ⟨nestedPath ++ p, query⟩ } state
    flat.1.NestsTo endpoint nested.1 ∧ nested.2 = flat.2 := by
  intro flat nested
  obtain ⟨result, result', after, hflat, hnested, hnests⟩ := s.respond_mirrors now endpoint query state
  have hserve : flat = ((responseOf result).permitted, after) := s.serve_of_run none hroute hflat
  have hserve' : nested = ((responseOf result').permitted, after) :=
    s.serve_of_run none (Route.ofPath?_nestedPath hp hroute hindex) hnested
  rw [hserve, hserve']
  exact ⟨hnests.permitted, rfl⟩

/-- Below `/api/v2` a request is answered like the request without this front, with the capacities of nodes nested, and
does the same: it leaves the same state, and asks and sends the same.  A node in the second form, decoded and flattened,
is the node, and in a text it is what the first form is decoded to. -/
theorem nested_paths_mirror (s : Service σ β) (now : UInt64) {p : String} {endpoint : Endpoint}
    (hp : p.toList.head? = some '/') (hroute : Route.ofPath? p = some ⟨.flat, endpoint⟩) (hindex : endpoint ≠ .index) :
    (∀ query state,
      let flat := s.serve now { target := ⟨p, query⟩ } state
      let nested := s.serve now { target := ⟨nestedPath ++ p, query⟩ } state
      flat.1.NestsTo endpoint nested.1 ∧ nested.2 = flat.2) ∧
    (∀ query notes, (s.noting.serve now { target := ⟨nestedPath ++ p, query⟩ } notes).2 =
      (s.noting.serve now { target := ⟨p, query⟩ } notes).2) ∧
    (∀ n : Node,
      (∀ c : Context, c.Allows 3 →
        (NestedNode.decoder c (.ofJson (nestCapacity n.toJson))).map NestedNode.flatten = .ok n) ∧
      (NestedNode.decoder.ofText (nestCapacity n.toJson).text).map NestedNode.flatten =
        Node.decoder.ofText n.toJson.text) ∧
    ∀ d : NodeDetail Node,
      ((NodeDetail.decoder NestedNode.record).ofText (nestCapacity d.flatJson).text).map
        (NodeDetail.mapNode NestedNode.flatten) = (NodeDetail.decoder Node.record).ofText d.flatJson.text :=
  ⟨s.serve_nestedPath now hp hroute hindex,
    fun query notes => (s.noting.serve_nestedPath now hp hroute hindex query notes).2,
    fun n => ⟨fun _ hc => n.flatten_ofJson hc, n.flatten_ofText⟩, NodeDetail.flatten_ofText⟩

/-- The detail of a node with eight cores, on both paths, and the node decoded from its second form. -/
theorem detail_of_node_nested :
    let n : Node := { nodeId := 5, totalResources := { cru := 8 } }
    let g : Grid := { nodes := [{ nodeId := 5, total := { cru := 8 } }] }
    let s : Service Telemetry.Records Unit := g.service "1.0" 30000
    "/nodes/5".toList.head? = some '/' ∧ Route.ofPath? "/nodes/5" = some ⟨.flat, .node "5"⟩ ∧
    Endpoint.node "5" ≠ .index ∧ ({} : Context).Allows 3 ∧
    (s.serve 9 { target := ⟨"/nodes/5", ""⟩ } ([], ())).1.status = 200 ∧
    (∃ d : NodeDetail Node,
      (s.serve 9 { target := ⟨"/nodes/5", ""⟩ } ([], ())).1.body = .json d.flatJson ∧
      (s.serve 9 { target := ⟨nestedPath ++ "/nodes/5", ""⟩ } ([], ())).1.body = .json (nestCapacity d.flatJson)) ∧
    (NestedNode.decoder {} (.ofJson (nestCapacity n.toJson))).map NestedNode.flatten = .ok n := by
  intro n g s
  have hp : "/nodes/5".toList.head? = some '/' := by decide
  have hroute : Route.ofPath? "/nodes/5" = some ⟨.flat, .node "5"⟩ := by decide +kernel
  have hindex : Endpoint.node "5" ≠ .index := nofun
  have hc : ({} : Context).Allows 3 := fun _ => by decide
  have hstatus : (s.serve 9 { target := ⟨"/nodes/5", ""⟩ } ([], ())).1.status = 200 := by decide +kernel
  obtain ⟨hserve, -, hnodes, -⟩ := nested_paths_mirror s 9 hp hroute hindex
  exact ⟨hp, hroute, hindex, hc, hstatus, (hserve "" ([], ())).1.detail "5" rfl hstatus, (hnodes n).1 {} hc⟩

end GridGateway.Http
