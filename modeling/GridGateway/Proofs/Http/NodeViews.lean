import GridGateway.Proofs.Http.Nesting
import GridGateway.Proofs.Http.Noninterference
import GridGateway.Proofs.Http.Pages
import GridGateway.Proofs.Http.Paths
import GridGateway.Proofs.Keys

/-!
# The views of a node

A node is shown in its detail, in its status and in listings.  `Service.Shows` says that a service shows a node under a
number in all of them, `Service.Lacks` that it has no node under it.  A gateway over a grid whose nodes have distinct
numbers shows every node (`Service.shows_of_mem`) and lacks every other number (`Service.lacks_of_notMem`).

The detail takes the first node with the number, the listing for a number filters all of them, and any other listing is
a page of what its own filter keeps.  The three agree because the number tells the node: the filter for it keeps one
node (`Grid.matchingNodes_number_of_mem`), and whatever a listing contains is a node of the grid as it is served
(`Service.mem_listing`).
-/

namespace GridGateway

open Json Query Telemetry

/-! ### Paths -/

namespace Http

/-- What stands in front of the paths of a set. -/
def Shape.front : Shape → String
  | flat => ""
  | nested => nestedPath

/-- The path of a node, as a node or as a gateway. -/
def Shape.nodePath (shape : Shape) (kind : String) (id : UInt32) : String :=
  shape.front ++ "/" ++ kind ++ "/" ++ Text.decimal id.toNat

/-- The target asks for the status of the node with a number. -/
def Target.AsksForStatus (t : Target) (id : UInt32) : Prop :=
  ∃ shape segment, Route.ofPath? t.path = some ⟨shape, .nodeStatus segment⟩ ∧ nodeNumber? segment = some id

private theorem nodeNumber?_decimal (id : UInt32) : nodeNumber? (Text.decimal id.toNat) = some id := by
  rw [nodeNumber?, Text.percentDecode?_of_unreserved (Text.unreserved_decimal _), Option.bind_some,
    String.ofList_toList, Text.uint32?_decimal]

private theorem head?_joinSegments (part : String) (parts : List String) :
    (joinSegments (part :: parts)).toList.head? = some '/' := by
  simp [joinSegments, String.join_cons]

/-- In either set a path stands for what its segments stand for. -/
private theorem Route.ofPath?_front {parts : List String} {endpoint : Endpoint}
    (hplain : ∀ part ∈ parts, '/' ∉ part.toList)
    (hapi : parts.head? ≠ some "api") (h : Endpoint.ofSegments? parts = some endpoint) (hindex : endpoint ≠ .index)
    (shape : Shape) : Route.ofPath? (shape.front ++ joinSegments parts) = some ⟨shape, endpoint⟩ := by
  have hflat : Route.ofPath? (joinSegments parts) = some ⟨.flat, endpoint⟩ := by
    rw [Route.ofPath?, segments_joinSegments hplain]
    split
    · cases h
    · exact absurd rfl hapi
    · exact absurd rfl hapi
    · rw [h]
      rfl
  cases shape with
  | flat => exact (congrArg Route.ofPath? String.empty_append).trans hflat
  | nested =>
    cases parts with
    | nil => cases h
    | cons part parts => exact Route.ofPath?_nestedPath (head?_joinSegments part parts) hflat hindex

private theorem slash_notMem_decimal (n : Nat) : '/' ∉ (Text.decimal n).toList := fun h =>
  absurd (Text.unreserved_decimal n _ h) (by decide)

private theorem plain_kind {kind : String} (hkind : kind ∈ ["nodes", "gateways"]) :
    '/' ∉ kind.toList ∧ kind ≠ "api" := by
  rcases List.mem_pair.1 hkind with rfl | rfl <;> decide

private theorem asksFor_nodePath (shape : Shape) {kind : String} (hkind : kind ∈ ["nodes", "gateways"]) (id : UInt32)
    (query : String) : Target.AsksFor ⟨shape.nodePath kind id, query⟩ shape id := by
  refine ⟨Text.decimal id.toNat, ?_, nodeNumber?_decimal id⟩
  have hpath : shape.nodePath kind id = shape.front ++ joinSegments [kind, Text.decimal id.toNat] := by
    simp [Shape.nodePath, joinSegments, String.append_assoc]
  have hnode : Endpoint.ofSegments? [kind, Text.decimal id.toNat] = some (.node (Text.decimal id.toNat)) :=
    Endpoint.ofSegments?_eq_node.2 ⟨Text.decimal_ne_empty _, by simpa using hkind⟩
  obtain ⟨hslash, hapi⟩ := plain_kind hkind
  have hplain : ∀ part ∈ [kind, Text.decimal id.toNat], '/' ∉ part.toList := by
    simpa [hslash] using slash_notMem_decimal id.toNat
  rw [hpath]
  exact Route.ofPath?_front hplain (by simpa using hapi) hnode (by simp) shape

private theorem asksForStatus_nodePath (shape : Shape) {kind : String} (hkind : kind ∈ ["nodes", "gateways"])
    (id : UInt32) (query : String) : Target.AsksForStatus ⟨shape.nodePath kind id ++ "/status", query⟩ id := by
  refine ⟨shape, Text.decimal id.toNat, ?_, nodeNumber?_decimal id⟩
  have hpath : shape.nodePath kind id ++ "/status" =
      shape.front ++ joinSegments [kind, Text.decimal id.toNat, "status"] := by
    simp [Shape.nodePath, joinSegments, String.append_assoc]
  have hstatus : Endpoint.ofSegments? [kind, Text.decimal id.toNat, "status"] =
      some (.nodeStatus (Text.decimal id.toNat)) := by
    rcases List.mem_pair.1 hkind with rfl | rfl <;> rfl
  obtain ⟨hslash, hapi⟩ := plain_kind hkind
  have hplain : ∀ part ∈ [kind, Text.decimal id.toNat, "status"], '/' ∉ part.toList := by
    simpa [hslash] using slash_notMem_decimal id.toNat
  rw [hpath]
  exact Route.ofPath?_front hplain (by simpa using hapi) hstatus (by simp) shape

/-! ### Queries for a number -/

/-- The query for the node with a number. -/
def numberQuery (id : UInt32) : String := "node_id=" ++ Text.decimal id.toNat

private theorem toQuery_number (id : UInt32) :
    Params.toQuery ({ nodeId := some id.toUInt64 } : NodeFilter) = numberQuery id := by
  have hpairs : Params.pairs ({ nodeId := some id.toUInt64 } : NodeFilter) =
      [("node_id", Text.decimal id.toUInt64.toNat)] := rfl
  rw [Params.toQuery, hpairs, UInt32.toNat_toUInt64, encodePairs, List.map_singleton, String.intercalate_singleton,
    encodePair, Text.percentEncode_of_unreserved (Text.unreserved_decimal _)]
  rfl

private theorem ofQuery_numberQuery (id : UInt32) :
    Params.ofQuery (numberQuery id) = .ok ({ nodeId := some id.toUInt64 } : NodeFilter) ∧
      Params.ofQuery (numberQuery id) = .ok ({} : Limit) := by
  rw [← toQuery_number]
  exact ⟨Params.ofQuery_toQuery NodeFilter.table _, Params.ofQuery_unset_limit NodeFilter.table (by decide) _⟩

end Http

namespace Grid

variable (g : Grid) (now : UInt64)

private theorem nodeMatches_number (id : UInt32) (r : NodeRecord) :
    g.nodeMatches now none { nodeId := some id.toUInt64 } r = decide (r.nodeId = id) := by
  simp [nodeMatches, equals, atLeast, sameText, containsText, ← UInt32.toUInt64_inj]

private theorem matchingNodes_number (id : UInt32) :
    g.matchingNodes now none { nodeId := some id.toUInt64 } =
      sortBy (nodeRank { nodeId := some id.toUInt64 }) ((g.nodes.filter (·.nodeId = id)).map (g.serve now)) := by
  rw [matchingNodes, funext (g.nodeMatches_number now id)]

theorem matchingNodes_number_of_mem {g : Grid} (hids : (g.nodes.map (·.nodeId)).Nodup) {n : NodeRecord}
    (hn : n ∈ g.nodes) : g.matchingNodes now none { nodeId := some n.nodeId.toUInt64 } = [g.serve now n] := by
  rw [matchingNodes_number, filter_key_eq_singleton hids hn, List.map_singleton, sortBy, List.mergeSort_singleton]

private theorem matchingNodes_number_of_missing {id : UInt32} (h : id ∉ g.nodes.map (·.nodeId)) :
    g.matchingNodes now none { nodeId := some id.toUInt64 } = [] := by
  rw [matchingNodes_number, filter_key_eq_nil h, List.map_nil, sortBy, List.mergeSort_nil]

end Grid

/-! ### Responses of a gateway without a bus -/

namespace Http

variable {β : Type}

/-- A node in the form that is served. -/
private theorem Shape.node_eq (shape : Shape) (n : Node) : shape.node n = .obj (shape.members n) := by
  cases shape <;> rfl

private theorem Shape.nodeId_of_mem_members {shape : Shape} {n : Node} {id : UInt32}
    (h : ("nodeId", .uint32 id) ∈ shape.members n) : n.nodeId = id := by
  cases shape with
  | flat => simpa [Shape.members, Node.members, Json.uint32, UInt32.toNat_inj, eq_comm] using h
  | nested => simpa [Shape.members, NestedNode.members, Node.nest, Json.uint32, UInt32.toNat_inj, eq_comm] using h

/-- No failure is reported as a list. -/
private theorem Failure.body_ne_arr (e : Failure) (items : List Json) : e.response.body ≠ .json (.arr items) := by
  cases e <;> exact fun h => nomatch h

private theorem ends_checked {σ α : Type} (r : Except QueryError α) :
    Ends (fun _ => True) (fun _ => True) (checked r : Work σ β α) := by
  intro state
  change Settles _ _ (r.mapError Failure.ofQuery)
  cases r <;> trivial

section

variable (g : Grid) (version : String) (timeout : Nat) (now : UInt64) (state : Records × β)

/-- Without a bus the detail of a node that is there is told, with what is known of it. -/
private theorem Service.serve_without_bus {target : Target} {shape : Shape} {id : UInt32} {node : Node}
    (hasks : target.AsksFor shape id) (hnode : g.findNode now id = .ok node) (body : Option Json) :
    ∃ hypervisor zosVersion,
      (g.gateway (none : Option (Bus β)) version timeout).serve now { target := target, body := body } state =
        ((Response.json 200 (shape.detail hypervisor zosVersion node)).permitted, state) := by
  obtain ⟨records, script⟩ := state
  cases hreport : records.report? id with
  | none => exact ⟨_, _, serve_unreached hasks hnode hreport⟩
  | some report => exact ⟨_, _, serve_kept hasks hnode hreport⟩

/-- A request for a status is answered from the node that is found. -/
private theorem Service.serve_status {target : Target} {id : UInt32} (hasks : target.AsksForStatus id)
    (body : Option Json) :
    (g.gateway (none : Option (Bus β)) version timeout).serve now { target := target, body := body } state =
      ((responseOf (((g.findNode now id).mapError .ofInventory).map fun node =>
        .json 200 (NodeStatus.mk node.status).toJson)).permitted, state) := by
  obtain ⟨shape, segment, hroute, hid⟩ := hasks
  have hconsult := Service.consult_node g (none : Option (Bus β)) version timeout now id state
  refine serve_of_run body hroute ((run_bind_of_ok (nodeNumber_of_eq_some hid _)).trans ?_)
  cases hfind : g.findNode now id with
  | error e =>
    rw [hfind] at hconsult
    exact run_bind_of_error hconsult
  | ok node =>
    rw [hfind] at hconsult
    exact run_bind_of_ok hconsult

/-- The listing of the nodes with a number. -/
private theorem Service.serve_number (shape : Shape) (id : UInt32) {T : List Node}
    (hT : g.matchingNodes now none { nodeId := some id.toUInt64 } = T) :
    (g.gateway (none : Option (Bus β)) version timeout).serve now
        { target := ⟨shape.front ++ "/nodes", numberQuery id⟩ } state =
      ((listing ((Grid.cut ({} : Limit).withCount T).1.map shape.node) ({} : Limit).withCount
        (Grid.cut ({} : Limit).withCount T).2).permitted, state) := by
  obtain ⟨records, script⟩ := state
  obtain ⟨hfilter, hlimit⟩ := ofQuery_numberQuery id
  have hroute : Route.ofPath? (shape.front ++ "/nodes") = some ⟨shape, .nodes⟩ := by
    cases shape <;> decide +kernel
  have hpage := Service.listNodes_yields_page g version timeout records script now shape
    (f := { nodeId := some id.toUInt64 }) (l := {}) rfl rfl hlimit
  rw [hT] at hpage
  exact Service.serve_of_yields hroute (.filter hfilter hpage)

/-- The response lists nodes of the grid. -/
def Response.ListsNodes (r : Response) (shape : Shape) : Prop :=
  ∃ nodes : List Node, r.body = .json (.arr (nodes.map shape.node)) ∧ ∀ node ∈ nodes, ∃ n ∈ g.nodes, g.serve now n = node

private theorem Service.listNodes_ends (bus : Option (Bus β)) (shape : Shape) (f : NodeFilter) (query : String) :
    Ends (Response.ListsNodes g now · shape) (fun _ => True)
      ((g.gateway bus version timeout).listNodes shape now f query) := by
  have hconsult (limit : Limit) : Ends (fun page : List Node × UInt64 => ∀ node ∈ page.1, ∃ n ∈ g.nodes,
      g.serve now n = node) (fun _ => True)
      (consult ((g.gateway bus version timeout).inventory.nodes now f limit) : Work Records β _) := by
    intro state
    change Settles _ _ ((g.listNodes now f limit).mapError Failure.ofInventory)
    cases hlisted : g.listNodes now f limit with
    | error e => trivial
    | ok page =>
      intro node hnode
      obtain ⟨status, rfl⟩ := g.listNodes_eq_ok now hlisted
      obtain ⟨n, hn, -, hserved⟩ := (g.mem_matchingNodes now).1 (Grid.mem_cut hnode)
      exact ⟨n, hn, hserved⟩
  refine (ends_checked _).bind fun _ _ => (ends_checked _).bind fun limit _ => ?_
  refine (hconsult limit.withCount).bind fun page hpage => .pure ⟨page.1, ?_, hpage⟩
  unfold listing
  split <;> rfl

/-- A request for nodes or gateways lists nodes of the grid or is refused. -/
private theorem Service.respond_ends (bus : Option (Bus β)) (shape : Shape) {endpoint : Endpoint}
    (hendpoint : endpoint = .nodes ∨ endpoint = .gateways) (query : String) :
    Ends (Response.ListsNodes g now · shape) (fun _ => True)
      ((g.gateway bus version timeout).respond now ⟨shape, endpoint⟩ query) := by
  rcases hendpoint with rfl | rfl
  · exact (ends_checked _).bind fun f _ => listNodes_ends g version timeout now bus shape f query
  · exact (ends_checked _).bind fun f _ => listNodes_ends g version timeout now bus shape _ query

theorem Service.mem_listing {bus : Option (Bus β)} {shape : Shape} {endpoint : Endpoint} {target : Target}
    {items : List Json} (hendpoint : endpoint = .nodes ∨ endpoint = .gateways)
    (hroute : Route.ofPath? target.path = some ⟨shape, endpoint⟩)
    (h : ((g.gateway bus version timeout).serve now { target := target } state).1.body = .json (.arr items))
    {item : Json} (hitem : item ∈ items) : ∃ n ∈ g.nodes, item = .obj (shape.members (g.serve now n)) := by
  have hends := respond_ends g version timeout now bus shape hendpoint target.query state
  rcases hrun : ((g.gateway bus version timeout).respond now ⟨shape, endpoint⟩ target.query).run state with ⟨r, after⟩
  rw [hrun] at hends
  rw [serve_of_run none hroute hrun] at h
  have hbody : (responseOf r).body = .json (.arr items) := h
  cases r with
  | error e => exact absurd hbody (e.body_ne_arr items)
  | ok response =>
    obtain ⟨nodes, hlist, hnodes⟩ := hends
    obtain rfl : nodes.map shape.node = items := Json.arr.inj (Body.json.inj (hlist.symm.trans hbody))
    obtain ⟨node, hnode, rfl⟩ := List.mem_map.1 hitem
    obtain ⟨n, hn, rfl⟩ := hnodes node hnode
    exact ⟨n, hn, shape.node_eq _⟩

end

/-! ### All views -/

/-- A service shows a node under a number: in its detail, up to what the node tells about itself, as the only one that
is listed for its number, in every listing that contains it, and with its status. -/
structure Service.Shows (s : Service Records β) (now : UInt64) (state : Records × β) (id : UInt32) (node : Node) :
    Prop where
  detail : ∀ (target : Target) (shape : Shape), target.AsksFor shape id →
    ∃ r, s.serve now { target := target } state = (r, state) ∧ r.status = 200 ∧
      r.ownMembers? = some (shape.members node)
  status : ∀ target : Target, target.AsksForStatus id →
    s.serve now { target := target } state =
      ((Response.json 200 (.obj [("status", .str node.status.name)])).permitted, state)
  alone : ∀ shape : Shape,
    ∃ r, s.serve now { target := ⟨shape.front ++ "/nodes", numberQuery id⟩ } state = (r, state) ∧ r.status = 200 ∧
      r.body = .json (.arr [.obj (shape.members node)]) ∧ r.header? "count" = some "1"
  listed : ∀ (target : Target) (shape : Shape) (endpoint : Endpoint) (items : List Json),
    endpoint = .nodes ∨ endpoint = .gateways → Route.ofPath? target.path = some ⟨shape, endpoint⟩ →
    (s.serve now { target := target } state).1.body = .json (.arr items) →
    ∀ ms, .obj ms ∈ items → ("nodeId", .uint32 id) ∈ ms → ms = shape.members node

/-- A service has no node under a number. -/
structure Service.Lacks (s : Service Records β) (now : UInt64) (state : Records × β) (id : UInt32) : Prop where
  detail : ∀ (target : Target) (shape : Shape), target.AsksFor shape id →
    s.serve now { target := target } state =
      ((Response.json 404 (.obj [("error", .str "node not found")])).permitted, state)
  status : ∀ target : Target, target.AsksForStatus id →
    s.serve now { target := target } state =
      ((Response.json 404 (.obj [("error", .str "node not found")])).permitted, state)
  alone : ∀ shape : Shape,
    ∃ r, s.serve now { target := ⟨shape.front ++ "/nodes", numberQuery id⟩ } state = (r, state) ∧ r.status = 200 ∧
      r.body = .json (.arr []) ∧ r.header? "count" = some "0"

section

variable {g : Grid} (version : String) (timeout : Nat) (now : UInt64) (state : Records × β)

theorem Service.shows_of_mem (hids : (g.nodes.map (·.nodeId)).Nodup) {n : Grid.NodeRecord} (hn : n ∈ g.nodes) :
    (g.gateway (none : Option (Bus β)) version timeout).Shows now state n.nodeId (g.serve now n) where
  detail target shape hasks := by
    obtain ⟨hypervisor, zosVersion, hserve⟩ :=
      serve_without_bus g version timeout now state hasks (Grid.findNode_of_mem hids now hn) none
    exact ⟨_, hserve, rfl, ownMembers?_detail shape hypervisor zosVersion _⟩
  status target hasks := by
    rw [serve_status g version timeout now state hasks none, Grid.findNode_of_mem hids now hn]
    rfl
  alone shape := by
    refine ⟨_, serve_number g version timeout now state shape n.nodeId
      (Grid.matchingNodes_number_of_mem now hids hn), rfl, ?_,
      congrArg some (by decide : Text.decimal 1 = "1")⟩
    rw [← shape.node_eq]
    rfl
  listed target shape endpoint items hendpoint hroute hbody ms hms hid := by
    obtain ⟨m, hm, hobj⟩ := mem_listing g version timeout now state hendpoint hroute hbody hms
    obtain rfl := Json.obj.inj hobj
    have hsame : m.nodeId = n.nodeId := Shape.nodeId_of_mem_members hid
    rw [List.inj_on_of_nodup_map hids hm hn hsame]

private theorem ne_of_notMem {id : UInt32} (hid : id ∉ g.nodes.map (·.nodeId)) : ∀ n ∈ g.nodes, n.nodeId ≠ id :=
  fun _ hn he => hid (he ▸ List.mem_map_of_mem hn)

theorem Service.lacks_of_notMem {id : UInt32} (hid : id ∉ g.nodes.map (·.nodeId)) :
    (g.gateway (none : Option (Bus β)) version timeout).Lacks now state id where
  detail target shape hasks := serve_missing hasks (ne_of_notMem hid)
  status target hasks := by
    rw [serve_status g version timeout now state hasks none, g.findNode_of_missing now (ne_of_notMem hid)]
    rfl
  alone shape :=
    ⟨_, serve_number g version timeout now state shape id (g.matchingNodes_number_of_missing now hid), rfl, rfl,
      congrArg some (by decide : Text.decimal 0 = "0")⟩

end

/-- In a grid whose nodes have distinct numbers every view of a node tells the same.  A node of the grid is shown in its
detail, in its status, alone in the listing for its number and in every listing that contains it, whatever the filter
and the page; for another number there is no detail, no status and an empty listing.  The paths of a node and of a
gateway, in either set, ask for its detail, and followed by its status ask for that. -/
theorem views_of_node_agree {g : Grid} (hids : (g.nodes.map (·.nodeId)).Nodup) (version : String) (timeout : Nat)
    (now : UInt64) (state : Records × β) :
    (∀ (shape : Shape), ∀ kind ∈ ["nodes", "gateways"], ∀ (id : UInt32) (query : String),
      Target.AsksFor ⟨shape.nodePath kind id, query⟩ shape id ∧
        Target.AsksForStatus ⟨shape.nodePath kind id ++ "/status", query⟩ id) ∧
    (∀ n ∈ g.nodes, (g.gateway (none : Option (Bus β)) version timeout).Shows now state n.nodeId (g.serve now n)) ∧
    ∀ id ∉ g.nodes.map (·.nodeId), (g.gateway (none : Option (Bus β)) version timeout).Lacks now state id :=
  ⟨fun shape _ hkind id query => ⟨asksFor_nodePath shape hkind id query, asksForStatus_nodePath shape hkind id query⟩,
    fun _ hn => Service.shows_of_mem version timeout now state hids hn,
    fun _ hid => Service.lacks_of_notMem version timeout now state hid⟩

/-- A node that was updated at the moment it is asked for. -/
def freshNode : Grid.NodeRecord := { nodeId := 2, updatedAt := 9 }

/-- A grid of two nodes. -/
def freshAndStale : Grid where
  nodes := [{ nodeId := 1 }, freshNode]

/-- The fresh node is shown under the nested path of a gateway and alone in the listing for its number; there is no
third node. -/
theorem views_of_freshNode :
    (freshAndStale.nodes.map (·.nodeId)).Nodup ∧
    (∃ r, (freshAndStale.gateway (none : Option (Bus Unit)) "1.0" 30000).serve 9
        { target := ⟨"/api/v2/gateways/2", ""⟩ } (([] : Records), ()) = (r, ([], ())) ∧ r.status = 200 ∧
      r.ownMembers? = some (Shape.nested.members (freshAndStale.serve 9 freshNode))) ∧
    (∃ r, (freshAndStale.gateway (none : Option (Bus Unit)) "1.0" 30000).serve 9
        { target := ⟨"/nodes", "node_id=2"⟩ } (([] : Records), ()) = (r, ([], ())) ∧ r.status = 200 ∧
      r.body = .json (.arr [.obj (Shape.flat.members (freshAndStale.serve 9 freshNode))]) ∧
      r.header? "count" = some "1") ∧
    (freshAndStale.gateway (none : Option (Bus Unit)) "1.0" 30000).serve 9
        { target := ⟨"/nodes/3/status", ""⟩ } (([] : Records), ()) =
      ((Response.json 404 (.obj [("error", .str "node not found")])).permitted, ([], ())) := by
  have hids : (freshAndStale.nodes.map (·.nodeId)).Nodup := by decide
  obtain ⟨hpaths, hshows, hlacks⟩ := views_of_node_agree hids "1.0" 30000 9 (([] : Records), ())
  have hfresh := hshows freshNode (by simp [freshAndStale])
  exact ⟨hids, hfresh.detail _ .nested (hpaths .nested "gateways" (by simp) 2 "").1, hfresh.alone .flat,
    (hlacks 3 (by decide)).status _ (hpaths .flat "nodes" (by simp) 3 "").2⟩

end Http

end GridGateway
