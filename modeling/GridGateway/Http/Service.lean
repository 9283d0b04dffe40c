import GridGateway.Entity.NodeDetail
import GridGateway.Http.Failure
import GridGateway.Http.Route
import GridGateway.Telemetry.Refresh

/-!
# The service

What is answered on each route. Listings check the filter, then the words of its closed vocabularies, then the
limit, and ask the inventory only when all of them are sound. The detail of a node shows what the last successful
fetch told about it; when there was none and a bus is at hand, the node is refreshed on the spot.
-/

namespace GridGateway.Http

open Query

/-- What the gateway serves from. -/
structure Service (σ β : Type) where
  inventory : Inventory σ
  /-- The bus to the nodes, if there is one. -/
  bus : Option (Bus β) := none
  /-- Milliseconds that a fetch may take. -/
  timeout : Nat := 30000
  version : String

/-- The work on a request, over the states of the inventory and of the bus. -/
abbrev Work (σ β α : Type) : Type := ExceptT Failure (StateM (σ × β)) α

variable {σ β α : Type}

/-- Asks the inventory. -/
def consult (q : Ask σ α) : Work σ β α := ExceptT.mk fun (store, script) =>
  let (answer, store) := q.run store
  (answer.mapError Failure.ofInventory, (store, script))

/-- Lifts a refusal of a query. -/
def checked (r : Except QueryError α) : Work σ β α := ExceptT.mk (pure (r.mapError Failure.ofQuery))

/-- The welcome text. -/
def indexText : String :=
  "Welcome to the grid proxy.\n\n" ++
  "Endpoints:\n" ++
  "  /farms /twins /contracts /stats\n" ++
  "  /nodes /nodes/\x7bid\x7d /nodes/\x7bid\x7d/status\n" ++
  "  /gateways /gateways/\x7bid\x7d /gateways/\x7bid\x7d/status\n" ++
  "  /version /ping\n\n" ++
  "The same set is served with nested node capacity under /api/v2.\n"

/-- A node in the form that is served. -/
def Shape.node : Shape → Node → Json
  | flat, n => n.toJson
  | nested, n => n.nest.toJson

/-- The detail of a node in the form that is served. -/
def Shape.detail (hypervisor zosVersion : String) : Shape → Node → Json
  | flat, n => (NodeDetail.mk n hypervisor zosVersion).flatJson
  | nested, n => (NodeDetail.mk n.nest hypervisor zosVersion).nestedJson

/-- The response that carries a page. The figures about the whole listing are given as headers when they were
asked for. -/
def listing (items : List Json) (limit : Limit) (count : UInt64) : Response :=
  let page := Response.json 200 (.arr items)
  if limit.retCount then
    page.withHeader "count" (Text.decimal count.toNat)
      |>.withHeader "size" (Text.decimal limit.size.toNat)
      |>.withHeader "pages" (Text.decimal (limit.pages count).toNat)
  else page

/-- The number of the node that a segment of a path names. -/
def nodeNumber (segment : String) : Work σ β UInt32 :=
  match Text.percentDecode? segment.toList with
  | none => throw (.badPath "node_id")
  | some raw =>
    match Text.uint32? raw with
    | some id => return id
    | none => throw (.badRequest ("invalid node id: " ++ raw))

namespace Service

/-- A page of nodes. Their number is always given. -/
def listNodes (s : Service σ β) (shape : Shape) (now : UInt64) (filter : NodeFilter) (query : String) :
    Work σ β Response := do
  checked filter.validate
  let limit ← checked (Params.ofQuery query)
  let limit := Limit.withCount limit
  let (nodes, count) ← consult (s.inventory.nodes now filter limit)
  return listing (nodes.map shape.node) limit count

/-- What a node tells about itself: its hypervisor and the version of its operating system. -/
def selfDescription (s : Service σ β) (now : UInt64) (node : Node) : Work σ β (String × String) := do
  let record ← consult (s.inventory.telemetry node.nodeId)
  match record.filter (·.lastFetchSuccess.isSome), s.bus with
  | some record, _ => return (record.report.hypervisor, record.report.zosVersion)
  | none, none => return ("", "")
  | none, some bus =>
    let fetch ← (Telemetry.refresh s.inventory bus node.nodeId node.twinId s.timeout now :
      StateM (σ × β) Bus.Fetch)
    match fetch.result with
    | .ok report => return (report.hypervisor, report.zosVersion)
    | .error e => throw (.ofBus e)

/-- The detail of a node. -/
def nodeDetail (s : Service σ β) (shape : Shape) (now : UInt64) (segment : String) : Work σ β Response := do
  let id ← nodeNumber segment
  let node ← consult (s.inventory.node now id)
  let (hypervisor, zosVersion) ← s.selfDescription now node
  return .json 200 (shape.detail hypervisor zosVersion node)

/-- The status of a node. -/
def nodeStatus (s : Service σ β) (now : UInt64) (segment : String) : Work σ β Response := do
  let id ← nodeNumber segment
  let node ← consult (s.inventory.node now id)
  return .json 200 (NodeStatus.mk node.status).toJson

/-- A page of farms. -/
def listFarms (s : Service σ β) (query : String) : Work σ β Response := do
  let filter : FarmFilter ← checked (Params.ofQuery query)
  let limit : Limit ← checked (Params.ofQuery query)
  let (farms, count) ← consult (s.inventory.farms filter limit)
  return listing (farms.map Farm.toJson) limit count

/-- A page of twins. -/
def listTwins (s : Service σ β) (query : String) : Work σ β Response := do
  let filter : TwinFilter ← checked (Params.ofQuery query)
  let limit : Limit ← checked (Params.ofQuery query)
  let (twins, count) ← consult (s.inventory.twins filter limit)
  return listing (twins.map Twin.toJson) limit count

/-- A page of contracts. -/
def listContracts (s : Service σ β) (query : String) : Work σ β Response := do
  let filter : ContractFilter ← checked (Params.ofQuery query)
  checked filter.validate
  let limit : Limit ← checked (Params.ofQuery query)
  let (contracts, count) ← consult (s.inventory.contracts filter limit)
  return listing (contracts.map Contract.toJson) limit count

/-- The figures about the grid. -/
def statistics (s : Service σ β) (now : UInt64) (query : String) : Work σ β Response := do
  let filter : StatsFilter ← checked (Params.ofQuery query)
  let _ ← checked filter.wantedStatus
  let counters ← consult (s.inventory.counters now filter)
  return .json 200 counters.toJson

/-- What is answered on a route. -/
def respond (s : Service σ β) (now : UInt64) (route : Route) (query : String) : Work σ β Response :=
  match route.endpoint with
  | .index => return .plain 200 indexText
  | .ping => return .json 200 (.obj [("ping", .str "pong")])
  | .version => return .json 200 (Version.mk s.version).toJson
  | .farms => s.listFarms query
  | .twins => s.listTwins query
  | .contracts => s.listContracts query
  | .stats => s.statistics now query
  | .nodes => do
    let filter ← checked (Params.ofQuery query)
    s.listNodes route.shape now filter query
  | .gateways => do
    let filter : NodeFilter ← checked (Params.ofQuery query)
    s.listNodes route.shape now { filter with domain := some true, ipv4 := some true } query
  | .node segment => s.nodeDetail route.shape now segment
  | .nodeStatus segment => s.nodeStatus now segment

end Service

end GridGateway.Http
