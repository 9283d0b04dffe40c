import GridGateway.Grid.Matching
import GridGateway.Query.Limit

/-!
# The inventory of a grid

Listings of a grid are ordered by number and cut into pages; a node listing for a twin has the nodes that the twin
rents in front. The state of the inventory is the table of telemetry records: nothing else ever changes.
-/

namespace GridGateway.Grid

open Query Telemetry

/-- The elements in ascending order of a key; elements with one key keep their order. -/
def sortBy {α : Type} (key : α → Nat) (xs : List α) : List α :=
  xs.mergeSort fun a b => key a ≤ key b

/-- A page of a list, and the length of the list as far as it is asked for. -/
def cut {α : Type} (limit : Limit) (xs : List α) : List α × UInt64 :=
  ((xs.drop limit.offset.toNat).take limit.size.toNat, limit.shownCount (.ofNat xs.length))

/-- The place of a node in a listing: the nodes rented by the twin that the listing is for come first, then the
others, each in ascending order. -/
def nodeRank (f : NodeFilter) (n : Node) : Nat :=
  let preferred := f.availableFor.any fun t => n.rentedByTwinId.toUInt64 = t
  (if preferred then 0 else UInt32.size) + n.nodeId.toNat

/-- All nodes that match a filter, whose status has been read, in the order of a listing. -/
def matchingNodes (g : Grid) (now : UInt64) (status : Option Status) (f : NodeFilter) : List Node :=
  sortBy (nodeRank f) ((g.nodes.filter (g.nodeMatches now status f)).map (g.serve now))

/-- All farms that match a filter. -/
def matchingFarms (g : Grid) (f : FarmFilter) : List Farm :=
  sortBy (·.farmId.toNat) ((g.farms.map (·.serve)).filter (farmMatches f))

/-- All twins that match a filter. -/
def matchingTwins (g : Grid) (f : TwinFilter) : List Twin :=
  sortBy (·.twinId.toNat) (g.twins.filter (twinMatches f))

/-- All contracts that match a filter, whose state and kind have been read. -/
def matchingContracts (g : Grid) (state : Option ContractState) (kind : Option ContractKind)
    (f : ContractFilter) : List Contract :=
  sortBy (·.contractId.toNat) (g.contracts.filter (contractMatches state kind f))

/-- Whether a node has a public address. -/
def NodeRecord.isAccess (n : NodeRecord) : Bool := !n.publicConfig.ipv4.isEmpty || !n.publicConfig.ipv6.isEmpty

/-- Whether a node is a gateway: it has a public address and a domain. -/
def NodeRecord.isGateway (n : NodeRecord) : Bool := n.isAccess && !n.publicConfig.domain.isEmpty

/-- The number of different values in a list. -/
def distinct {α : Type} [DecidableEq α] (xs : List α) : Nat := xs.eraseDups.length

/-- Counts a country once more. -/
def countCountry (country : String) (table : List (String × UInt64)) : List (String × UInt64) :=
  let before := ((table.find? (·.1 = country)).map (·.2)).getD 0
  Json.putMember country (before + 1) table

/-- The figures about the nodes with a wanted status, and about the whole grid. -/
def figures (g : Grid) (now : UInt64) (status : Option Status) : Counters :=
  let nodes := g.nodes.filter fun n => equals (Status.atTime n.updatedAt now) status
  let total := Capacity.total (nodes.map (·.total))
  { twins := .ofNat g.twins.length
    publicIps := .ofNat (g.farms.flatMap (·.publicIps)).length
    contracts := .ofNat (g.nodeContracts.length + g.rentContracts.length + g.nameContracts.length)
    nodes := .ofNat nodes.length
    farms := .ofNat (distinct (nodes.map (·.farmId)))
    countries := .ofNat (distinct (nodes.map (·.country)))
    accessNodes := .ofNat (nodes.countP (·.isAccess))
    gateways := .ofNat (nodes.countP (·.isGateway))
    totalCru := total.cru
    totalSru := total.sru
    totalHru := total.hru
    totalMru := total.mru
    nodesDistribution := nodes.foldl (fun table n => countCountry n.country table) [] }

/-- An answer that does not depend on the telemetry. -/
def answer {α : Type} (r : Except InventoryError α) : Ask Records α := ExceptT.mk (pure r)

/-- Lifts a refusal of a filter. -/
def checked {α : Type} (r : Except QueryError α) : Except InventoryError α :=
  r.mapError InventoryError.invalidFilter

/-- A page of nodes. -/
def listNodes (g : Grid) (now : UInt64) (f : NodeFilter) (limit : Limit) :
    Except InventoryError (List Node × UInt64) := do
  -- a grid without nodes never looks at the filter
  let status ← if g.nodes.isEmpty then pure none else checked f.wantedStatus
  return cut limit (g.matchingNodes now status f)

/-- One node. -/
def findNode (g : Grid) (now : UInt64) (nodeId : UInt32) : Except InventoryError Node :=
  match g.nodes.find? (·.nodeId = nodeId) with
  | some n => .ok (g.serve now n)
  | none => .error .nodeNotFound

/-- One farm. -/
def findFarm (g : Grid) (farmId : UInt32) : Except InventoryError Farm :=
  match g.farmOf? farmId with
  | some f => .ok f.serve
  | none => .error .farmNotFound

/-- A page of contracts. -/
def listContracts (g : Grid) (f : ContractFilter) (limit : Limit) :
    Except InventoryError (List Contract × UInt64) := do
  let state ← checked f.wantedState
  let kind ← checked f.wantedKind
  return cut limit (g.matchingContracts state kind f)

/-- The nodes with their bookkeeping, in the order in which they are recorded. -/
def targets (g : Grid) (records : Records) (offset count : UInt64) : List Target :=
  ((g.nodes.drop offset.toNat).take count.toNat).map fun n =>
    Target.ofRecord n.nodeId n.twinId (records.get? n.nodeId)

/-- The inventory of a grid. -/
def inventory (g : Grid) : Inventory Records where
  nodes := fun now f limit => answer (g.listNodes now f limit)
  node := fun now nodeId => answer (g.findNode now nodeId)
  farms := fun f limit => answer (.ok (cut limit (g.matchingFarms f)))
  farm := fun farmId => answer (g.findFarm farmId)
  twins := fun f limit => answer (.ok (cut limit (g.matchingTwins f)))
  contracts := fun f limit => answer (g.listContracts f limit)
  counters := fun now f => answer ((checked f.wantedStatus).map (g.figures now))
  fetchTargets := fun offset count => do return g.targets (← get) offset count
  telemetry := fun nodeId => do return (← get).get? nodeId
  recordSuccess := fun nodeId report time => modify fun rs => rs.succeed nodeId report time
  recordFailure := fun nodeId reason time => modify fun rs => rs.fail nodeId reason time

end GridGateway.Grid
