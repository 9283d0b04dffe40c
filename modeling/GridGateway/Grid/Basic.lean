import GridGateway.Inventory
import GridGateway.Sql.DerivedObjects
import GridGateway.Text.Lowercase

/-!
# The grid in memory

A grid is given by plain records of its nodes, farms, twins and contracts. What a node offers follows from them:
contracts in an active state use up capacity, part of it is reserved for the node's own system, and an active
rent contract holds the whole node.
-/

namespace GridGateway.Grid

/-- What is recorded of a node. -/
structure NodeRecord where
  nodeId : UInt32 := 0
  farmId : UInt32 := 0
  twinId : UInt32 := 0
  country : String := ""
  city : String := ""
  updatedAt : UInt64 := 0
  total : Capacity := {}
  publicConfig : PublicConfig := {}
  certification : String := ""
  deriving DecidableEq, Repr, Inhabited

/-- What is recorded of a farm. -/
structure FarmRecord where
  farmId : UInt32 := 0
  name : String := ""
  twinId : UInt32 := 0
  dedicated : Bool := false
  publicIps : List PublicIp := []
  deriving DecidableEq, Repr, Inhabited

/-- A contract about a deployment on a node, with the capacity it uses. -/
structure NodeContract where
  contractId : UInt64 := 0
  twinId : UInt32 := 0
  nodeId : UInt32 := 0
  state : String := ""
  resources : Capacity := {}
  deriving DecidableEq, Repr, Inhabited

/-- A contract about the rent of a node. -/
structure RentContract where
  contractId : UInt64 := 0
  twinId : UInt32 := 0
  nodeId : UInt32 := 0
  state : String := ""
  deriving DecidableEq, Repr, Inhabited

/-- A contract about a name. -/
structure NameContract where
  contractId : UInt64 := 0
  twinId : UInt32 := 0
  name : String := ""
  state : String := ""
  deriving DecidableEq, Repr, Inhabited

end Grid

/-- A grid. -/
structure Grid where
  nodes : List Grid.NodeRecord := []
  farms : List Grid.FarmRecord := []
  twins : List Twin := []
  nodeContracts : List Grid.NodeContract := []
  rentContracts : List Grid.RentContract := []
  nameContracts : List Grid.NameContract := []
  deriving Repr, Inhabited

namespace Grid

/-- The farm with a number. -/
def farmOf? (g : Grid) (farmId : UInt32) : Option FarmRecord := g.farms.find? (·.farmId = farmId)

/-- The active rent contract of a node. -/
def rentOf? (g : Grid) (nodeId : UInt32) : Option RentContract :=
  g.rentContracts.find? fun r => r.nodeId = nodeId && ContractState.isActive r.state

/-- The active deployments on a node. -/
def deploymentsOn (g : Grid) (nodeId : UInt32) : List NodeContract :=
  g.nodeContracts.filter fun c => c.nodeId = nodeId && ContractState.isActive c.state

/-- The capacity that the deployments on a node use. -/
def deployed (g : Grid) (nodeId : UInt32) : Capacity :=
  .total ((g.deploymentsOn nodeId).map (·.resources))

/-- The capacity reserved for the system of a node. -/
def NodeRecord.reserved (n : NodeRecord) : Capacity :=
  { sru := Sql.reservedSru, mru := Sql.reservedMru n.total.mru }

/-- The capacity of a node that is used or reserved. -/
def usedOn (g : Grid) (n : NodeRecord) : Capacity := g.deployed n.nodeId + n.reserved

/-- The capacity of a node that is still free; cores are not accounted for. -/
def freeOn (g : Grid) (n : NodeRecord) : Capacity :=
  let used := g.usedOn n
  { sru := satSub n.total.sru used.sru, hru := satSub n.total.hru used.hru,
    mru := satSub n.total.mru used.mru }

/-- Whether the farm of a node lets out whole nodes only. -/
def isDedicated (g : Grid) (n : NodeRecord) : Bool := ((g.farmOf? n.farmId).map (·.dedicated)).getD false

/-- The number of free public addresses of a node's farm. -/
def freeIpsAt (g : Grid) (n : NodeRecord) : Nat :=
  ((g.farmOf? n.farmId).map fun f => f.publicIps.countP (·.isFree)).getD 0

/-- The node that a record is served as at the time `now`. -/
def serve (g : Grid) (now : UInt64) (n : NodeRecord) : Node where
  nodeId := n.nodeId
  farmId := n.farmId
  twinId := n.twinId
  country := n.country
  city := n.city
  updatedAt := n.updatedAt
  totalResources := n.total
  usedResources := g.usedOn n
  location := { country := n.country, city := n.city }
  publicConfig := n.publicConfig
  status := Status.atTime n.updatedAt now
  certificationType := n.certification
  dedicated := g.isDedicated n
  rentContractId := ((g.rentOf? n.nodeId).map (·.contractId)).getD 0
  rentedByTwinId := ((g.rentOf? n.nodeId).map (·.twinId)).getD 0

/-- The farm that a record is served as. -/
def FarmRecord.serve (f : FarmRecord) : Farm where
  name := f.name
  farmId := f.farmId
  twinId := f.twinId
  dedicated := f.dedicated
  publicIps := f.publicIps

/-- The contracts of all kinds: deployments, rents and names, in this order. -/
def contracts (g : Grid) : List Contract :=
  g.nodeContracts.map (fun c => ⟨c.contractId, c.twinId, c.state, 0, .node { nodeId := c.nodeId }, []⟩) ++
  g.rentContracts.map (fun c => ⟨c.contractId, c.twinId, c.state, 0, .rent c.nodeId, []⟩) ++
  g.nameContracts.map (fun c => ⟨c.contractId, c.twinId, c.state, 0, .name c.name, []⟩)

end Grid

end GridGateway
