import GridGateway.Entity.Capacity
import GridGateway.Entity.Status

/-!
# Nodes

A node as it is served. There are two forms: in the first the total and the used capacity are members of the node
itself, in the second they stand together under one member. Both hold the same data.
-/

namespace GridGateway

open Json

/-- A status as a document. -/
def Status.toJson (s : Status) : Json := .str s.name

/-- Reads a status. -/
def Status.decoder : Decoder Status := .word [("up", .up), ("down", .down)]

/-- Where a node stands. -/
structure Location where
  country : String := ""
  city : String := ""
  longitude : Option Float := none
  latitude : Option Float := none
  deriving DecidableEq, Repr, Inhabited

/-- A location as a document. -/
def Location.toJson (l : Location) : Json :=
  .obj [("country", .str l.country), ("city", .str l.city), ("longitude", .option .float l.longitude),
    ("latitude", .option .float l.latitude)]

/-- Reads a location. -/
def Location.decoder : Decoder Location :=
  (Record.pure Location.mk
    |>.optional "country" .string "" |>.optional "city" .string ""
    |>.optional "longitude" (.option .float) none |>.optional "latitude" (.option .float) none
    ).decoder "Location"

/-- The public network configuration of a node. An empty text means that nothing is set. -/
structure PublicConfig where
  domain : String := ""
  gw4 : String := ""
  gw6 : String := ""
  ipv4 : String := ""
  ipv6 : String := ""
  deriving DecidableEq, Repr, Inhabited

/-- A network configuration as a document. -/
def PublicConfig.toJson (p : PublicConfig) : Json :=
  .obj [("domain", .str p.domain), ("gw4", .str p.gw4), ("gw6", .str p.gw6), ("ipv4", .str p.ipv4),
    ("ipv6", .str p.ipv6)]

/-- Reads a network configuration. -/
def PublicConfig.decoder : Decoder PublicConfig :=
  (Record.pure PublicConfig.mk
    |>.optional "domain" .string "" |>.optional "gw4" .string "" |>.optional "gw6" .string ""
    |>.optional "ipv4" .string "" |>.optional "ipv6" .string "").decoder "PublicConfig"

/-- A node. -/
structure Node where
  nodeId : UInt32 := 0
  farmId : UInt32 := 0
  twinId : UInt32 := 0
  country : String := ""
  city : String := ""
  uptime : UInt64 := 0
  created : UInt64 := 0
  farmingPolicyId : UInt32 := 0
  updatedAt : UInt64 := 0
  totalResources : Capacity := {}
  usedResources : Capacity := {}
  location : Location := {}
  publicConfig : PublicConfig := {}
  status : Status := .down
  certificationType : String := ""
  dedicated : Bool := false
  secure : Bool := false
  virtualized : Bool := false
  rentContractId : UInt64 := 0
  rentedByTwinId : UInt32 := 0
  serialNumber : String := ""
  deriving DecidableEq, Repr, Inhabited

/-- The total and the used capacity of a node. -/
structure CapacityPair where
  total : Capacity := {}
  used : Capacity := {}
  deriving DecidableEq, Repr, Inhabited

/-- A node with its capacities under one member. -/
structure NestedNode where
  nodeId : UInt32 := 0
  farmId : UInt32 := 0
  twinId : UInt32 := 0
  country : String := ""
  city : String := ""
  uptime : UInt64 := 0
  created : UInt64 := 0
  farmingPolicyId : UInt32 := 0
  updatedAt : UInt64 := 0
  capacity : CapacityPair := {}
  location : Location := {}
  publicConfig : PublicConfig := {}
  status : Status := .down
  certificationType : String := ""
  dedicated : Bool := false
  secure : Bool := false
  virtualized : Bool := false
  rentContractId : UInt64 := 0
  rentedByTwinId : UInt32 := 0
  serialNumber : String := ""
  deriving DecidableEq, Repr, Inhabited

/-- The second form of a node. -/
def Node.nest (n : Node) : NestedNode where
  nodeId := n.nodeId
  farmId := n.farmId
  twinId := n.twinId
  country := n.country
  city := n.city
  uptime := n.uptime
  created := n.created
  farmingPolicyId := n.farmingPolicyId
  updatedAt := n.updatedAt
  capacity := ⟨n.totalResources, n.usedResources⟩
  location := n.location
  publicConfig := n.publicConfig
  status := n.status
  certificationType := n.certificationType
  dedicated := n.dedicated
  secure := n.secure
  virtualized := n.virtualized
  rentContractId := n.rentContractId
  rentedByTwinId := n.rentedByTwinId
  serialNumber := n.serialNumber

/-- The first form of a node. -/
def NestedNode.flatten (n : NestedNode) : Node where
  nodeId := n.nodeId
  farmId := n.farmId
  twinId := n.twinId
  country := n.country
  city := n.city
  uptime := n.uptime
  created := n.created
  farmingPolicyId := n.farmingPolicyId
  updatedAt := n.updatedAt
  totalResources := n.capacity.total
  usedResources := n.capacity.used
  location := n.location
  publicConfig := n.publicConfig
  status := n.status
  certificationType := n.certificationType
  dedicated := n.dedicated
  secure := n.secure
  virtualized := n.virtualized
  rentContractId := n.rentContractId
  rentedByTwinId := n.rentedByTwinId
  serialNumber := n.serialNumber

/-- The members of a node in the first form. -/
def Node.members (n : Node) : List (String × Json) :=
  [("nodeId", .uint32 n.nodeId), ("farmId", .uint32 n.farmId), ("twinId", .uint32 n.twinId),
   ("country", .str n.country), ("city", .str n.city), ("uptime", .uint64 n.uptime),
   ("created", .uint64 n.created), ("farmingPolicyId", .uint32 n.farmingPolicyId),
   ("updatedAt", .uint64 n.updatedAt), ("total_resources", n.totalResources.toJson),
   ("used_resources", n.usedResources.toJson), ("location", n.location.toJson),
   ("publicConfig", n.publicConfig.toJson), ("status", n.status.toJson),
   ("certificationType", .str n.certificationType), ("dedicated", .bool n.dedicated),
   ("secure", .bool n.secure), ("virtualized", .bool n.virtualized),
   ("rentContractId", .uint64 n.rentContractId), ("rentedByTwinId", .uint32 n.rentedByTwinId),
   ("serialNumber", .str n.serialNumber)]

/-- A node as a document, in the first form. -/
def Node.toJson (n : Node) : Json := .obj n.members

/-- How a node is read from its first form. -/
def Node.record : Record Node :=
  Record.pure Node.mk
    |>.optional "nodeId" .uint32 0 |>.optional "farmId" .uint32 0 |>.optional "twinId" .uint32 0
    |>.optional "country" .string "" |>.optional "city" .string "" |>.optional "uptime" .uint64 0
    |>.optional "created" .uint64 0 |>.optional "farmingPolicyId" .uint32 0
    |>.optional "updatedAt" .uint64 0 |>.optional "total_resources" Capacity.decoder {}
    |>.optional "used_resources" Capacity.decoder {} |>.optional "location" Location.decoder {}
    |>.optional "publicConfig" PublicConfig.decoder {} |>.optional "status" Status.decoder .down
    |>.optional "certificationType" .string "" |>.optional "dedicated" .bool false
    |>.optional "secure" .bool false |>.optional "virtualized" .bool false
    |>.optional "rentContractId" .uint64 0 |>.optional "rentedByTwinId" .uint32 0
    |>.optional "serialNumber" .string ""

/-- Reads a node in its first form. -/
def Node.decoder : Decoder Node := Node.record.decoder "Node"

/-- A pair of capacities as a document. -/
def CapacityPair.toJson (c : CapacityPair) : Json :=
  .obj [("total_resources", c.total.toJson), ("used_resources", c.used.toJson)]

/-- Reads a pair of capacities. -/
def CapacityPair.decoder : Decoder CapacityPair :=
  (Record.pure CapacityPair.mk
    |>.optional "total_resources" Capacity.decoder {} |>.optional "used_resources" Capacity.decoder {}
    ).decoder "CapacityResult"

/-- The members of a node in the second form. -/
def NestedNode.members (n : NestedNode) : List (String × Json) :=
  [("nodeId", .uint32 n.nodeId), ("farmId", .uint32 n.farmId), ("twinId", .uint32 n.twinId),
   ("country", .str n.country), ("city", .str n.city), ("uptime", .uint64 n.uptime),
   ("created", .uint64 n.created), ("farmingPolicyId", .uint32 n.farmingPolicyId),
   ("updatedAt", .uint64 n.updatedAt), ("capacity", n.capacity.toJson), ("location", n.location.toJson),
   ("publicConfig", n.publicConfig.toJson), ("status", n.status.toJson),
   ("certificationType", .str n.certificationType), ("dedicated", .bool n.dedicated),
   ("secure", .bool n.secure), ("virtualized", .bool n.virtualized),
   ("rentContractId", .uint64 n.rentContractId), ("rentedByTwinId", .uint32 n.rentedByTwinId),
   ("serialNumber", .str n.serialNumber)]

/-- A node as a document, in the second form. -/
def NestedNode.toJson (n : NestedNode) : Json := .obj n.members

/-- How a node is read from its second form. -/
def NestedNode.record : Record NestedNode :=
  Record.pure NestedNode.mk
    |>.optional "nodeId" .uint32 0 |>.optional "farmId" .uint32 0 |>.optional "twinId" .uint32 0
    |>.optional "country" .string "" |>.optional "city" .string "" |>.optional "uptime" .uint64 0
    |>.optional "created" .uint64 0 |>.optional "farmingPolicyId" .uint32 0
    |>.optional "updatedAt" .uint64 0 |>.optional "capacity" CapacityPair.decoder {}
    |>.optional "location" Location.decoder {} |>.optional "publicConfig" PublicConfig.decoder {}
    |>.optional "status" Status.decoder .down |>.optional "certificationType" .string ""
    |>.optional "dedicated" .bool false |>.optional "secure" .bool false
    |>.optional "virtualized" .bool false |>.optional "rentContractId" .uint64 0
    |>.optional "rentedByTwinId" .uint32 0 |>.optional "serialNumber" .string ""

/-- Reads a node in its second form. -/
def NestedNode.decoder : Decoder NestedNode := NestedNode.record.decoder "NodeWithNestedCapacity"

/-- The answer to a question for the liveness of one node. -/
structure NodeStatus where
  status : Status
  deriving DecidableEq, Repr

/-- A liveness answer as a document. -/
def NodeStatus.toJson (s : NodeStatus) : Json := .obj [("status", s.status.toJson)]

/-- Reads a liveness answer. -/
def NodeStatus.decoder : Decoder NodeStatus :=
  (Record.pure NodeStatus.mk |>.required "status" Status.decoder).decoder "NodeStatus"

end GridGateway
