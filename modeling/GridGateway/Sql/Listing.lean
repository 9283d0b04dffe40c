import GridGateway.Query.Filter
import GridGateway.Sql.Predicate
import GridGateway.Sql.Sources

/-!
# Statements about entities

The statements that read nodes, farms, twins and contracts. A statement consists of a projection, a source with
the conditions of a filter, and for a page an order and a window. The statement that counts the matches of a
filter and the one that reads a page of them share the source and the conditions.
-/

namespace GridGateway.Sql

open GridGateway.Query

/-- An optional number as a parameter. -/
def number (n : Option UInt64) : Option Param := n.map bigintParam

/-- An optional text as a parameter. -/
def word (s : Option String) : Option Param := s.map fun s => .text (some s)

/-- An optional flag as a parameter. -/
def truth (b : Option Bool) : Option Param := b.map .bool

/-- The projection that counts the rows. -/
def countColumns : String := "count(*)"

/-- A statement that reads columns from a source. -/
def select (columns : String) (source : Fragment) : Fragment := .sql "SELECT " :: .sql columns :: source

/-- Where the resources of nodes are read from. -/
inductive Resources where
  /-- The view with the resources of all nodes. -/
  | view
  /-- The function that gives the resources of one node. -/
  | ofNode (nodeId : UInt32)

/-- The largest 32-bit integer of the database. -/
def maxInteger : Int := 2147483647

/-- A node number as a 32-bit integer; what does not fit is capped. -/
def nodeParam (nodeId : UInt32) : Param := .integer (min (nodeId.toNat : Int) maxInteger)

/-- The join that brings in the resources. -/
def Resources.join : Resources → Fragment
  | view => [.sql " LEFT JOIN nodes_resources_view ON node.node_id = nodes_resources_view.node_id"]
  | ofNode id =>
    [.sql " LEFT JOIN node_resources(", .bind (nodeParam id),
      .sql ") AS nodes_resources_view ON node.node_id = nodes_resources_view.node_id"]

/-- The condition that nodes have a status, where the value is the oldest time that counts as up. -/
def statusClause : Status → String
  | .up => "node.updated_at >= ?"
  | .down => "(node.updated_at < ? OR node.updated_at IS NULL)"

/-- The oldest time of a last report that counts as up at the time `now`, as a parameter. -/
def thresholdParam (now : UInt64) : Param := bigintParam (upThreshold now)

/-- The condition that nodes have a wanted status at the time `now`. -/
def statusCondition (now : UInt64) : Option Status → Fragment
  | none => []
  | some s => template (statusClause s) (some (thresholdParam now))

/-- Whether a node may be rented. -/
def rentableClause : String :=
  "? = ((COALESCE(farm.dedicated, false) OR COALESCE(nodes_resources_view.states, 0) = 0) " ++
    "AND COALESCE(rent_contract.contract_id, 0) = 0)"

/-- Whether a node is rented. -/
def rentedClause : String := "? = (COALESCE(rent_contract.contract_id, 0) != 0)"

/-- Whether a node is available for a twin: rented by it, or not rented and not dedicated. -/
def availableClause : String :=
  "(rent_contract.twin_id = ? OR (rent_contract.twin_id IS NULL " ++
    "AND NOT COALESCE(farm.dedicated, false)))"

/-- The conditions of a node filter, apart from the one on the status. -/
def nodeConditions (f : NodeFilter) : Fragment :=
  compare "nodes_resources_view.free_mru" .ge (number f.freeMru) ++
  compare "nodes_resources_view.free_hru" .ge (number f.freeHru) ++
  compare "nodes_resources_view.free_sru" .ge (number f.freeSru) ++
  compare "nodes_resources_view.total_cru" .ge (number f.totalCru) ++
  compare "nodes_resources_view.total_mru" .ge (number f.totalMru) ++
  compare "nodes_resources_view.total_hru" .ge (number f.totalHru) ++
  compare "nodes_resources_view.total_sru" .ge (number f.totalSru) ++
  equalsIgnoringCase "node.country" f.country ++
  containsIgnoringCase "node.country" f.countryContains ++
  equalsIgnoringCase "node.city" f.city ++
  containsIgnoringCase "node.city" f.cityContains ++
  compare "node.node_id" .eq (number f.nodeId) ++
  compare "node.twin_id" .eq (number f.twinId) ++
  anyOf "node.farm_id" (f.farmIds.map bigintOf) ++
  equalsIgnoringCase "farm.name" f.farmName ++
  containsIgnoringCase "farm.name" f.farmNameContains ++
  template enoughFreeIps (number f.freeIps) ++
  choose "COALESCE(public_config.ipv4, '') != ''" "COALESCE(public_config.ipv4, '') = ''" f.ipv4 ++
  choose "COALESCE(public_config.ipv6, '') != ''" "COALESCE(public_config.ipv6, '') = ''" f.ipv6 ++
  choose "COALESCE(public_config.domain, '') != ''" "COALESCE(public_config.domain, '') = ''" f.domain ++
  compare "COALESCE(farm.dedicated, false)" .eq (truth f.dedicated) ++
  template rentableClause (truth f.rentable) ++
  template rentedClause (truth f.rented) ++
  compare "COALESCE(rent_contract.twin_id, 0)" .eq (number f.rentedBy) ++
  template availableClause (number f.availableFor) ++
  equalsIgnoringCase "node.certification" f.certificationType

/-- The nodes that match a filter, whose status has been read, at the time `now`. -/
def nodeSource (resources : Resources) (status : Option Status) (f : NodeFilter) (now : UInt64) : Fragment :=
  [.sql " FROM node"] ++ resources.join ++ [.sql nodeJoins] ++ whereTrue ++ statusCondition now status ++
    nodeConditions f

/-- The nodes that match a filter; refused when the filter's status is unknown. -/
def nodeSource? (resources : Resources) (f : NodeFilter) (now : UInt64) : Except QueryError Fragment :=
  f.wantedStatus.map fun status => nodeSource resources status f now

/-- The order of a node listing: by number, but nodes rented by the twin they are looked up for come first. -/
def nodeOrder (f : NodeFilter) : Fragment :=
  match number f.availableFor with
  | some twin =>
    [.sql " ORDER BY CASE WHEN COALESCE(rent_contract.twin_id, 0) = ", .bind twin,
      .sql " THEN 0 ELSE 1 END, node.node_id"]
  | none => [.sql " ORDER BY node.node_id"]

/-- The window of a page. -/
def window (size offset : UInt64) : Fragment :=
  [.sql " LIMIT ", .bind (bigintParam size), .sql " OFFSET ", .bind (bigintParam offset)]

/-- The farms that match a filter. -/
def farmSource (f : FarmFilter) : Fragment :=
  [.sql " FROM farm"] ++ whereTrue ++
  template enoughFreeIps (number f.freeIps) ++
  template enoughIps (number f.totalIps) ++
  compare "farm.stellar_address" .eq (word f.stellarAddress) ++
  compare "farm.pricing_policy_id" .eq (number f.pricingPolicyId) ++
  compare "farm.farm_id" .eq (number f.farmId) ++
  compare "farm.twin_id" .eq (number f.twinId) ++
  equalsIgnoringCase "farm.name" f.name ++
  containsIgnoringCase "farm.name" f.nameContains ++
  equalsIgnoringCase "farm.certification" f.certificationType ++
  compare "COALESCE(farm.dedicated, false)" .eq (truth f.dedicated)

/-- The order of a farm listing. -/
def farmOrder : Fragment := [.sql " ORDER BY farm.farm_id"]

/-- The twins that match a filter. -/
def twinSource (f : TwinFilter) : Fragment :=
  [.sql " FROM twin"] ++ whereTrue ++
  compare "twin.twin_id" .eq (number f.twinId) ++
  compare "twin.account_id" .eq (word f.accountId) ++
  compare "twin.relay" .eq (word f.relay) ++
  compare "twin.public_key" .eq (word f.publicKey)

/-- The order of a twin listing. -/
def twinOrder : Fragment := [.sql " ORDER BY twin.twin_id"]

/-- The contracts that match a filter, whose state and kind have been read. -/
def contractConditions (state : Option ContractState) (kind : Option ContractKind) (f : ContractFilter) :
    Fragment :=
  [.sql contractSource] ++ whereTrue ++
  compare "contracts.contract_id" .eq (number f.contractId) ++
  compare "contracts.twin_id" .eq (number f.twinId) ++
  compare "contracts.node_id" .eq (number f.nodeId) ++
  compare "contracts.type" .eq (word (kind.map (·.label))) ++
  equalsIgnoringCase "contracts.state" (state.map (·.label)) ++
  compare "contracts.name" .eq (word f.name) ++
  compare "contracts.number_of_public_ips" .ge (number f.numberOfPublicIps) ++
  compare "contracts.deployment_data" .eq (word f.deploymentData) ++
  compare "contracts.deployment_hash" .eq (word f.deploymentHash)

/-- The contracts that match a filter; refused when the filter's state or, failing that, kind is unknown. -/
def contractSource? (f : ContractFilter) : Except QueryError Fragment := do
  let state ← f.wantedState
  let kind ← f.wantedKind
  return contractConditions state kind f

/-- The order of a contract listing. -/
def contractOrder : Fragment := [.sql " ORDER BY contracts.contract_id"]

end GridGateway.Sql
