import GridGateway.Client.Error
import GridGateway.Entity.Contract
import GridGateway.Entity.Counters
import GridGateway.Entity.Farm
import GridGateway.Entity.NodeDetail
import GridGateway.Query.Filter
import GridGateway.Query.Limit

/-!
# Calls of a client

The calls that a grid proxy understands, each with the type of its answer. A listing is answered with a page and
with the number of matches.
-/

namespace GridGateway

namespace Client

open Query

/-- A call with an answer of type `α`. -/
inductive Call : Type → Type where
  | ping : Call Unit
  | version : Call Version
  | nodes (filter : NodeFilter) (limit : Limit) : Call (List Node × UInt64)
  | gateways (filter : NodeFilter) (limit : Limit) : Call (List Node × UInt64)
  | node (nodeId : UInt32) : Call (NodeDetail Node)
  | gateway (nodeId : UInt32) : Call (NodeDetail Node)
  | nodeStatus (nodeId : UInt32) : Call NodeStatus
  | farms (filter : FarmFilter) (limit : Limit) : Call (List Farm × UInt64)
  | twins (filter : TwinFilter) (limit : Limit) : Call (List Twin × UInt64)
  | contracts (filter : ContractFilter) (limit : Limit) : Call (List Contract × UInt64)
  | counters (filter : StatsFilter) : Call Counters

namespace Call

/-- The name of a call. -/
def name : {α : Type} → Call α → String
  | _, ping => "ping"
  | _, version => "version"
  | _, nodes _ _ => "nodes"
  | _, gateways _ _ => "gateways"
  | _, node _ => "node"
  | _, gateway _ => "gateway"
  | _, nodeStatus _ => "node_status"
  | _, farms _ _ => "farms"
  | _, twins _ _ => "twins"
  | _, contracts _ _ => "contracts"
  | _, counters _ => "counters"

/-- The path of a node below a listing. -/
def nodePath (listing : String) (nodeId : UInt32) : String :=
  "/" ++ listing ++ "/" ++ Text.decimal nodeId.toNat

/-- The path of a call. -/
def path : {α : Type} → Call α → String
  | _, ping => "/ping"
  | _, version => "/version"
  | _, nodes _ _ => "/nodes"
  | _, gateways _ _ => "/gateways"
  | _, node id => nodePath "nodes" id
  | _, gateway id => nodePath "gateways" id
  | _, nodeStatus id => nodePath "nodes" id ++ "/status"
  | _, farms _ _ => "/farms"
  | _, twins _ _ => "/twins"
  | _, contracts _ _ => "/contracts"
  | _, counters _ => "/stats"

/-- The pairs of the query of a listing. -/
def listingPairs {F : Type} [Params F] (filter : F) (limit : Limit) : List (String × String) :=
  Params.pairs filter ++ Params.pairs limit

/-- The pairs of the query of a call. -/
def queryPairs : {α : Type} → Call α → List (String × String)
  | _, nodes f l => listingPairs f l
  | _, gateways f l => listingPairs f l
  | _, farms f l => listingPairs f l
  | _, twins f l => listingPairs f l
  | _, contracts f l => listingPairs f l
  | _, counters f => Params.pairs f
  | _, ping => []
  | _, version => []
  | _, node _ => []
  | _, gateway _ => []
  | _, nodeStatus _ => []

/-- The query of a call. -/
def query {α : Type} (c : Call α) : String := encodePairs c.queryPairs

end Call

end Client

/-- A client with the state `γ`. A call takes some milliseconds and brings its answer or fails. -/
structure Client (γ : Type) where
  perform : {α : Type} → Client.Call α → StateM γ (Nat × Except Client.ClientError α)

end GridGateway
