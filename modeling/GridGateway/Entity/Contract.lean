import GridGateway.Entity.ContractKind
import GridGateway.Json.Decoder

/-!
# Contracts

A contract is about a deployment on a node, about a name, or about the rent of a whole node. On the wire the
member `type` names the kind and `details` holds what is particular to it; the two have to agree.
-/

namespace GridGateway

open Json

/-- One bill of a contract. -/
structure Billing where
  amountBilled : UInt64 := 0
  discountReceived : String := ""
  timestamp : UInt64 := 0
  deriving DecidableEq, Repr, Inhabited

/-- A bill as a document. -/
def Billing.toJson (b : Billing) : Json :=
  .obj [("amountBilled", .uint64 b.amountBilled), ("discountReceived", .str b.discountReceived),
    ("timestamp", .uint64 b.timestamp)]

/-- Reads a bill; what is absent or `null` has its default. -/
def Billing.decoder : Decoder Billing :=
  (Record.pure Billing.mk
    |>.optional "amountBilled" (.orNull 0 .uint64) 0 |>.optional "discountReceived" (.orNull "" .string) ""
    |>.optional "timestamp" (.orNull 0 .uint64) 0).decoder "ContractBilling"

/-- What is particular to a deployment on a node. -/
structure NodeDetails where
  nodeId : UInt32 := 0
  deploymentData : String := ""
  deploymentHash : String := ""
  numberOfPublicIps : UInt32 := 0
  deriving DecidableEq, Repr, Inhabited

/-- The part of a contract that depends on its kind. -/
inductive ContractDetails where
  | node (details : NodeDetails)
  | name (name : String)
  | rent (nodeId : UInt32)
  deriving DecidableEq, Repr, Inhabited

namespace ContractDetails

/-- The kind that the details belong to. -/
def kind : ContractDetails → ContractKind
  | node _ => .node
  | name _ => .name
  | rent _ => .rent

/-- The details as a document, with their members in ascending order. -/
def toJson : ContractDetails → Json
  | node d =>
    .obj [("deployment_data", .str d.deploymentData), ("deployment_hash", .str d.deploymentHash),
      ("nodeId", .uint32 d.nodeId), ("number_of_public_ips", .uint32 d.numberOfPublicIps)]
  | name n => .obj [("name", .str n)]
  | rent id => .obj [("nodeId", .uint32 id)]

/-- Reads the details of a contract of a kind. -/
def decoder : ContractKind → Decoder ContractDetails
  | .node =>
    (Record.pure (fun id data hash ips => node ⟨id, data, hash, ips⟩)
      |>.required "nodeId" .uint32 |>.required "deployment_data" .string
      |>.required "deployment_hash" .string |>.required "number_of_public_ips" .uint32
      ).decoder "NodeContractDetails"
  | .name => (Record.pure name |>.required "name" .string).decoder "NameContractDetails"
  | .rent => (Record.pure rent |>.required "nodeId" .uint32).decoder "RentContractDetails"

end ContractDetails

/-- A contract. -/
structure Contract where
  contractId : UInt64
  twinId : UInt32
  state : String
  createdAt : UInt64
  details : ContractDetails
  billing : List Billing
  deriving DecidableEq, Repr, Inhabited

namespace Contract

/-- The kind of a contract. -/
def kind (c : Contract) : ContractKind := c.details.kind

/-- A contract as a document. -/
def toJson (c : Contract) : Json :=
  .obj [("contractId", .uint64 c.contractId), ("twinId", .uint32 c.twinId), ("state", .str c.state),
    ("created_at", .uint64 c.createdAt), ("type", .str c.kind.label), ("details", c.details.toJson),
    ("billing", .list Billing.toJson c.billing)]

/-- A contract whose details have not been read yet. -/
structure Sealed where
  contractId : UInt64
  twinId : UInt32
  state : String
  createdAt : UInt64
  kind : String
  details : Json
  billing : List Billing

/-- Reads a contract up to its details. -/
def Sealed.decoder : Decoder Sealed :=
  (Record.pure Sealed.mk
    |>.required "contractId" .uint64 |>.required "twinId" .uint32 |>.required "state" .string
    |>.required "created_at" .uint64 |>.required "type" .string |>.required "details" .json
    |>.optional "billing" (.list Billing.decoder) []).decoder "ContractWire"

/-- Reads the details of a contract as its kind asks. -/
def Sealed.unseal (w : Sealed) : Except DecodeError Contract :=
  match ContractKind.ofLabel? w.kind with
  | none => .error (.unknownContractKind w.kind)
  | some kind =>
    match (ContractDetails.decoder kind).ofJson w.details with
    | .ok details => .ok ⟨w.contractId, w.twinId, w.state, w.createdAt, details, w.billing⟩
    | .error e => .error (.contractDetails w.kind e)

/-- Reads a contract. -/
def decoder : Decoder Contract := fun c d => do
  let w ← Sealed.decoder c d
  w.unseal

end Contract

end GridGateway
