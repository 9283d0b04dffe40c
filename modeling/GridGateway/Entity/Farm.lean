import GridGateway.Json.Decoder

/-!
# Farms

A farm owns nodes and public addresses. An address is free while no contract holds it.
-/

namespace GridGateway

open Json

/-- A public address of a farm. -/
structure PublicIp where
  id : String := ""
  ip : String := ""
  contractId : UInt64 := 0
  gateway : String := ""
  deriving DecidableEq, Repr, Inhabited

/-- An address as a document. -/
def PublicIp.toJson (p : PublicIp) : Json :=
  .obj [("id", .str p.id), ("ip", .str p.ip), ("contractId", .uint64 p.contractId), ("gateway", .str p.gateway)]

/-- Reads an address. -/
def PublicIp.decoder : Decoder PublicIp :=
  (Record.pure PublicIp.mk
    |>.optional "id" .string "" |>.optional "ip" .string ""
    |>.optional "contractId" .uint64 0 |>.optional "gateway" .string "").decoder "PublicIp"

/-- Whether no contract holds the address. -/
def PublicIp.isFree (p : PublicIp) : Bool := p.contractId == 0

/-- A farm. -/
structure Farm where
  name : String := ""
  farmId : UInt32 := 0
  twinId : UInt32 := 0
  pricingPolicyId : UInt32 := 0
  certificationType : String := ""
  stellarAddress : String := ""
  dedicated : Bool := false
  publicIps : List PublicIp := []
  deriving DecidableEq, Repr, Inhabited

/-- A farm as a document. -/
def Farm.toJson (f : Farm) : Json :=
  .obj [("name", .str f.name), ("farmId", .uint32 f.farmId), ("twinId", .uint32 f.twinId),
    ("pricingPolicyId", .uint32 f.pricingPolicyId), ("certificationType", .str f.certificationType),
    ("stellarAddress", .str f.stellarAddress), ("dedicated", .bool f.dedicated),
    ("publicIps", .list PublicIp.toJson f.publicIps)]

/-- Reads a farm. -/
def Farm.decoder : Decoder Farm :=
  (Record.pure Farm.mk
    |>.optional "name" .string "" |>.optional "farmId" .uint32 0 |>.optional "twinId" .uint32 0
    |>.optional "pricingPolicyId" .uint32 0 |>.optional "certificationType" .string ""
    |>.optional "stellarAddress" .string "" |>.optional "dedicated" .bool false
    |>.optional "publicIps" (.list PublicIp.decoder) []).decoder "Farm"

/-- The number of free addresses of a farm. -/
def Farm.freeIps (f : Farm) : Nat := f.publicIps.countP (·.isFree)

/-- The account that an owner of farms, nodes or contracts acts as. -/
structure Twin where
  twinId : UInt32 := 0
  accountId : String := ""
  relay : Option String := none
  publicKey : Option String := none
  deriving DecidableEq, Repr, Inhabited

/-- A twin as a document. -/
def Twin.toJson (t : Twin) : Json :=
  .obj [("twinId", .uint32 t.twinId), ("accountId", .str t.accountId), ("relay", .option .str t.relay),
    ("publicKey", .option .str t.publicKey)]

/-- Reads a twin. -/
def Twin.decoder : Decoder Twin :=
  (Record.pure Twin.mk
    |>.optional "twinId" .uint32 0 |>.optional "accountId" .string ""
    |>.optional "relay" (.option .string) none |>.optional "publicKey" (.option .string) none
    ).decoder "Twin"

end GridGateway
