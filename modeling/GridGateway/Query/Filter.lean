import GridGateway.Entity.ContractKind
import GridGateway.Entity.Status
import GridGateway.Query.Slot

/-!
# Filters of the listings

What a listing may be narrowed down to. Every field of a filter is a slot for one query parameter; an absent
field is no constraint. Status, contract kind and contract state have closed vocabularies, which are checked
after the filter has been read.
-/

namespace GridGateway.Query

/-- Constraints on a listing of nodes. -/
structure NodeFilter where
  status : Option String := none
  freeMru : Option UInt64 := none
  freeHru : Option UInt64 := none
  freeSru : Option UInt64 := none
  totalMru : Option UInt64 := none
  totalHru : Option UInt64 := none
  totalSru : Option UInt64 := none
  totalCru : Option UInt64 := none
  country : Option String := none
  countryContains : Option String := none
  city : Option String := none
  cityContains : Option String := none
  farmName : Option String := none
  farmNameContains : Option String := none
  farmIds : List UInt64 := []
  freeIps : Option UInt64 := none
  ipv4 : Option Bool := none
  ipv6 : Option Bool := none
  domain : Option Bool := none
  dedicated : Option Bool := none
  rentable : Option Bool := none
  rented : Option Bool := none
  rentedBy : Option UInt64 := none
  availableFor : Option UInt64 := none
  nodeId : Option UInt64 := none
  twinId : Option UInt64 := none
  certificationType : Option String := none
  deriving DecidableEq, Repr

/-- Constraints on a listing of farms. -/
structure FarmFilter where
  freeIps : Option UInt64 := none
  totalIps : Option UInt64 := none
  stellarAddress : Option String := none
  pricingPolicyId : Option UInt64 := none
  farmId : Option UInt64 := none
  twinId : Option UInt64 := none
  name : Option String := none
  nameContains : Option String := none
  certificationType : Option String := none
  dedicated : Option Bool := none
  deriving DecidableEq, Repr

/-- Constraints on a listing of twins. -/
structure TwinFilter where
  twinId : Option UInt64 := none
  accountId : Option String := none
  relay : Option String := none
  publicKey : Option String := none
  deriving DecidableEq, Repr

/-- Constraints on a listing of contracts. -/
structure ContractFilter where
  contractId : Option UInt64 := none
  twinId : Option UInt64 := none
  nodeId : Option UInt64 := none
  kind : Option String := none
  state : Option String := none
  name : Option String := none
  numberOfPublicIps : Option UInt64 := none
  deploymentData : Option String := none
  deploymentHash : Option String := none
  deriving DecidableEq, Repr

/-- Constraints on the statistics: liveness of the nodes counted. -/
structure StatsFilter where
  status : Option String := none
  deriving DecidableEq, Repr

/-- The query parameters of node listings. -/
def NodeFilter.slots : List (Slot NodeFilter) :=
  [.text "status" (·.status) ({ · with status := · }),
   .number "free_mru" (·.freeMru) ({ · with freeMru := · }),
   .number "free_hru" (·.freeHru) ({ · with freeHru := · }),
   .number "free_sru" (·.freeSru) ({ · with freeSru := · }),
   .number "total_mru" (·.totalMru) ({ · with totalMru := · }),
   .number "total_hru" (·.totalHru) ({ · with totalHru := · }),
   .number "total_sru" (·.totalSru) ({ · with totalSru := · }),
   .number "total_cru" (·.totalCru) ({ · with totalCru := · }),
   .text "country" (·.country) ({ · with country := · }),
   .text "country_contains" (·.countryContains) ({ · with countryContains := · }),
   .text "city" (·.city) ({ · with city := · }),
   .text "city_contains" (·.cityContains) ({ · with cityContains := · }),
   .text "farm_name" (·.farmName) ({ · with farmName := · }),
   .text "farm_name_contains" (·.farmNameContains) ({ · with farmNameContains := · }),
   .numbers "farm_ids" (·.farmIds) ({ · with farmIds := · }),
   .number "free_ips" (·.freeIps) ({ · with freeIps := · }),
   .flag "ipv4" (·.ipv4) ({ · with ipv4 := · }),
   .flag "ipv6" (·.ipv6) ({ · with ipv6 := · }),
   .flag "domain" (·.domain) ({ · with domain := · }),
   .flag "dedicated" (·.dedicated) ({ · with dedicated := · }),
   .flag "rentable" (·.rentable) ({ · with rentable := · }),
   .flag "rented" (·.rented) ({ · with rented := · }),
   .number "rented_by" (·.rentedBy) ({ · with rentedBy := · }),
   .number "available_for" (·.availableFor) ({ · with availableFor := · }),
   .number "node_id" (·.nodeId) ({ · with nodeId := · }),
   .number "twin_id" (·.twinId) ({ · with twinId := · }),
   .text "certification_type" (·.certificationType) ({ · with certificationType := · })]

/-- The query parameters of farm listings. -/
def FarmFilter.slots : List (Slot FarmFilter) :=
  [.number "free_ips" (·.freeIps) ({ · with freeIps := · }),
   .number "total_ips" (·.totalIps) ({ · with totalIps := · }),
   .text "stellar_address" (·.stellarAddress) ({ · with stellarAddress := · }),
   .number "pricing_policy_id" (·.pricingPolicyId) ({ · with pricingPolicyId := · }),
   .number "farm_id" (·.farmId) ({ · with farmId := · }),
   .number "twin_id" (·.twinId) ({ · with twinId := · }),
   .text "name" (·.name) ({ · with name := · }),
   .text "name_contains" (·.nameContains) ({ · with nameContains := · }),
   .text "certification_type" (·.certificationType) ({ · with certificationType := · }),
   .flag "dedicated" (·.dedicated) ({ · with dedicated := · })]

/-- The query parameters of twin listings. -/
def TwinFilter.slots : List (Slot TwinFilter) :=
  [.number "twin_id" (·.twinId) ({ · with twinId := · }),
   .text "account_id" (·.accountId) ({ · with accountId := · }),
   .text "relay" (·.relay) ({ · with relay := · }),
   .text "public_key" (·.publicKey) ({ · with publicKey := · })]

/-- The query parameters of contract listings. -/
def ContractFilter.slots : List (Slot ContractFilter) :=
  [.number "contract_id" (·.contractId) ({ · with contractId := · }),
   .number "twin_id" (·.twinId) ({ · with twinId := · }),
   .number "node_id" (·.nodeId) ({ · with nodeId := · }),
   .text "type" (·.kind) ({ · with kind := · }),
   .text "state" (·.state) ({ · with state := · }),
   .text "name" (·.name) ({ · with name := · }),
   .number "number_of_public_ips" (·.numberOfPublicIps) ({ · with numberOfPublicIps := · }),
   .text "deployment_data" (·.deploymentData) ({ · with deploymentData := · }),
   .text "deployment_hash" (·.deploymentHash) ({ · with deploymentHash := · })]

/-- The query parameters of the statistics. -/
def StatsFilter.slots : List (Slot StatsFilter) :=
  [.text "status" (·.status) ({ · with status := · })]

instance : Params NodeFilter := .ofSlots {} NodeFilter.slots
instance : Params FarmFilter := .ofSlots {} FarmFilter.slots
instance : Params TwinFilter := .ofSlots {} TwinFilter.slots
instance : Params ContractFilter := .ofSlots {} ContractFilter.slots
instance : Params StatsFilter := .ofSlots {} StatsFilter.slots

/-- Reads an optional word of a closed vocabulary. -/
def choice {α : Type} (key expected : String) (ofWord? : String → Option α) :
    Option String → Except QueryError (Option α)
  | none => .ok none
  | some raw =>
    match ofWord? raw with
    | some value => .ok (some value)
    | none => .error (.invalidChoice key raw expected)

/-- The status a listing of nodes asks for. -/
def statusChoice : Option String → Except QueryError (Option Status) :=
  choice "status" "up, down" Status.ofName?

/-- The status that the nodes listed must have. -/
def NodeFilter.wantedStatus (f : NodeFilter) : Except QueryError (Option Status) := statusChoice f.status

/-- Refuses a node filter with an unknown status. -/
def NodeFilter.validate (f : NodeFilter) : Except QueryError Unit := f.wantedStatus.map fun _ => ()

/-- The status that the nodes counted must have. -/
def StatsFilter.wantedStatus (f : StatsFilter) : Except QueryError (Option Status) := statusChoice f.status

/-- The state that the contracts listed must have. -/
def ContractFilter.wantedState (f : ContractFilter) : Except QueryError (Option ContractState) :=
  choice "state" "Created, GracePeriod, Deleted" ContractState.ofWord? f.state

/-- The kind that the contracts listed must have. -/
def ContractFilter.wantedKind (f : ContractFilter) : Except QueryError (Option ContractKind) :=
  choice "type" "node, name, rent" ContractKind.ofWord? f.kind

/-- Refuses a contract filter with an unknown state or, failing that, an unknown kind. -/
def ContractFilter.validate (f : ContractFilter) : Except QueryError Unit := do
  let _ ← f.wantedState
  let _ ← f.wantedKind
  return ()

end GridGateway.Query
