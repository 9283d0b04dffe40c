import GridGateway.Inventory
import GridGateway.Sql.Statement

/-!
# Rows

A row gives a value for each column by name, with `null` for no value. A column that is not given holds the plain
value of its type: zero, the empty text, false, the empty list, or nothing where that is allowed. The columns of a
row are read in a fixed order, and the first one that cannot be read is reported.
-/

namespace GridGateway.Sql

/-- A row of an answer. -/
abbrev Row := List (String × Json)

/-- A reader of rows. -/
abbrev RowReader (α : Type) := ReaderT Row (Except DatabaseError) α

namespace Row

/-- The name of a column as an error shows it. -/
def label (name : String) : String := "\"" ++ name ++ "\""

/-- The value of a column, if it is given. -/
def value? (name : String) (row : Row) : Option Json := (row.find? (·.1 = name)).map (·.2)

/-- A column that must have a value of the kind that `pick` recognises. -/
def column {α : Type} (name : String) (plain : α) (pick : Json → Option α) : RowReader α := fun row =>
  match row.value? name with
  | none => .ok plain
  | some v =>
    match pick v with
    | some a => .ok a
    | none => .error (.column (label name) .null)

/-- A column that may have no value. -/
def optional {α : Type} (name : String) (pick : Json → Option α) : RowReader (Option α) :=
  column name none fun
    | .null => some none
    | v => (pick v).map some

/-- The integer of a value. -/
def int? : Json → Option Int
  | .int n => some n
  | _ => none

/-- The text of a value. -/
def text? : Json → Option String
  | .str s => some s
  | _ => none

/-- The truth value of a value. -/
def bool? : Json → Option Bool
  | .bool b => some b
  | _ => none

/-- The double of a value. -/
def float? (v : Json) : Option Float := (Json.Decoder.float {} (Json.Draft.ofJson v)).toOption

/-- An integer column. -/
def int (name : String) : RowReader Int := column name 0 int?

/-- A text column. -/
def text (name : String) : RowReader String := column name "" text?

/-- A truth column. -/
def bool (name : String) : RowReader Bool := column name false bool?

/-- A column that holds a list of documents. -/
def documents {α : Type} (name : String) (dec : Json.Decoder α) : RowReader (List α) := fun row =>
  match row.value? name with
  | none => .ok []
  | some .null => .error (.column (label name) .null)
  | some v =>
    match Json.Decoder.list dec {} (Json.Draft.ofJson v.canonical) with
    | .ok items => .ok items
    | .error e => .error (.column (label name) (.document e))

end Row

open Row

/-- Four integer columns that hold a capacity, in the order of the columns. -/
def readCapacity (kind : String) : RowReader Capacity := do
  let cru ← int (kind ++ "_cru")
  let sru ← int (kind ++ "_sru")
  let hru ← int (kind ++ "_hru")
  let mru ← int (kind ++ "_mru")
  return ⟨unsigned cru, unsigned sru, unsigned hru, unsigned mru⟩

/-- A node at the time `now`. -/
def readNode (now : UInt64) : RowReader Node := do
  let nodeId ← int "node_id"
  let farmId ← int "farm_id"
  let twinId ← int "twin_id"
  let country ← text "country"
  let city ← text "city"
  let uptime ← int "uptime"
  let created ← int "created"
  let farmingPolicyId ← int "farming_policy_id"
  let updatedAt ← int "updated_at"
  let total ← readCapacity "total"
  let used ← readCapacity "used"
  let domain ← text "domain"
  let gw4 ← text "gw4"
  let gw6 ← text "gw6"
  let ipv4 ← text "ipv4"
  let ipv6 ← text "ipv6"
  let certification ← text "certification"
  let dedicated ← bool "dedicated"
  let secure ← bool "secure"
  let virtualized ← bool "virtualized"
  let serialNumber ← text "serial_number"
  let rentContractId ← int "rent_contract_id"
  let rentedByTwinId ← int "rented_by_twin_id"
  let longitude ← optional "longitude" float?
  let latitude ← optional "latitude" float?
  return {
    nodeId := narrow nodeId
    farmId := narrow farmId
    twinId := narrow twinId
    country := country
    city := city
    uptime := unsigned uptime
    created := unsigned created
    farmingPolicyId := narrow farmingPolicyId
    updatedAt := unsigned updatedAt
    totalResources := total
    usedResources := used
    location := ⟨country, city, longitude, latitude⟩
    publicConfig := ⟨domain, gw4, gw6, ipv4, ipv6⟩
    status := Status.atTime (unsigned updatedAt) now
    certificationType := certification
    dedicated := dedicated
    secure := secure
    virtualized := virtualized
    rentContractId := unsigned rentContractId
    rentedByTwinId := narrow rentedByTwinId
    serialNumber := serialNumber }

/-- A farm. -/
def readFarm : RowReader Farm := do
  let farmId ← int "farm_id"
  let name ← text "name"
  let twinId ← int "twin_id"
  let pricingPolicyId ← int "pricing_policy_id"
  let certification ← text "certification"
  let stellarAddress ← text "stellar_address"
  let dedicated ← bool "dedicated"
  let publicIps ← documents "public_ips" PublicIp.decoder
  return {
    name := name
    farmId := narrow farmId
    twinId := narrow twinId
    pricingPolicyId := narrow pricingPolicyId
    certificationType := certification
    stellarAddress := stellarAddress
    dedicated := dedicated
    publicIps := publicIps }

/-- A twin. -/
def readTwin : RowReader Twin := do
  let twinId ← int "twin_id"
  let accountId ← text "account_id"
  let relay ← optional "relay" text?
  let publicKey ← optional "public_key" text?
  return ⟨narrow twinId, accountId, relay, publicKey⟩

/-- The columns of a contract, as they are. -/
structure ContractRow where
  contractId : Int
  twinId : Int
  state : String
  createdAt : Int
  name : String
  nodeId : Int
  deploymentData : String
  deploymentHash : String
  numberOfPublicIps : Int
  kind : String
  billings : List Billing

/-- The columns of a contract. -/
def readContractRow : RowReader ContractRow := do
  let contractId ← int "contract_id"
  let twinId ← int "twin_id"
  let state ← text "state"
  let createdAt ← int "created_at"
  let name ← text "name"
  let nodeId ← int "node_id"
  let deploymentData ← text "deployment_data"
  let deploymentHash ← text "deployment_hash"
  let numberOfPublicIps ← int "number_of_public_ips"
  let kind ← text "type"
  let billings ← documents "billings" Billing.decoder
  return ⟨contractId, twinId, state, createdAt, name, nodeId, deploymentData, deploymentHash, numberOfPublicIps,
    kind, billings⟩

/-- The contract that a row stands for; refused when its kind is unknown. -/
def ContractRow.contract (r : ContractRow) : Except InventoryError Contract :=
  let make (details : ContractDetails) : Contract :=
    ⟨unsigned r.contractId, narrow r.twinId, r.state, unsigned r.createdAt, details, r.billings⟩
  match ContractKind.ofLabel? r.kind with
  | some .node =>
    .ok (make (.node ⟨narrow r.nodeId, r.deploymentData, r.deploymentHash, narrow r.numberOfPublicIps⟩))
  | some .rent => .ok (make (.rent (narrow r.nodeId)))
  | some .name => .ok (make (.name r.name))
  | none => .error (.decode "contract type" r.kind)

/-- The figures about the grid, without the distribution. -/
def readCounters : RowReader Counters := do
  let twins ← int "twins"
  let publicIps ← int "public_ips"
  let contracts ← int "contracts"
  let nodes ← int "nodes"
  let farms ← int "farms"
  let countries ← int "countries"
  let accessNodes ← int "access_nodes"
  let gateways ← int "gateways"
  let totals ← readCapacity "total"
  return {
    nodes := unsigned nodes
    farms := unsigned farms
    countries := unsigned countries
    totalCru := totals.cru
    totalSru := totals.sru
    totalMru := totals.mru
    totalHru := totals.hru
    publicIps := unsigned publicIps
    accessNodes := unsigned accessNodes
    gateways := unsigned gateways
    twins := unsigned twins
    contracts := unsigned contracts }

/-- The number of nodes of a country. -/
def readCountry : RowReader (String × UInt64) := do
  let country ← text "country"
  let nodes ← int "nodes"
  return (country, unsigned nodes)

/-- The number of rows. -/
def readCount : RowReader UInt64 := fun row =>
  match row.value? "count" with
  | none => .ok 0
  | some (.int n) => .ok (unsigned n)
  | some _ => .error (.column "0" .null)

/-- A target of the refresher. A number of failures that does not fit counts as the largest one. -/
def readTarget : RowReader Telemetry.Target := do
  let nodeId ← int "node_id"
  let twinId ← int "twin_id"
  let retries ← int "retries"
  let lastFetchAttempt ← optional "last_fetch_attempt" int?
  return {
    nodeId := narrow nodeId
    twinId := narrow twinId
    retries := if 0 ≤ retries ∧ retries < UInt32.size then .ofNat retries.toNat else .ofNat (UInt32.size - 1)
    lastFetchAttempt := lastFetchAttempt.map unsigned }

/-- A telemetry record. -/
def readRecord : RowReader Telemetry.Record := do
  let total ← readCapacity "total"
  let used ← readCapacity "used"
  let usedIpv4u ← int "used_ipv4u"
  let status ← text "status"
  let hypervisor ← text "hypervisor"
  let zosVersion ← text "zos_version"
  let retries ← int "retries"
  let lastError ← optional "last_error" text?
  let lastFetchAttempt ← optional "last_fetch_attempt" int?
  let lastFetchSuccess ← optional "last_fetch_success" int?
  return {
    report := ⟨total, used, unsigned usedIpv4u, hypervisor, zosVersion⟩
    status := (Status.ofName? status).getD .down
    retries := narrow retries
    lastError := lastError
    lastFetchAttempt := lastFetchAttempt.map unsigned
    lastFetchSuccess := lastFetchSuccess.map unsigned }

end GridGateway.Sql
