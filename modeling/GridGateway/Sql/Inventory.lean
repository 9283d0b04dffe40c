import GridGateway.Sql.Session
import GridGateway.Sql.Statistics
import GridGateway.Sql.TelemetryTable

/-!
# The inventory of the database

Every question is one or two statements. A listing first counts the matches, when their number is asked for or
needed, and then reads the page; both statements are about the same rows. A filter that cannot be understood is
refused before anything is sent.
-/

namespace GridGateway.Sql

open Query Telemetry

/-- Lifts a refusal of a filter. -/
def checked {α : Type} (r : Except QueryError α) : Talk α :=
  ExceptT.mk (pure (r.mapError InventoryError.invalidFilter))

/-- The first row of a page. A random page starts at a row drawn by `pick`, which is given the last possible
one. -/
def pageStart (pick : UInt64 → UInt64) (limit : Limit) (total : UInt64) : UInt64 :=
  if limit.randomize then pick (satSub total limit.size) else limit.offset

/-- The matches of a source, counted if a limit needs it. -/
def countMatches (limit : Limit) (source : Fragment) : Talk UInt64 :=
  if limit.retCount || limit.randomize then query (select countColumns source) (.one readCount) else pure 0

/-- A page of the rows of a source and the number of its rows, as far as the limit asks for it. -/
def listPage {α : Type} (pick : UInt64 → UInt64) (columns : String) (source order : Fragment)
    (read : RowReader α) (limit : Limit) : Talk (List α × UInt64) := do
  let total ← countMatches limit source
  let start := pageStart pick limit total
  let rows ← query (select columns source ++ order ++ window limit.size start) (.all read)
  return (rows, limit.shownCount total)

/-- The row of a source that must be there. -/
def findRow {α : Type} (columns : String) (source : Fragment) (read : RowReader α) (absent : InventoryError) :
    Talk α := do
  match ← query (select columns source) (.optional read) with
  | some a => return a
  | none => throw absent

/-- A page of nodes. -/
def listNodes (pick : UInt64 → UInt64) (now : UInt64) (f : NodeFilter) (limit : Limit) :
    Talk (List Node × UInt64) := do
  let source ← checked (nodeSource? .view f now)
  listPage pick nodeColumns source (nodeOrder f) (readNode now) limit

/-- One node. -/
def findNode (now : UInt64) (nodeId : UInt32) : Talk Node :=
  findRow nodeColumns (nodeSource (.ofNode nodeId) none { nodeId := some nodeId.toUInt64 } now)
    (readNode now) .nodeNotFound

/-- A page of farms. -/
def listFarms (pick : UInt64 → UInt64) (f : FarmFilter) (limit : Limit) : Talk (List Farm × UInt64) :=
  listPage pick farmColumns (farmSource f) farmOrder readFarm limit

/-- One farm. -/
def findFarm (farmId : UInt32) : Talk Farm :=
  findRow farmColumns (farmSource { farmId := some farmId.toUInt64 }) readFarm .farmNotFound

/-- A page of twins. -/
def listTwins (pick : UInt64 → UInt64) (f : TwinFilter) (limit : Limit) : Talk (List Twin × UInt64) :=
  listPage pick twinColumns (twinSource f) twinOrder readTwin limit

/-- A page of contracts. -/
def listContracts (pick : UInt64 → UInt64) (f : ContractFilter) (limit : Limit) :
    Talk (List Contract × UInt64) := do
  let source ← checked (contractSource? f)
  let (rows, count) ← listPage pick contractColumns source contractOrder readContractRow limit
  let contracts ← ExceptT.mk (pure (rows.mapM ContractRow.contract))
  return (contracts, count)

/-- The figures about the grid. -/
def countGrid (now : UInt64) (f : StatsFilter) : Talk Counters := do
  let status ← checked f.wantedStatus
  let counters ← query (countersQuery status now) (.one readCounters)
  let countries ← query (distributionQuery status now) (.all readCountry)
  return { counters with nodesDistribution := Json.sortMembers countries }

/-- The inventory of the database, where `pick` draws the first row of random pages. -/
def inventory (pick : UInt64 → UInt64) : Inventory Session where
  nodes := listNodes pick
  node := findNode
  farms := listFarms pick
  farm := findFarm
  twins := listTwins pick
  contracts := listContracts pick
  counters := countGrid
  fetchTargets := fun offset count => query (fetchTargets offset count) (.all readTarget)
  telemetry := fun nodeId => query (telemetryOf nodeId) (.optional readRecord)
  recordSuccess := fun nodeId report time => query (recordSuccess nodeId report time) .nothing
  recordFailure := fun nodeId reason time => query (recordFailure nodeId reason time) .nothing

/-- Runs the setup script on its own. -/
def setUp : Talk Unit := ExceptT.mk do
  let r ← runSetup
  return r.mapError InventoryError.database

end GridGateway.Sql
