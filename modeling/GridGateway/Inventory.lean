import GridGateway.Entity.Contract
import GridGateway.Entity.Counters
import GridGateway.Entity.Farm
import GridGateway.Entity.Node
import GridGateway.Json.DecodeError
import GridGateway.Query.Filter
import GridGateway.Query.Limit
import GridGateway.Telemetry.Schedule

/-!
# Inventories

An inventory answers questions about the grid and keeps the telemetry records. Its answers may depend on a state
of its own and change it; a question that is refused may have changed it too. Listings answer with a page and with
the number of matches, which is zero unless it was asked for.
-/

namespace GridGateway

open Query

/-- Why a column of a row could not be read. -/
inductive ColumnFault where
  /-- There is no value where one must be. -/
  | null
  /-- A document does not fit its type. -/
  | document (reason : Json.DecodeError)

/-- Why the database did not answer. -/
inductive DatabaseError where
  /-- The database reported an error. -/
  | reported (message : String)
  /-- There was no row where one must be. -/
  | noRow
  /-- A column could not be read; the column is given by its name in quotes, or by its number. -/
  | column (label : String) (fault : ColumnFault)

/-- The text of a database error. -/
def DatabaseError.message : DatabaseError → String
  | reported message => "error returned from database: " ++ message
  | noRow => "no rows returned by a query that expected to return at least one row"
  | column label .null =>
    "error occurred while decoding column " ++ label ++ ": unexpected null; try decoding as an `Option`"
  | column label (.document reason) =>
    "error occurred while decoding column " ++ label ++ ": " ++ reason.message

/-- Why an inventory did not answer. -/
inductive InventoryError where
  | nodeNotFound
  | farmNotFound
  | invalidFilter (reason : QueryError)
  | database (reason : DatabaseError)
  /-- A row does not make sense as an entity. -/
  | decode (what reason : String)

/-- The text of an inventory error. -/
def InventoryError.message : InventoryError → String
  | nodeNotFound => "node not found"
  | farmNotFound => "farm not found"
  | invalidFilter reason => reason.message
  | database reason => "database error: " ++ reason.message
  | decode what reason => "malformed " ++ what ++ " in database row: " ++ reason

/-- A question to an inventory with the state `σ`, answered by a value of type `α`. -/
abbrev Ask (σ α : Type) : Type := ExceptT InventoryError (StateM σ) α

/-- An inventory with the state `σ`. Questions that involve the time take it as their first argument. -/
structure Inventory (σ : Type) where
  nodes : UInt64 → NodeFilter → Limit → Ask σ (List Node × UInt64)
  node : UInt64 → UInt32 → Ask σ Node
  farms : FarmFilter → Limit → Ask σ (List Farm × UInt64)
  farm : UInt32 → Ask σ Farm
  twins : TwinFilter → Limit → Ask σ (List Twin × UInt64)
  contracts : ContractFilter → Limit → Ask σ (List Contract × UInt64)
  counters : UInt64 → StatsFilter → Ask σ Counters
  /-- The nodes in ascending order, from an offset on and at most so many. -/
  fetchTargets : UInt64 → UInt64 → Ask σ (List Telemetry.Target)
  telemetry : UInt32 → Ask σ (Option Telemetry.Record)
  recordSuccess : UInt32 → Bus.Report → UInt64 → Ask σ Unit
  recordFailure : UInt32 → String → UInt64 → Ask σ Unit

/-- The number of matches as far as a limit asks for it. -/
def Query.Limit.shownCount (l : Limit) (total : UInt64) : UInt64 := if l.retCount then total else 0

end GridGateway
