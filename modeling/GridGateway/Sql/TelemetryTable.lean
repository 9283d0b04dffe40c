import GridGateway.Sql.Listing
import GridGateway.Telemetry.Schedule

/-!
# Statements about telemetry

The statements that read and write the table of telemetry records. Writing inserts a row, or updates the columns
of the row that is already there.
-/

namespace GridGateway.Sql

open GridGateway.Bus

/-- The name of the table. -/
def telemetryTable : String := "node_telemetry"

/-- What a column of a new row gets. -/
inductive ColumnValue where
  /-- A value sent with the statement. -/
  | bound (p : Param)
  /-- A fixed expression. -/
  | fixed (sql : String)

/-- The piece that stands for a column's value. -/
def ColumnValue.piece : ColumnValue → Piece
  | bound p => .bind p
  | fixed s => .sql s

/-- Pieces with commas between them. -/
def commaSeparated : List Piece → Fragment
  | [] => []
  | [p] => [p]
  | p :: ps => p :: .sql ", " :: commaSeparated ps

/-- An assignment in an update: a column and the expression it gets. -/
def assignment (a : String × String) : String := a.1 ++ " = " ++ a.2

/-- A statement that inserts a row, or makes the assignments when there is one with the same key already. -/
def upsert (table key : String) (row : List (String × ColumnValue)) (updates : List (String × String)) :
    Fragment :=
  [.sql ("INSERT INTO " ++ table ++ " (" ++ ", ".intercalate (row.map (·.1)) ++ ") VALUES (")] ++
    commaSeparated (row.map (·.2.piece)) ++
    [.sql (") ON CONFLICT (" ++ key ++ ") DO UPDATE SET " ++ ", ".intercalate (updates.map assignment))]

/-- The assignment of a column from the row that was to be inserted. -/
def fromInserted (column : String) : String × String := (column, "EXCLUDED." ++ column)

/-- A node number as a 64-bit integer. -/
def nodeNumber (nodeId : UInt32) : Param := .bigint nodeId.toNat

/-- The row written after a successful fetch. -/
def successRow (nodeId : UInt32) (r : Report) (time : UInt64) : List (String × ColumnValue) :=
  [("node_id", .bound (nodeNumber nodeId)),
   ("total_cru", .bound (bigintParam r.total.cru)), ("total_sru", .bound (bigintParam r.total.sru)),
   ("total_hru", .bound (bigintParam r.total.hru)), ("total_mru", .bound (bigintParam r.total.mru)),
   ("used_cru", .bound (bigintParam r.used.cru)), ("used_sru", .bound (bigintParam r.used.sru)),
   ("used_hru", .bound (bigintParam r.used.hru)), ("used_mru", .bound (bigintParam r.used.mru)),
   ("used_ipv4u", .bound (bigintParam r.usedIpv4u)), ("status", .bound (.text (some Status.up.name))),
   ("hypervisor", .bound (.text (some r.hypervisor))), ("zos_version", .bound (.text (some r.zosVersion))),
   ("retries", .bound (.integer 0)), ("last_error", .bound (.text none)),
   ("last_fetch_attempt", .bound (bigintParam time)), ("last_fetch_success", .bound (bigintParam time))]

/-- What a successful fetch assigns in a row that is there already. -/
def successUpdates : List (String × String) :=
  [fromInserted "total_cru", fromInserted "total_sru", fromInserted "total_hru", fromInserted "total_mru",
   fromInserted "used_cru", fromInserted "used_sru", fromInserted "used_hru", fromInserted "used_mru",
   fromInserted "used_ipv4u", fromInserted "status", fromInserted "hypervisor", fromInserted "zos_version",
   ("retries", "0"), ("last_error", "NULL"), fromInserted "last_fetch_attempt",
   fromInserted "last_fetch_success"]

/-- The statement that records a successful fetch. -/
def recordSuccess (nodeId : UInt32) (report : Report) (time : UInt64) : Fragment :=
  upsert telemetryTable "node_id" (successRow nodeId report time) successUpdates

/-- The row written after a failed fetch. -/
def failureRow (nodeId : UInt32) (reason : String) (time : UInt64) : List (String × ColumnValue) :=
  [("node_id", .bound (nodeNumber nodeId)), ("status", .bound (.text (some Status.down.name))),
   ("retries", .fixed "1"), ("last_error", .bound (.text (some reason))),
   ("last_fetch_attempt", .bound (bigintParam time))]

/-- What a failed fetch assigns in a row that is there already. -/
def failureUpdates : List (String × String) :=
  [fromInserted "status", ("retries", telemetryTable ++ ".retries + 1"), fromInserted "last_error",
   fromInserted "last_fetch_attempt"]

/-- The statement that records a failed fetch. -/
def recordFailure (nodeId : UInt32) (reason : String) (time : UInt64) : Fragment :=
  upsert telemetryTable "node_id" (failureRow nodeId reason time) failureUpdates

/-- The statement that reads a page of the nodes with their bookkeeping. -/
def fetchTargets (offset count : UInt64) : Fragment :=
  [.sql ("SELECT node.node_id::bigint AS node_id, COALESCE(node.twin_id, 0)::bigint AS twin_id, " ++
    "COALESCE(node_telemetry.retries, 0)::bigint AS retries, " ++
    "node_telemetry.last_fetch_attempt AS last_fetch_attempt " ++
    "FROM node LEFT JOIN node_telemetry ON node_telemetry.node_id = node.node_id ORDER BY node.node_id")] ++
    window count offset

/-- The columns of a telemetry record. -/
def telemetryColumns : List String :=
  ["total_cru", "total_sru", "total_hru", "total_mru", "used_cru", "used_sru", "used_hru", "used_mru",
   "used_ipv4u", "status", "hypervisor", "zos_version", "retries", "last_error", "last_fetch_attempt",
   "last_fetch_success"]

/-- The statement that reads the record of a node. -/
def telemetryOf (nodeId : UInt32) : Fragment :=
  [.sql ("SELECT " ++ ", ".intercalate telemetryColumns ++ " FROM node_telemetry WHERE node_id = "),
    .bind (nodeNumber nodeId)]

end GridGateway.Sql
