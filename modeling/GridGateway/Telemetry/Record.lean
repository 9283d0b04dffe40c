import GridGateway.Bus.Report
import GridGateway.Entity.Status

/-!
# Telemetry records

What the gateway remembers about the fetches from a node: the last report, and the bookkeeping of attempts. A
successful fetch replaces the report and clears the failures; a failed one counts, keeps the report and notes the
reason.
-/

namespace GridGateway.Telemetry

open GridGateway.Bus

/-- The record of a node. -/
structure Record where
  report : Report := {}
  status : Status := .down
  /-- Failures since the last success. -/
  retries : UInt32 := 0
  lastError : Option String := none
  lastFetchAttempt : Option UInt64 := none
  lastFetchSuccess : Option UInt64 := none
  deriving DecidableEq, Repr, Inhabited

/-- The record after a successful fetch at a time. -/
def Record.succeed (report : Report) (time : UInt64) : Record where
  report := report
  status := .up
  retries := 0
  lastError := none
  lastFetchAttempt := some time
  lastFetchSuccess := some time

/-- The record after a failed fetch at a time. -/
def Record.fail (r : Record) (reason : String) (time : UInt64) : Record :=
  { r with
    status := .down
    retries := r.retries + 1
    lastError := some reason
    lastFetchAttempt := some time }

/-- The records of all nodes that have one, in ascending order of the node numbers. -/
abbrev Records := List (UInt32 × Record)

namespace Records

/-- The record of a node. -/
def get? (rs : Records) (nodeId : UInt32) : Option Record := (rs.find? (·.1 = nodeId)).map (·.2)

/-- The records with the one of a node replaced or added. -/
def put (nodeId : UInt32) (record : Record) : Records → Records
  | [] => [(nodeId, record)]
  | r :: rs =>
    if nodeId < r.1 then (nodeId, record) :: r :: rs
    else if nodeId = r.1 then (nodeId, record) :: rs
    else r :: put nodeId record rs

/-- The records after a successful fetch from a node. -/
def succeed (rs : Records) (nodeId : UInt32) (report : Report) (time : UInt64) : Records :=
  rs.put nodeId (.succeed report time)

/-- The records after a failed fetch from a node. -/
def fail (rs : Records) (nodeId : UInt32) (reason : String) (time : UInt64) : Records :=
  rs.put nodeId (((rs.get? nodeId).getD {}).fail reason time)

end Records

end GridGateway.Telemetry
