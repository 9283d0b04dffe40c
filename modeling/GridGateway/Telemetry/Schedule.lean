import GridGateway.Telemetry.Record

/-!
# When a node is due

A node is asked again once some time has passed since the last attempt: a minute while it has failed at most three
times in a row, and twice as long for every further failure, up to 32 minutes.
-/

namespace GridGateway.Telemetry

/-- What the refresher knows of a node. -/
structure Target where
  nodeId : UInt32
  twinId : UInt32
  retries : UInt32
  lastFetchAttempt : Option UInt64
  deriving DecidableEq, Repr

/-- The target that a node with some record, or none, is. -/
def Target.ofRecord (nodeId twinId : UInt32) (record : Option Record) : Target where
  nodeId := nodeId
  twinId := twinId
  retries := (record.map (·.retries)).getD 0
  lastFetchAttempt := record.bind (·.lastFetchAttempt)

/-- Seconds to wait after so many failures in a row. -/
def backoffWait (retries : UInt32) : UInt64 := .ofNat (60 * Nat.pow 2 (min (retries.toNat - 3) 5))

/-- Whether a target is due at the time `now`. -/
def Target.isDue (t : Target) (now : UInt64) : Bool :=
  match t.lastFetchAttempt with
  | none => true
  | some last => backoffWait t.retries ≤ satSub now last

end GridGateway.Telemetry
