/-!
# Liveness of a node

A node reports about once an hour. It counts as up while its last report is at most three nominal intervals old,
the boundary included; a report from the future is up as well.
-/

namespace GridGateway

/-- Liveness of a node. -/
inductive Status where
  | up
  | down
  deriving DecidableEq, Repr, Inhabited

/-- Difference of two words, zero where it would be negative. -/
def satSub (a b : UInt64) : UInt64 := if b ≤ a then a - b else 0

/-- Nominal time between two reports of a node, in seconds. -/
def reportInterval : UInt64 := 3600

/-- Number of intervals after which a silent node counts as down. -/
def toleratedIntervals : UInt64 := 3

/-- The oldest time of a last report that still counts as up at the time `now`. -/
def upThreshold (now : UInt64) : UInt64 := satSub now (toleratedIntervals * reportInterval)

namespace Status

/-- Liveness at the time `now` of a node that last reported at `updatedAt`. -/
def atTime (updatedAt now : UInt64) : Status := if upThreshold now ≤ updatedAt then up else down

/-- The word for a status. -/
def name : Status → String
  | up => "up"
  | down => "down"

/-- The status a word stands for. -/
def ofName? (s : String) : Option Status :=
  if s = "up" then some up else if s = "down" then some down else none

end Status

end GridGateway
