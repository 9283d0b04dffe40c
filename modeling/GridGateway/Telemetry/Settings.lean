import GridGateway.Json.Decoder

/-!
# Settings of the refresher
-/

namespace GridGateway.Telemetry

open Json

/-- How the refresher works. -/
structure Settings where
  /-- The number of workers; zero counts as one. -/
  workers : UInt64 := 30
  /-- Seconds between two rounds; zero counts as one. -/
  period : UInt64 := 60
  /-- The number of nodes read at once; zero counts as one. -/
  pageSize : UInt64 := 20
  /-- Seconds that a fetch may take. -/
  rpcTimeout : UInt64 := 30
  deriving DecidableEq, Repr, Inhabited

namespace Settings

/-- Milliseconds between two rounds. -/
def periodMs (s : Settings) : Nat := max s.period.toNat 1 * 1000

/-- Milliseconds that a fetch may take. -/
def timeoutMs (s : Settings) : Nat := s.rpcTimeout.toNat * 1000

/-- Settings as a document. -/
def toJson (s : Settings) : Json :=
  .obj [("workers", .uint64 s.workers), ("period_secs", .uint64 s.period), ("page_size", .uint64 s.pageSize),
    ("rpc_timeout_secs", .uint64 s.rpcTimeout)]

/-- Reads settings. -/
def decoder : Decoder Settings :=
  (Record.pure Settings.mk
    |>.optional "workers" .uint64 30 |>.optional "period_secs" .uint64 60
    |>.optional "page_size" .uint64 20 |>.optional "rpc_timeout_secs" .uint64 30).decoder "Settings"

end Settings

end GridGateway.Telemetry
