import GridGateway.Text.Elapsed

/-!
# Failed calls

The reasons for which a call on the message bus brings no value, each with its text.
-/

namespace GridGateway.Bus

/-- Why a call failed. -/
inductive BusError where
  /-- The relay could not be talked to, or what it said is no document of the expected kind. -/
  | transport
  /-- The relay refused a request. -/
  | http (status : Nat) (body : String)
  /-- The twin answered with an error of its own. -/
  | remote (twinId : UInt32) (message : String)
  /-- There was no reply within so many nanoseconds. -/
  | timeout (span : Nat)
  /-- The reply to a command does not make sense. -/
  | decode (command reason : String)
  deriving DecidableEq, Repr

/-- The text of a failure. -/
def BusError.message : BusError → String
  | transport => "relay request failed"
  | http status body => "relay answered HTTP " ++ Text.decimal status ++ ": " ++ body
  | remote twinId message => "twin " ++ Text.decimal twinId.toNat ++ " replied with an error: " ++ message
  | timeout span => "no reply within " ++ Text.elapsed span
  | decode command reason => "malformed reply to " ++ command ++ ": " ++ reason

/-- A number of milliseconds in nanoseconds. -/
def millis (ms : Nat) : Nat := ms * 1000000

end GridGateway.Bus
