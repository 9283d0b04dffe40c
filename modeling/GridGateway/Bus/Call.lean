import GridGateway.Bus.Error
import GridGateway.Bus.Report

/-!
# Calls to a node

A call on the message bus takes some time and then brings a value or an error. The gateway asks a node three
questions; each is a command without payload, and its reply has a type of its own.
-/

namespace GridGateway

open Json

/-- What a call comes to. -/
structure Bus.Outcome where
  /-- Milliseconds until the call is over. -/
  delay : Nat
  result : Except BusError Json

/-- A message bus with the state `β`: how it answers a command to a twin. -/
structure Bus (β : Type) where
  call : UInt32 → String → StateM β Bus.Outcome

namespace Bus

/-- The questions to a node. -/
inductive Question where
  | statistics
  | hypervisor
  | version
  deriving DecidableEq, Repr

namespace Question

/-- The command that asks a question. -/
def command : Question → String
  | statistics => "zos.statistics.get"
  | hypervisor => "zos.system.hypervisor"
  | version => "zos.system.version"

/-- The type of the reply to a question. -/
abbrev Reply : Question → Type
  | statistics => NodeStatistics
  | hypervisor => String
  | version => ZosVersion

/-- Reads the reply to a question. -/
def decoder : (q : Question) → Decoder q.Reply
  | statistics => NodeStatistics.decoder
  | hypervisor => Decoder.string
  | version => ZosVersion.decoder

/-- The reply that a value stands for. -/
def read (q : Question) (v : Json) : Except BusError q.Reply :=
  (q.decoder.ofJson v).mapError fun e => .decode q.command e.message

end Question

/-- Asks a node one question, however long it takes. Brings the delay and the reply. -/
def ask {β : Type} (bus : Bus β) (twinId : UInt32) (q : Question) :
    StateM β (Nat × Except BusError q.Reply) := do
  let outcome ← bus.call twinId q.command
  return (outcome.delay, outcome.result.bind q.read)

end Bus

end GridGateway
