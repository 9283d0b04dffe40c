import GridGateway.Json.Decoder

/-!
# Envelopes

A message on the bus travels in an envelope, which names the command, the sender and the receivers and carries
the payload as base64 text.
-/

namespace GridGateway.Bus

open Json

/-- A message with its addresses. -/
structure Envelope where
  ver : UInt32 := 0
  uid : String := ""
  cmd : String := ""
  exp : UInt64 := 0
  retry : UInt32 := 0
  dat : String := ""
  src : UInt32 := 0
  dst : List UInt32 := []
  ret : String := ""
  shm : String := ""
  now : UInt64 := 0
  err : String := ""
  deriving DecidableEq, Repr, Inhabited

/-- An envelope as a document. -/
def Envelope.toJson (e : Envelope) : Json :=
  .obj [("ver", .uint32 e.ver), ("uid", .str e.uid), ("cmd", .str e.cmd), ("exp", .uint64 e.exp),
    ("try", .uint32 e.retry), ("dat", .str e.dat), ("src", .uint32 e.src), ("dst", .list .uint32 e.dst),
    ("ret", .str e.ret), ("shm", .str e.shm), ("now", .uint64 e.now), ("err", .str e.err)]

/-- Reads an envelope. -/
def Envelope.decoder : Decoder Envelope :=
  (Record.pure Envelope.mk
    |>.optional "ver" .uint32 0 |>.optional "uid" .string "" |>.optional "cmd" .string ""
    |>.optional "exp" .uint64 0 |>.optional "try" .uint32 0 |>.optional "dat" .string ""
    |>.optional "src" .uint32 0 |>.optional "dst" (.list .uint32) [] |>.optional "ret" .string ""
    |>.optional "shm" .string "" |>.optional "now" .uint64 0 |>.optional "err" .string ""
    ).decoder "Envelope"

end GridGateway.Bus
