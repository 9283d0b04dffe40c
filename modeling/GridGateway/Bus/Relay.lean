import GridGateway.Bus.Call
import GridGateway.Bus.Envelope
import GridGateway.Http.BaseUrl
import GridGateway.Http.Link
import GridGateway.Text.Base64
import GridGateway.Text.Percent

/-!
# The relay

A relay passes messages between twins over HTTP. A call submits an envelope, which is answered with the name of a
queue, and then asks for the contents of the queue at regular intervals until the reply is there or the time is
up.
-/

namespace GridGateway.Bus

open Http Json

/-- A relay and how it is used. Spans of time are in milliseconds. -/
structure Relay where
  base : BaseUrl
  /-- The twin that the gateway speaks as. -/
  source : UInt32
  /-- How long a reply is waited for. -/
  expiration : Nat
  /-- How long to wait between two looks at the queue. -/
  interval : Nat := 250
  interval_pos : 0 < interval := by decide

/-- The payload of an envelope as text. -/
def encodePayload (v : Json) : String :=
  String.ofList (Text.Base64.encode (Text.utf8Bytes v.canonical.chars))

/-- The payload that the text of an envelope stands for; the empty text stands for nothing. -/
def decodePayload (command dat : String) : Except BusError Json :=
  match Text.Base64.decode? dat.toList with
  | none => .error (.decode command "the payload is not base64")
  | some [] => .ok .null
  | some bytes =>
    match (Text.ofUtf8Bytes? bytes).bind Json.parse? with
    | some v => .ok v
    | none => .error (.decode command "the payload is not JSON")

/-- What a reply to a command says. -/
def Envelope.value (command : String) (twinId : UInt32) (e : Envelope) : Except BusError Json :=
  if e.err.isEmpty then decodePayload command e.dat else .error (.remote twinId e.err)

namespace Relay

/-- The envelope of a command, with an identifier of its own and the time in seconds. -/
def envelope (r : Relay) (uid : String) (now : UInt64) (twinId : UInt32) (command : String)
    (payload : Json) : Envelope where
  ver := 1
  uid := uid
  cmd := command
  exp := .ofNat (r.expiration / 1000)
  retry := 1
  dat := encodePayload payload
  src := r.source
  dst := [twinId]
  now := now

/-- The path of a twin. -/
def twinPath (twinId : UInt32) : String := "/twin/" ++ Text.decimal twinId.toNat

/-- The document that a successful response carries. -/
def document {α : Type} (dec : Decoder α) (exchange : Exchange) : Except BusError α :=
  match exchange.response with
  | none => .error .transport
  | some response =>
    if response.isSuccess then (dec.ofText response.body.content).mapError fun _ => .transport
    else .error (.http response.status response.body.content)

/-- The name of the queue in the answer to a submitted envelope. -/
def queueName : Decoder String := (Record.pure id |>.required "retqueue" .string).decoder "MessageIdentifier"

/-- The request that submits an envelope. -/
def submission (r : Relay) (twinId : UInt32) (e : Envelope) : Request :=
  { method := "POST", target := r.base.target (twinPath twinId) "", body := some e.toJson }

/-- The request for the contents of a queue. -/
def inquiry (r : Relay) (twinId : UInt32) (queue : String) : Request :=
  { target := r.base.target (twinPath twinId ++ "/" ++ queue) "" }

/-- What a look at a queue leads to: the outcome of the call, unless the queue is still empty. -/
def look (command : String) (twinId : UInt32) (exchange : Exchange) : Option (Except BusError Json) :=
  match document (.list Envelope.decoder) exchange with
  | .error e => some (.error e)
  | .ok [] => none
  | .ok (e :: _) => some (e.value command twinId)

/-- Looks at a queue again and again from the time `time` on. A look that would come after the time is up is not
taken any more. -/
def await {τ : Type} (r : Relay) (link : Link τ) (twinId : UInt32) (command queue : String) (time : Nat) :
    StateM τ Outcome := do
  let exchange ← link.send (r.inquiry twinId queue)
  let seen := time + exchange.latency
  match look command twinId exchange with
  | some result => return ⟨seen, result⟩
  | none =>
    if r.expiration < seen + r.interval then
      return ⟨seen, .error (.timeout (millis r.expiration))⟩
    else r.await link twinId command queue (seen + r.interval)
termination_by r.expiration + 1 - time
decreasing_by have := r.interval_pos; omega

/-- A call over the relay. -/
def call {τ : Type} (r : Relay) (link : Link τ) (uid : String) (now : UInt64) (twinId : UInt32)
    (command : String) (payload : Json) : StateM τ Outcome := do
  if r.base.isUsable then
    let exchange ← link.send (r.submission twinId (r.envelope uid now twinId command payload))
    match document queueName exchange with
    | .error e => return ⟨exchange.latency, .error e⟩
    | .ok queue => r.await link twinId command queue exchange.latency
  else return ⟨0, .error .transport⟩

/-- The bus over a relay. -/
def bus {τ : Type} (r : Relay) (link : Link τ) (uid : String) (now : UInt64) : Bus τ :=
  ⟨fun twinId command => r.call link uid now twinId command .null⟩

end Relay

end GridGateway.Bus
