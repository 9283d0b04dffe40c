import GridGateway.Client.Call
import GridGateway.Http.BaseUrl
import GridGateway.Http.Link
import GridGateway.Text.Blank

/-!
# Calls over HTTP

The client that talks to a grid proxy over a link. Every call is one `GET` request, which is given up after a while.
The number of matches of a listing is read from the header `count`; without a sound header it is zero.
-/

namespace GridGateway.Client

open Http Json Query

/-- Milliseconds after which a client gives up a request, unless it is told otherwise. -/
def requestTimeout : Nat := 10000

/-- A page and the number of matches. -/
def pageOf {α : Type} (dec : Decoder α) (count : UInt64) : Decoder (List α × UInt64) :=
  (Decoder.list dec).map fun items => (items, count)

/-- The document that answers to `ping`. -/
def pong : Decoder String := (Record.pure id |>.required "ping" .string).decoder "Pong"

/-- Reads a document, given the text of a body. -/
def readBody {α : Type} (dec : Decoder α) (body : String) : Except ClientError α :=
  (dec.ofText body).mapError ClientError.ofDecode

/-- The answer in the body of a successful response, given the number of matches. -/
def Call.read (count : UInt64) (body : String) : {α : Type} → Call α → Except ClientError α
  | _, .ping => do
    let reply ← readBody pong body
    if reply = "pong" then return () else throw (.decode ("unexpected ping reply " ++ Text.quoted reply))
  | _, .version => readBody Version.decoder body
  | _, .nodes _ _ => readBody (pageOf Node.decoder count) body
  | _, .gateways _ _ => readBody (pageOf Node.decoder count) body
  | _, .node _ => readBody (NodeDetail.decoder Node.record) body
  | _, .gateway _ => readBody (NodeDetail.decoder Node.record) body
  | _, .nodeStatus _ => readBody NodeStatus.decoder body
  | _, .farms _ _ => readBody (pageOf Farm.decoder count) body
  | _, .twins _ _ => readBody (pageOf Twin.decoder count) body
  | _, .contracts _ _ => readBody (pageOf Contract.decoder count) body
  | _, .counters _ => readBody Counters.decoder body

/-- The message in the body of a response that is no success: the one of an error document, or the body itself
without the blanks around it. -/
def errorMessage (body : String) : String :=
  let document : Decoder String := (Record.pure id |>.required "error" .string).decoder "ErrorBody"
  match document.ofText body with
  | .ok message => message
  | .error _ => Text.trim body

/-- The number of matches that a response tells. -/
def Response.matches (r : Response) : UInt64 := ((r.header? "count").bind Text.uint64?).getD 0

/-- What a response says to a call. -/
def Call.answer {α : Type} (c : Call α) (r : Response) : Except ClientError α :=
  let body := r.body.content
  if r.isSuccess then c.read (Response.matches r) body else .error (.status r.status (errorMessage body))

/-- The request of a call to the server at a base URL. -/
def Call.request {α : Type} (base : BaseUrl) (c : Call α) : Request := { target := base.target c.path c.query }

/-- The client of the server at a base URL, which gives up a request that takes longer than `timeout` milliseconds. -/
def remote {τ : Type} (base : BaseUrl) (link : Link τ) (timeout : Nat := requestTimeout) : Client τ where
  perform := fun c => do
    if base.isUsable then
      let exchange ← link.send (c.request base)
      if timeout < exchange.latency then return (timeout, .error .transport)
      else match exchange.response with
        | some r => return (exchange.latency, c.answer r)
        | none => return (exchange.latency, .error .transport)
    else return (0, .error .unusableUrl)

end GridGateway.Client
