import GridGateway.Http.Message

/-!
# Links

A link carries requests to a server and brings back its responses. It takes some time for each, and a request may
get lost.
-/

namespace GridGateway.Http

/-- What sending a request comes to. -/
structure Exchange where
  /-- Milliseconds that it took. -/
  latency : Nat := 0
  /-- The response, unless the request or the response got lost. -/
  response : Option Response

/-- A link with the state `τ`. -/
structure Link (τ : Type) where
  send : Request → StateM τ Exchange

/-- The link to a server that cannot be reached. -/
def Link.unreachable {τ : Type} : Link τ := ⟨fun _ => return { response := none }⟩

/-- A server that gives its responses in turn and keeps the requests that have reached it. -/
structure Peer where
  /-- What the coming requests lead to; when nothing is left they get lost. -/
  replies : List (Option Response) := []
  /-- The requests that have come, the last one first. -/
  received : List Request := []

/-- The link to a server that gives its responses in turn. -/
def Link.toPeer : Link Peer := ⟨fun r peer =>
  match peer.replies with
  | [] => ({ response := none }, { peer with received := r :: peer.received })
  | reply :: rest => ({ response := reply }, ⟨rest, r :: peer.received⟩)⟩

end GridGateway.Http
