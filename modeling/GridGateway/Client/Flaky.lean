import GridGateway.Client.Call

/-!
# Flaky clients

A client whose calls fail as it is told and then succeed with plain answers, for the behaviour of whoever makes
calls that may fail.
-/

namespace GridGateway.Client

open Query

/-- An empty page; its number of matches is the size of the page that was asked for. -/
def emptyPage {α : Type} (limit : Limit) : List α × UInt64 := ([], limit.size)

/-- The detail of a node of which nothing but the number is known. -/
def bareDetail (nodeId : UInt32) : NodeDetail Node := ⟨{ nodeId := nodeId }, "", ""⟩

/-- The plain answer to a call. -/
def plainAnswer : {α : Type} → Call α → α
  | _, .ping => ()
  | _, .version => ⟨"1.0"⟩
  | _, .nodes _ l => emptyPage l
  | _, .gateways _ l => emptyPage l
  | _, .node id => bareDetail id
  | _, .gateway id => bareDetail id
  | _, .nodeStatus _ => ⟨.up⟩
  | _, .farms _ l => emptyPage l
  | _, .twins _ l => emptyPage l
  | _, .contracts _ l => emptyPage l
  | _, .counters _ => {}

/-- The client whose calls fail with each of a list of errors in turn, and succeed afterwards. No call takes any
time. -/
def flaky : Client (List ClientError) where
  perform := fun c errors =>
    match errors with
    | e :: rest => ((0, .error e), rest)
    | [] => ((0, .ok (plainAnswer c)), [])

end GridGateway.Client
