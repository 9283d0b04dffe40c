import GridGateway.Json.DecodeError

/-!
# Failed calls of a client

The reasons for which a call to a grid proxy fails, and which of them are worth another try.
-/

namespace GridGateway.Client

/-- Why a call failed. -/
inductive ClientError where
  /-- The request or its response got lost. -/
  | transport
  /-- No request can be sent to the base URL. -/
  | unusableUrl
  /-- The server answered with a status that is no success. -/
  | status (code : Nat) (message : String)
  /-- The body of the response is no document at all. -/
  | malformed
  /-- The body of the response is not what was asked for. -/
  | decode (reason : String)
  deriving DecidableEq, Repr

namespace ClientError

/-- The text of a failure. -/
def message : ClientError → String
  | transport => "request failed"
  | unusableUrl => "request failed: the base URL cannot be used"
  | status code message => "grid proxy answered " ++ Text.decimal code ++ ": " ++ message
  | malformed => "couldn't decode response"
  | decode reason => "couldn't decode response: " ++ reason

/-- Whether another try may succeed: the network or the server is to blame. -/
def isRetryable : ClientError → Bool
  | transport => true
  | unusableUrl => false
  | status code _ => 500 ≤ code
  | malformed => false
  | decode _ => false

/-- The failure that a refused document is. -/
def ofDecode (e : Json.DecodeError) : ClientError := if e.isMalformed then malformed else decode e.message

end ClientError

end GridGateway.Client
