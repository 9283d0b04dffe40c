import GridGateway.Bus.Error
import GridGateway.Http.Message
import GridGateway.Inventory

/-!
# Failed requests

What a request can fail with, and the response that reports it.
-/

namespace GridGateway.Http

/-- Why a request failed. -/
inductive Failure where
  /-- The request makes no sense. -/
  | badRequest (message : String)
  /-- The part of the path with this name is not UTF-8. -/
  | badPath (name : String)
  | notFound (message : String)
  /-- The node did not answer properly. -/
  | badGateway (message : String)
  | internal (message : String)
  deriving DecidableEq, Repr

namespace Failure

/-- The failure that a refused query is. -/
def ofQuery (e : Query.QueryError) : Failure := .badRequest e.message

/-- The failure that an error of the inventory is. -/
def ofInventory (e : InventoryError) : Failure :=
  match e with
  | .nodeNotFound => .notFound e.message
  | .farmNotFound => .notFound e.message
  | .invalidFilter reason => .ofQuery reason
  | e => .internal e.message

/-- The failure that an error of the bus is. -/
def ofBus (e : Bus.BusError) : Failure := .badGateway e.message

/-- An error message as a document. -/
def errorJson (message : String) : Json := .obj [("error", .str message)]

/-- The response to a failed request. -/
def response : Failure → Response
  | badRequest message => .json 400 (errorJson message)
  | badPath name => .plain 400 ("Invalid URL: Invalid UTF-8 in `" ++ name ++ "`")
  | notFound message => .json 404 (errorJson message)
  | badGateway message => .json 502 (errorJson message)
  | internal message => .json 500 (errorJson message)

end Failure

end GridGateway.Http
