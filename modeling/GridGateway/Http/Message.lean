import GridGateway.Json.Printer
import GridGateway.Query.Text

/-!
# Requests and responses

The messages of the HTTP interface, as far as they matter to the gateway and its clients.
-/

namespace GridGateway.Http

/-- What a request is about: a path and, after a question mark, a query. -/
structure Target where
  path : String
  query : String := ""
  deriving DecidableEq, Repr

namespace Target

/-- The target that a text names; a part after a hash sign does not belong to it, and the empty path is the
root. -/
def ofText (s : String) : Target :=
  let (path, query) := Query.splitFirst '?' (s.toList.takeWhile (· ≠ '#'))
  ⟨if path.isEmpty then "/" else String.ofList path, String.ofList query⟩

/-- The text of a target. -/
def text (t : Target) : String := if t.query.isEmpty then t.path else t.path ++ "?" ++ t.query

end Target

/-- A request. -/
structure Request where
  method : String := "GET"
  target : Target
  body : Option Json := none

/-- What a response carries. -/
inductive Body where
  | empty
  | text (s : String)
  | json (v : Json)

/-- The text that is sent for a body. -/
def Body.content : Body → String
  | empty => ""
  | text s => s
  | json v => v.text

/-- A response. -/
structure Response where
  status : Nat
  headers : List (String × String) := []
  body : Body := .empty

namespace Response

/-- The value of a header. -/
def header? (r : Response) (name : String) : Option String := (r.headers.find? (·.1 = name)).map (·.2)

/-- Whether a response reports success. -/
def isSuccess (r : Response) : Bool := 200 ≤ r.status && r.status < 300

/-- The response with a header added behind the others. -/
def withHeader (r : Response) (name value : String) : Response :=
  { r with headers := r.headers ++ [(name, value)] }

/-- A response that carries a document. -/
def json (status : Nat) (v : Json) : Response :=
  { status := status, headers := [("content-type", "application/json")], body := .json v }

/-- A response that carries plain text. -/
def plain (status : Nat) (s : String) : Response :=
  { status := status, headers := [("content-type", "text/plain; charset=utf-8")], body := .text s }

end Response

end GridGateway.Http
