import GridGateway.Http.Service

/-!
# The router

From a request to a response. Only `GET` and `HEAD` are served; a response to `HEAD` is the one to `GET` without
its body. Pages of any origin may use the service, and every response says so; `OPTIONS` is answered with the
permission alone.
-/

namespace GridGateway.Http

variable {σ β : Type}

/-- The methods that every route serves. -/
def allowedMethods : String := "GET,HEAD"

/-- The permission to read a response from pages of any origin. -/
def permission : List (String × String) :=
  [("access-control-allow-origin", "*"), ("access-control-expose-headers", "*")]

/-- The permission to send requests from pages of any origin. -/
def preflight : Response where
  status := 200
  headers := [("access-control-allow-origin", "*"), ("access-control-allow-methods", "*"),
    ("access-control-allow-headers", "*")]

/-- A response as pages of any origin may read it. -/
def Response.permitted (r : Response) : Response := { r with headers := r.headers ++ permission }

/-- The response to a `GET` on a route. -/
def Service.get (s : Service σ β) (now : UInt64) (route : Route) (query : String) :
    StateM (σ × β) Response := do
  match ← (s.respond now route query).run with
  | .ok r => return r
  | .error e => return e.response

/-- The response to a request at the time `now`. -/
def Service.serve (s : Service σ β) (now : UInt64) (r : Request) : StateM (σ × β) Response := do
  match Route.ofPath? r.target.path with
  | none =>
    if r.method = "OPTIONS" then return preflight
    else return { status := 404 : Response }.permitted
  | some route =>
    if r.method = "GET" then
      let response ← s.get now route r.target.query
      return response.permitted
    else if r.method = "HEAD" then
      let response ← s.get now route r.target.query
      return { response with body := .empty }.permitted
    else if r.method = "OPTIONS" then return preflight.withHeader "allow" allowedMethods
    else return { status := 405, headers := [("allow", allowedMethods)] : Response }.permitted

end GridGateway.Http
