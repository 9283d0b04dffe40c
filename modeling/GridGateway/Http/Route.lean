import GridGateway.Query.Text

/-!
# Routes

The paths that the gateway serves. The same set of paths is served twice: once with nodes in the flat form, and
once below `/api/v2` with nodes whose capacity is nested.
-/

namespace GridGateway.Http

/-- The form in which nodes are served. -/
inductive Shape where
  | flat
  | nested
  deriving DecidableEq, Repr

/-- What a path stands for. The part of a path that names a node is kept as it is written. -/
inductive Endpoint where
  | index
  | ping
  | version
  | farms
  | twins
  | contracts
  | stats
  | nodes
  | gateways
  | node (segment : String)
  | nodeStatus (segment : String)
  deriving DecidableEq, Repr

/-- A path that is served. -/
structure Route where
  shape : Shape
  endpoint : Endpoint
  deriving DecidableEq, Repr

/-- The segments under which the second set of paths is served. -/
def nestedPrefix : List String := ["api", "v2"]

/-- The path under which the second set of paths is served. -/
def nestedPath : String := String.join (nestedPrefix.map ("/" ++ ·))

/-- What the segments of a path stand for. The last segment is never empty. -/
def Endpoint.ofSegments? : List String → Option Endpoint
  | ["ping"] => some .ping
  | ["version"] => some .version
  | ["farms"] => some .farms
  | ["twins"] => some .twins
  | ["contracts"] => some .contracts
  | ["stats"] => some .stats
  | ["nodes"] => some .nodes
  | ["gateways"] => some .gateways
  | ["nodes", s] => if s.isEmpty then none else some (.node s)
  | ["gateways", s] => if s.isEmpty then none else some (.node s)
  | ["nodes", s, "status"] => some (.nodeStatus s)
  | ["gateways", s, "status"] => some (.nodeStatus s)
  | _ => none

/-- The segments of a path, which begins with a slash. -/
def segments (path : String) : List String :=
  ((Query.splitAll '/' path.toList).drop 1).map String.ofList

/-- The route of a path. -/
def Route.ofPath? (path : String) : Option Route :=
  match segments path with
  | [""] => some ⟨.flat, .index⟩
  | ["api", "v2"] => some ⟨.nested, .index⟩
  | "api" :: "v2" :: rest => (Endpoint.ofSegments? rest).map (⟨.nested, ·⟩)
  | segs => (Endpoint.ofSegments? segs).map (⟨.flat, ·⟩)

end GridGateway.Http
