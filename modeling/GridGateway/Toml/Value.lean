import GridGateway.Json.Basic

/-!
# Values of a TOML document
-/

namespace GridGateway.Toml

/-- A value. -/
inductive Value where
  | string (s : String)
  | integer (n : Int)
  | float (x : Float)
  | boolean (b : Bool)
  /-- A date, a time or both, as it is written. -/
  | moment (text : String)
  | array (items : List Value)
  | table (entries : List (String × Value))
  deriving Inhabited

namespace Value

mutual
/-- A value as a JSON document; a moment becomes an object, so that it is taken for nothing else. -/
def toJson : Value → Json
  | string s => .str s
  | integer n => .int n
  | float x => .float x
  | boolean b => .bool b
  | moment text => .obj [("moment", .str text)]
  | array items => .arr (itemsToJson items)
  | table entries => .obj (entriesToJson entries)

/-- `toJson` on every item of a list. -/
def itemsToJson : List Value → List Json
  | [] => []
  | v :: vs => toJson v :: itemsToJson vs

/-- `toJson` on the value of every entry. -/
def entriesToJson : List (String × Value) → List (String × Json)
  | [] => []
  | (k, v) :: es => (k, toJson v) :: entriesToJson es
end

end Value

end GridGateway.Toml
