/-!
# JSON values

The values that documents are built from. Whole numbers are kept apart from other numbers, so that no digit of a
64-bit number is lost; members of an object are a list in the order in which they are written.
-/

namespace GridGateway

/-- A JSON value. -/
inductive Json where
  | null
  | bool (b : Bool)
  /-- A whole number. -/
  | int (n : Int)
  /-- Any other number, or a whole one that does not fit 64 bits. -/
  | float (x : Float)
  | str (s : String)
  | arr (items : List Json)
  | obj (members : List (String × Json))
  deriving Inhabited

namespace Json

/-- A natural number as a value. -/
def nat (n : Nat) : Json := .int n

/-- A 64-bit number as a value. -/
def uint64 (n : UInt64) : Json := .int n.toNat

/-- A 32-bit number as a value. -/
def uint32 (n : UInt32) : Json := .int n.toNat

/-- An optional value, where nothing is written as `null`. -/
def option {α : Type} (write : α → Json) : Option α → Json
  | none => .null
  | some a => write a

/-- A list of values. -/
def list {α : Type} (write : α → Json) (xs : List α) : Json := .arr (xs.map write)

/-- Adds a member to a list of members in ascending order of their names, in place of one of the same name. -/
def putMember {α : Type} (name : String) (value : α) : List (String × α) → List (String × α)
  | [] => [(name, value)]
  | m :: ms =>
    if name < m.1 then (name, value) :: m :: ms
    else if name = m.1 then (name, value) :: ms
    else m :: putMember name value ms

/-- The members in ascending order of their names; of several with one name the last counts. -/
def sortMembers {α : Type} (ms : List (String × α)) : List (String × α) :=
  ms.foldl (fun sorted m => putMember m.1 m.2 sorted) []

mutual
/-- The value with the members of every object sorted by name and without repetitions. -/
def canonical : Json → Json
  | .arr items => .arr (canonicalItems items)
  | .obj members => .obj (sortMembers (canonicalMembers members))
  | v => v

/-- `canonical` on every item of a list. -/
def canonicalItems : List Json → List Json
  | [] => []
  | v :: vs => canonical v :: canonicalItems vs

/-- `canonical` on the value of every member. -/
def canonicalMembers : List (String × Json) → List (String × Json)
  | [] => []
  | (k, v) :: ms => (k, canonical v) :: canonicalMembers ms
end

/-- The value of the member with a name. -/
def member? (name : String) : Json → Option Json
  | .obj members => (members.find? (·.1 = name)).map (·.2)
  | _ => none

end Json

end GridGateway
