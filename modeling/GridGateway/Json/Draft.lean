import GridGateway.Json.Basic

/-!
# Drafts

Reading a document for a purpose does not need all of it to be sound: a reader that looks for some members meets
them one after the other, and a fault behind the first thing it refuses never matters. A draft is a document read
as far as its text goes, with the faults left in the places where they stand. Some faults only matter to a reader
who looks at the place (a number beyond the range of doubles, a string with half of a surrogate pair); where the
text breaks off the draft ends in `broken`.
-/

namespace GridGateway.Json

/-- A document read as far as its text goes. -/
inductive Draft where
  | null
  | bool (b : Bool)
  | int (n : Int)
  | float (x : Float)
  /-- A number beyond the range of doubles. -/
  | outOfRange
  | str (s : String)
  /-- A string with an escape that is half of a surrogate pair. -/
  | loneSurrogate
  | arr (items : List Draft)
  /-- An object; a name that is no string is followed by `broken`. -/
  | obj (members : List (Draft × Draft))
  /-- The text ends here or goes on with something that no value starts with. -/
  | broken
  deriving Inhabited

namespace Draft

mutual
/-- A sound document as a draft. -/
def ofJson : Json → Draft
  | .null => .null
  | .bool b => .bool b
  | .int n => .int n
  | .float x => .float x
  | .str s => .str s
  | .arr items => .arr (ofItems items)
  | .obj members => .obj (ofMembers members)

/-- The items of a sound document as drafts. -/
def ofItems : List Json → List Draft
  | [] => []
  | v :: vs => ofJson v :: ofItems vs

/-- The members of a sound document as drafts. -/
def ofMembers : List (String × Json) → List (Draft × Draft)
  | [] => []
  | (k, v) :: ms => (.str k, ofJson v) :: ofMembers ms
end

mutual
/-- Whether the text of the draft does not break off anywhere: what a reader needs of a part that it skips. -/
def skippable : Draft → Bool
  | .arr items => skippableItems items
  | .obj members => skippableMembers members
  | .broken => false
  | _ => true

/-- `skippable` for all items. -/
def skippableItems : List Draft → Bool
  | [] => true
  | d :: ds => skippable d && skippableItems ds

/-- `skippable` for all names and values. -/
def skippableMembers : List (Draft × Draft) → Bool
  | [] => true
  | (k, d) :: ms => skippable k && skippable d && skippableMembers ms
end

mutual
/-- Whether the draft is sound throughout and its containers are nested less than `depth` deep. -/
def sound (depth : Nat) : Draft → Bool
  | .arr items => 1 < depth && soundItems (depth - 1) items
  | .obj members => 1 < depth && soundMembers (depth - 1) members
  | .broken => false
  | .outOfRange => false
  | .loneSurrogate => false
  | _ => true

/-- `sound` for all items. -/
def soundItems (depth : Nat) : List Draft → Bool
  | [] => true
  | d :: ds => sound depth d && soundItems depth ds

/-- `sound` for all values, with names that are strings. -/
def soundMembers (depth : Nat) : List (Draft × Draft) → Bool
  | [] => true
  | (.str _, d) :: ms => sound depth d && soundMembers depth ms
  | _ :: _ => false
end

mutual
/-- The document of a sound draft, in canonical form. -/
def toJson : Draft → Json
  | .null => .null
  | .bool b => .bool b
  | .int n => .int n
  | .float x => .float x
  | .str s => .str s
  | .arr items => .arr (toItems items)
  | .obj members => .obj (sortMembers (toMembers members))
  | .outOfRange => .null
  | .loneSurrogate => .null
  | .broken => .null

/-- The items of a sound draft. -/
def toItems : List Draft → List Json
  | [] => []
  | d :: ds => toJson d :: toItems ds

/-- The members of a sound draft, in the order of the text. -/
def toMembers : List (Draft × Draft) → List (String × Json)
  | [] => []
  | (.str k, d) :: ms => (k, toJson d) :: toMembers ms
  | _ :: ms => toMembers ms
end

end Draft

end GridGateway.Json
