import GridGateway.Json.DecodeError
import GridGateway.Json.Scanner

/-!
# Decoders

A decoder reads a value of some type out of a draft. It looks at the draft in the order of the text and stops at
the first thing that it refuses, so what it reports is the first fault it meets.

A record is decoded from an object, whose members may come in any order and among others, or from an array of the
fields in their order. Where the draft comes from decides a few borderline cases: a text may be nested only so
deep, and an array that is too long is malformed in a text and of the wrong length elsewhere.
-/

namespace GridGateway.Json

/-- Where a draft comes from. -/
inductive Source where
  /-- The text of a document. -/
  | text
  /-- A value that has been read before. -/
  | value
  /-- Members set aside while the object around them was read. -/
  | buffer
  deriving DecidableEq

/-- The circumstances of a decoder. -/
structure Context where
  source : Source := .text
  /-- How many more levels of containers the text may open, plus one. -/
  depth : Nat := depthLimit

/-- A reader of values of one type. -/
def Decoder (α : Type) : Type := Context → Draft → Except DecodeError α

/-- The circumstances inside a container. -/
def Context.enter (c : Context) : Except DecodeError Context :=
  match c.source with
  | .text => if 1 < c.depth then .ok { c with depth := c.depth - 1 } else .error .malformed
  | _ => .ok c

/-- What a draft is when a value was looked for and nothing of its kind was found. -/
def Draft.found? : Draft → Option Found
  | .null => some .null
  | .bool b => some (.bool b)
  | .int n => some (.int n)
  | .float x => some (.float x)
  | .str s => some (.str s)
  | .arr _ => some .sequence
  | .obj _ => some .map
  | .outOfRange => none
  | .loneSurrogate => none
  | .broken => none

/-- The refusal of a draft that is not of the expected kind. -/
def Draft.mismatch (d : Draft) (expected : String) : DecodeError :=
  match d.found? with
  | some found => .invalidType found expected
  | none => .malformed

namespace Decoder

/-- A decoder followed by a function. -/
def map {α β : Type} (f : α → β) (dec : Decoder α) : Decoder β := fun c d => (dec c d).map f

/-- A whole number of a type that holds the numbers below `bound`. -/
def below {α : Type} (bound : Nat) (name : String) (ofNat : Nat → α) : Decoder α := fun _ d =>
  match d with
  | .int n => if 0 ≤ n ∧ n < bound then .ok (ofNat n.toNat) else .error (.invalidValue (.int n) name)
  | d => .error (d.mismatch name)

/-- An unsigned 64-bit number. -/
def uint64 : Decoder UInt64 := below UInt64.size "u64" .ofNat

/-- An unsigned 32-bit number. -/
def uint32 : Decoder UInt32 := below UInt32.size "u32" .ofNat

/-- An unsigned 16-bit number. -/
def uint16 : Decoder UInt16 := below UInt16.size "u16" .ofNat

/-- A double; whole numbers are rounded. -/
def float : Decoder Float := fun _ d =>
  match d with
  | .float x => .ok x
  | .int n => .ok (if n < 0 then -(Float.ofNat n.natAbs) else Float.ofNat n.natAbs)
  | d => .error (d.mismatch "f64")

/-- A truth value. -/
def bool : Decoder Bool := fun _ d =>
  match d with
  | .bool b => .ok b
  | d => .error (d.mismatch "a boolean")

/-- A text. -/
def string : Decoder String := fun _ d =>
  match d with
  | .str s => .ok s
  | d => .error (d.mismatch "a string")

/-- Nothing, written as `null`; among members set aside an empty object is nothing as well. -/
def unit : Decoder Unit := fun c d =>
  match d with
  | .null => .ok ()
  | .obj [] => if c.source = .buffer then .ok () else .error (d.mismatch "unit")
  | d => .error (d.mismatch "unit")

/-- An optional value, where `null` is nothing. -/
def option {α : Type} (dec : Decoder α) : Decoder (Option α) := fun c d =>
  match d with
  | .null => .ok none
  | d => (dec c d).map some

/-- A list of values. -/
def list {α : Type} (dec : Decoder α) : Decoder (List α) := fun c d =>
  match d with
  | .arr items => do
    let c ← c.enter
    items.mapM (dec c)
  | d => .error (d.mismatch "a sequence")

/-- Any document. -/
def json : Decoder Json := fun c d =>
  match c.source with
  | .text => if d.sound c.depth then .ok d.toJson else .error .malformed
  | _ => .ok d.toJson

/-- A word of a closed vocabulary, as a string or as the only member of an object, with the value `null`. -/
def word {α : Type} (words : List (String × α)) : Decoder α := fun c d =>
  let look (s : String) : Except DecodeError α :=
    match words.find? (·.1 = s) with
    | some w => .ok w.2
    | none => .error (.unknownVariant s (words.map (·.1)))
  match d with
  | .str s => look s
  | .obj [] =>
    match c.source with
    | .text => .error .malformed
    | _ => .error (.invalidValue .map "map with a single key")
  | .obj ((name, value) :: more) => do
    let c ← c.enter
    if c.source ≠ .text ∧ !more.isEmpty then throw (.invalidValue .map "map with a single key")
    let a ← match name with
      | .str s => look s
      | name => .error (name.mismatch "variant identifier")
    unit c value
    if more.isEmpty then return a else throw .malformed
  | d =>
    match c.source with
    | .text => .error .malformed
    | _ => .error (d.mismatch "string or map")

/-- A table from texts to values, in ascending order of the texts; of several entries with one key the last
counts. -/
def table {α : Type} (dec : Decoder α) : Decoder (List (String × α)) := fun c d =>
  match d with
  | .obj members => do
    let c ← c.enter
    let entries ← members.mapM fun m =>
      match m.1 with
      | .str k => (dec c m.2).map fun v => (k, v)
      | _ => .error .malformed
    return sortMembers entries
  | d => .error (d.mismatch "a map")

/-- A decoder that also takes `null`, for a default value. -/
def orNull {α : Type} (default : α) (dec : Decoder α) : Decoder α := (option dec).map (·.getD default)

end Decoder

/-- A field that a record looks for in an object. -/
structure Field where
  name : String
  check : Decoder Unit

/-- A way to read a record: the fields it looks for, in their order, and how it is built from what was found.
The last argument of `build` is the refusal for a field that must be there and is not. -/
structure Record (α : Type) where
  fields : List Field
  build : Context → (String → Option Draft) → (String → DecodeError) → Except DecodeError α

namespace Record

/-- A record without fields. -/
def pure {α : Type} (a : α) : Record α := ⟨[], fun _ _ _ => .ok a⟩

/-- Adds a field to a record. A field with a default may be absent. -/
def field {α β : Type} (r : Record (β → α)) (name : String) (dec : Decoder β) (default : Option β) :
    Record α where
  fields := r.fields ++ [⟨name, dec.map fun _ => ()⟩]
  build c look missing := do
    let f ← r.build c look missing
    match look name with
    | some d => (dec c d).map f
    | none =>
      match default with
      | some b => return f b
      | none => throw (missing name)

/-- Adds a field that must be there. -/
def required {α β : Type} (r : Record (β → α)) (name : String) (dec : Decoder β) : Record α :=
  r.field name dec none

/-- Adds a field that may be absent. -/
def optional {α β : Type} (r : Record (β → α)) (name : String) (dec : Decoder β) (default : β) : Record α :=
  r.field name dec (some default)

/-- Goes through the members of an object: every field that the record looks for is read, and must be there
only once; all else is skipped. -/
def checkMembers (fields : List Field) (c : Context) :
    List String → List (Draft × Draft) → Except DecodeError Unit
  | _, [] => .ok ()
  | seen, (.str k, d) :: ms =>
    match fields.find? (·.name = k) with
    | some f =>
      if k ∈ seen then .error (.duplicateField k)
      else do
        f.check c d
        checkMembers fields c (k :: seen) ms
    | none => if d.skippable then checkMembers fields c seen ms else .error .malformed
  | _, _ :: _ => .error .malformed

/-- The value of the member with a name. -/
def lookMember (members : List (Draft × Draft)) (name : String) : Option Draft :=
  (members.find? fun
    | (.str k, _) => k = name
    | _ => false).map (·.2)

/-- The item of an array that stands for a field. -/
def lookItem (fields : List Field) (items : List Draft) (name : String) : Option Draft :=
  ((fields.zip items).find? (·.1.name = name)).map (·.2)

/-- "1 element", "2 elements". -/
def elementCount (n : Nat) : String := Text.decimal n ++ if n = 1 then " element" else " elements"

/-- The refusal of an array that ends before the field with a name. -/
def tooShort (title : String) (fields : List Field) (name : String) : DecodeError :=
  .invalidLength (fields.findIdx (·.name = name)) ("struct " ++ title ++ " with " ++ elementCount fields.length)

/-- Refuses an array with more items than the record has fields. -/
def checkLength (c : Context) (fields : List Field) (items : List Draft) : Except DecodeError Unit :=
  if items.length ≤ fields.length then .ok ()
  else match c.source with
    | .text => .error .malformed
    | .value => .error (.invalidLength items.length "fewer elements in array")
    | .buffer => .error (.invalidLength items.length (elementCount fields.length ++ " in sequence"))

/-- Reads a record from the members of an object. -/
def ofMembers {α : Type} (r : Record α) (c : Context) (members : List (Draft × Draft)) :
    Except DecodeError α := do
  checkMembers r.fields c [] members
  r.build c (lookMember members) .missingField

/-- The decoder of a record, which is called `title` in refusals. -/
def decoder {α : Type} (title : String) (r : Record α) : Decoder α := fun c d =>
  match d with
  | .obj members => do
    let c ← c.enter
    r.ofMembers c members
  | .arr items => do
    let c ← c.enter
    let a ← r.build c (lookItem r.fields items) (tooShort title r.fields)
    checkLength c r.fields items
    return a
  | d => .error (d.mismatch ("struct " ++ title))

end Record

/-- Decodes a text. -/
def Decoder.ofText {α : Type} (dec : Decoder α) (text : String) : Except DecodeError α :=
  match scan text with
  | (d, ends) => do
    let a ← dec {} d
    if ends then return a else throw .malformed

/-- Decodes a value that has been read before. -/
def Decoder.ofJson {α : Type} (dec : Decoder α) (v : Json) : Except DecodeError α :=
  dec { source := .value } (Draft.ofJson v.canonical)

end GridGateway.Json
