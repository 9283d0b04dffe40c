import GridGateway.Query.Error
import GridGateway.Query.Text
import GridGateway.Text.Blank
import GridGateway.Text.Integer

/-!
# Slots of a filter

A filter is a record of slots, each filled from one query parameter. A slot knows its parameter's name, how to
read the parameter's text and how to write the text back, so one table of slots gives both directions.
-/

namespace GridGateway.Query

/-- A number given for the parameter `key`. -/
def readNumber (key raw : String) : Except QueryError UInt64 :=
  match Text.uint64? raw with
  | some n => .ok n
  | none => .error (.invalidInteger key raw)

/-- A list of numbers with commas between them; blanks around an item do not count, and the empty text is the
empty list. -/
def readNumbers (key raw : String) : Except QueryError (List UInt64) :=
  if raw.isEmpty then .ok []
  else (splitAll ',' raw.toList).mapM fun item => readNumber key (String.ofList (Text.trimBlanks item))

/-- A flag: any text but `true` and `false` leaves it unset. -/
def readFlag (raw : String) : Option Bool :=
  if raw = "true" then some true else if raw = "false" then some false else none

/-- A flag as text. -/
def renderFlag (b : Bool) : String := if b then "true" else "false"

/-- A field of the filter type `F` together with the query parameter that fills it. -/
inductive Slot (F : Type) where
  /-- An optional unsigned number. -/
  | number (key : String) (get : F → Option UInt64) (put : F → Option UInt64 → F)
  /-- An optional text. -/
  | text (key : String) (get : F → Option String) (put : F → Option String → F)
  /-- An optional flag. -/
  | flag (key : String) (get : F → Option Bool) (put : F → Option Bool → F)
  /-- A list of unsigned numbers; the empty list is the absent value. -/
  | numbers (key : String) (get : F → List UInt64) (put : F → List UInt64 → F)

namespace Slot

variable {F : Type}

/-- The name of the query parameter. -/
def key : Slot F → String
  | number k _ _ => k
  | text k _ _ => k
  | flag k _ _ => k
  | numbers k _ _ => k

/-- The filter with the slot filled from a parameter's text. -/
def assign (f : F) (raw : String) : Slot F → Except QueryError F
  | number k _ put => (readNumber k raw).map fun n => put f (some n)
  | text _ _ put => .ok (put f (some raw))
  | flag _ _ put => .ok (put f (readFlag raw))
  | numbers k _ put => (readNumbers k raw).map fun ns => put f ns

/-- The text that fills the slot with its present content, if it has any. -/
def render (f : F) : Slot F → Option String
  | number _ get _ => (get f).map fun n => Text.decimal n.toNat
  | text _ get _ => get f
  | flag _ get _ => (get f).map renderFlag
  | numbers _ get _ =>
    match get f with
    | [] => none
    | ns => some (",".intercalate (ns.map fun n => Text.decimal n.toNat))

end Slot

/-- Records of query parameters: an empty value, the effect of one pair, and the pairs that give a value
back. -/
class Params (F : Type) where
  /-- The value when no parameter is given. -/
  unset : F
  /-- The value after one pair; `none` when the key belongs to another type. -/
  assign (f : F) (key raw : String) : Except QueryError (Option F)
  /-- The pairs that lead from `unset` to the value. -/
  pairs (f : F) : List (String × String)

namespace Params

variable {F : Type} [Params F]

/-- The value after one pair, where foreign keys change nothing. -/
def step (f : F) (pair : String × String) : Except QueryError F :=
  (assign f pair.1 pair.2).map fun next => next.getD f

/-- The value that a list of pairs leads to; the first refused pair ends the reading. -/
def ofPairs (ps : List (String × String)) : Except QueryError F := ps.foldlM step unset

/-- Takes one pair into the value at hand and tells whether its key belongs to the type. -/
def enter (key raw : String) : ExceptT QueryError (StateM F) Bool := do
  let f ← get
  match assign f key raw with
  | .ok (some next) => set next; return true
  | .ok none => return false
  | .error e => throw e

/-- The value that a query string stands for. -/
def ofQuery (query : String) : Except QueryError F := ofPairs (decodePairs query)

/-- The query string of a value. -/
def toQuery (f : F) : String := encodePairs (pairs f)

end Params

/-- Parameters given by a table of slots: a pair fills the slot with its key, and the pairs of a value are those
of its filled slots, in the order of the table. -/
@[reducible] def Params.ofSlots {F : Type} (unset : F) (slots : List (Slot F)) : Params F where
  unset := unset
  assign f key raw :=
    match slots.find? (·.key = key) with
    | some slot => (slot.assign f raw).map some
    | none => .ok none
  pairs f := slots.filterMap fun slot => (slot.render f).map fun value => (slot.key, value)

end GridGateway.Query
