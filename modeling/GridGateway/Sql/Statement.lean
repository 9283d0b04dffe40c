import GridGateway.Query.Text
import GridGateway.Text.Integer

/-!
# Statements

A statement is a list of pieces, each of them a part of its text or a value. Values never become part of the text:
in their place stands a numbered placeholder, and the values are sent beside the text as parameters. So the text
depends only on the fixed pieces and on where values stand between them.
-/

namespace GridGateway.Sql

/-- A value sent with a statement. -/
inductive Param where
  /-- A 64-bit integer. -/
  | bigint (n : Int)
  /-- A 32-bit integer. -/
  | integer (n : Int)
  /-- A text, or no value. -/
  | text (s : Option String)
  | bool (b : Bool)
  /-- A list of 64-bit integers. -/
  | bigints (ns : List Int)
  deriving DecidableEq, Repr

/-- A part of a statement. -/
inductive Piece where
  /-- Text that is sent as it is. -/
  | sql (s : String)
  /-- A value. -/
  | bind (p : Param)
  deriving DecidableEq, Repr

/-- A statement under construction. -/
abbrev Fragment := List Piece

namespace Fragment

/-- The text of pieces of which the first value is number `k`. -/
def textFrom (k : Nat) : Fragment → List Char
  | [] => []
  | .sql s :: rest => s.toList ++ textFrom k rest
  | .bind _ :: rest => '$' :: Nat.toDigits 10 k ++ textFrom (k + 1) rest

/-- The text of a statement, with placeholders `$1`, `$2`, … for its values. -/
def text (q : Fragment) : String := String.ofList (textFrom 1 q)

/-- The values of a statement, in their order. -/
def params : Fragment → List Param
  | [] => []
  | .sql _ :: rest => params rest
  | .bind p :: rest => p :: params rest

end Fragment

/-- A statement as it is sent. -/
structure Statement where
  sql : String
  params : List Param
  deriving DecidableEq, Repr

/-- The statement that a list of pieces makes up. -/
def Fragment.statement (q : Fragment) : Statement := ⟨q.text, q.params⟩

/-- The largest 64-bit integer of the database. -/
def maxBigint : Int := 9223372036854775807

/-- An unsigned number as a 64-bit integer; what does not fit is capped. -/
def bigintOf (n : UInt64) : Int := min (n.toNat : Int) maxBigint

/-- An unsigned number as a parameter. -/
def bigintParam (n : UInt64) : Param := .bigint (bigintOf n)

/-- A 64-bit integer of the database as an unsigned number; a negative one is read as zero. -/
def unsigned (n : Int) : UInt64 := .ofNat n.toNat

/-- A 64-bit integer of the database as an unsigned 32-bit number; one that does not fit is read as zero. -/
def narrow (n : Int) : UInt32 := if 0 ≤ n ∧ n < UInt32.size then .ofNat n.toNat else 0

end GridGateway.Sql
