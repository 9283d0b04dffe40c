import GridGateway.Sql.Statement

/-!
# Predicates

Conditions that are added to a statement after `WHERE TRUE`. Each stands for one optional constraint: without a
value it adds nothing, with one it adds ` AND ` and a clause in which the value is bound.
-/

namespace GridGateway.Sql

/-- How a column is compared with a value. -/
inductive Comparison where
  | eq
  | ge
  | lt
  deriving DecidableEq, Repr

/-- The sign of a comparison, with blanks around it. -/
def Comparison.sign : Comparison → String
  | eq => " = "
  | ge => " >= "
  | lt => " < "

/-- Opens the list of conditions. -/
def whereTrue : Fragment := [.sql " WHERE TRUE"]

/-- The column compares with the value. -/
def compare (column : String) (c : Comparison) : Option Param → Fragment
  | none => []
  | some p => [.sql " AND ", .sql column, .sql c.sign, .bind p]

/-- The column equals the text, whatever the case of letters. -/
def equalsIgnoringCase (column : String) : Option String → Fragment
  | none => []
  | some s => [.sql " AND LOWER(", .sql column, .sql ") = LOWER(", .bind (.text (some s)), .sql ")"]

/-- Puts a backslash in front of each character that has a meaning in a pattern. -/
def escapePattern : List Char → List Char
  | [] => []
  | c :: cs => if c = '%' ∨ c = '_' ∨ c = '\\' then '\\' :: c :: escapePattern cs else c :: escapePattern cs

/-- The escaped form of a text inside a pattern. -/
def escapeLike (s : String) : String := String.ofList (escapePattern s.toList)

/-- The pattern of the texts that contain a text. -/
def containsPattern (s : String) : String := "%" ++ escapeLike s ++ "%"

/-- The column contains the text, whatever the case of letters. -/
def containsIgnoringCase (column : String) : Option String → Fragment
  | none => []
  | some s =>
    [.sql " AND ", .sql column, .sql " ILIKE ", .bind (.text (some (containsPattern s))),
      .sql " ESCAPE '\\'"]

/-- The column is one of the numbers; the empty list is no constraint. -/
def anyOf (column : String) : List Int → Fragment
  | [] => []
  | ns => [.sql " AND ", .sql column, .sql " = ANY(", .bind (.bigints ns), .sql ")"]

/-- The parts of a clause with the value between any two of them. -/
def fill (p : Param) : List (List Char) → Fragment
  | [] => []
  | [part] => [.sql (String.ofList part)]
  | part :: parts => .sql (String.ofList part) :: .bind p :: fill p parts

/-- A clause in which the value is bound wherever a question mark stands. -/
def template (clause : String) : Option Param → Fragment
  | none => []
  | some p => .sql " AND " :: fill p (Query.splitAll '?' clause.toList)

/-- One of two clauses, as a flag says. -/
def choose (whenTrue whenFalse : String) : Option Bool → Fragment
  | none => []
  | some b => [.sql " AND ", .sql (if b then whenTrue else whenFalse)]

end GridGateway.Sql
