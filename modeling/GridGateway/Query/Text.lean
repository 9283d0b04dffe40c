import GridGateway.Text.Percent

/-!
# Query strings

A query string lists pairs of a key and a value, `key=value` joined by `&`. Reading and writing are total: a part
without `=` is a key with the empty value, empty parts are skipped, a plus sign is a blank, and a component whose
escapes do not form UTF-8 is kept as it is, blanks apart.
-/

namespace GridGateway.Query

/-- The parts of a list between the elements equal to `sep`; always at least one. -/
def splitAll {α : Type} [DecidableEq α] (sep : α) : List α → List (List α)
  | [] => [[]]
  | x :: xs =>
    if x = sep then [] :: splitAll sep xs
    else match splitAll sep xs with
      | [] => [[x]]
      | part :: parts => (x :: part) :: parts

/-- The elements before the first one equal to `sep` and those after it; nothing comes after when there is
none. -/
def splitFirst {α : Type} [DecidableEq α] (sep : α) (xs : List α) : List α × List α :=
  (xs.takeWhile (· ≠ sep), (xs.dropWhile (· ≠ sep)).drop 1)

/-- The text of a component: a plus sign is a blank, then the escapes are resolved if they give UTF-8. -/
def decodeComponent (raw : List Char) : String :=
  let spaced := raw.map fun c => if c = '+' then ' ' else c
  (Text.percentDecode? spaced).getD (String.ofList spaced)

/-- The pair that one part of a query string stands for. -/
def decodePart (part : List Char) : String × String :=
  let (key, value) := splitFirst '=' part
  (decodeComponent key, decodeComponent value)

/-- The pairs of a query string, in order; question marks in front are not part of it. -/
def decodePairs (query : String) : List (String × String) :=
  ((splitAll '&' (query.toList.dropWhile (· = '?'))).filter (! ·.isEmpty)).map decodePart

/-- One pair as a part of a query string. Keys are written as they are. -/
def encodePair (pair : String × String) : String := pair.1 ++ "=" ++ Text.percentEncode pair.2

/-- The query string that lists the pairs. -/
def encodePairs (pairs : List (String × String)) : String := "&".intercalate (pairs.map encodePair)

end GridGateway.Query
