import GridGateway.Toml.Value

/-!
# Growing tables

The tables of a document while it is being read. A table comes into being in one of four ways, which decide how it
may grow later: under a header of its own; as the parent of a table with a header, so that it can still get its own
header; through a key with dots, so that only keys with dots can add to it; or as a whole value, which never
changes.
-/

namespace GridGateway.Toml

/-- What stands under a key. -/
inductive Entry where
  | value (v : Value)
  /-- A table. It is open when it has no header yet, and dotted when a key with dots has made it. -/
  | table (isOpen isDotted : Bool) (entries : List (String × Entry))
  /-- The tables under a repeated header, the last one last. -/
  | tables (ts : List (List (String × Entry)))

/-- The entries of a table. -/
abbrev Entries := List (String × Entry)

namespace Entries

/-- The entry under a key. -/
def get? (es : Entries) (key : String) : Option Entry := (es.find? (·.1 = key)).map (·.2)

/-- The entries with the one under a key replaced, or added at the end. -/
def put (es : Entries) (key : String) (e : Entry) : Entries :=
  if es.any (·.1 = key) then es.map fun old => if old.1 = key then (key, e) else old
  else es ++ [(key, e)]

/-- Changes the table at a path. Tables that are missing on the way come into being, as dotted ones if the path is
that of a key with dots; such a path does not enter a table with a header. The change is told whether the table it
is about is dotted. -/
def changeAt (dotted : Bool) (change : Bool → Entries → Option Entries) :
    Bool → List String → Entries → Option Entries
  | isDotted, [], es => change isDotted es
  | _, key :: path, es =>
    match es.get? key with
    | none => (changeAt dotted change dotted path []).map fun new => es.put key (.table true dotted new)
    | some (.value _) => none
    | some (.table isOpen isDotted old) =>
      if dotted && !isOpen then none
      else (changeAt dotted change isDotted path old).map fun new => es.put key (.table isOpen isDotted new)
    | some (.tables ts) =>
      match ts.getLast? with
      | none => none
      | some last =>
        (changeAt dotted change false path last).map fun new => es.put key (.tables (ts.dropLast ++ [new]))

/-- Adds a value under a key of a table. A key with dots adds only to dotted tables, and a key without dots only to
others. -/
def add (key : String) (v : Value) (needsDotted isDotted : Bool) (es : Entries) : Option Entries :=
  if needsDotted ≠ isDotted ∨ (es.get? key).isSome then none else some (es.put key (.value v))

/-- Puts a value under a key, which may have dots. -/
def assign (path : List String) (key : String) (v : Value) (es : Entries) : Option Entries :=
  changeAt true (add key v !path.isEmpty) false path es

/-- Opens the table with a header. -/
def openTable (key : String) (es : Entries) : Option Entries :=
  match es.get? key with
  | none => some (es.put key (.table false false []))
  | some (.table true false old) => some (es.put key (.table false false old))
  | some _ => none

/-- Opens one more table with a repeated header. -/
def openNext (key : String) (es : Entries) : Option Entries :=
  match es.get? key with
  | none => some (es.put key (.tables [[]]))
  | some (.tables ts) => some (es.put key (.tables (ts ++ [[]])))
  | some _ => none

end Entries

mutual
/-- The value that an entry has become. -/
def Entry.finish : Entry → Value
  | .value v => v
  | .table _ _ es => .table (finishEntries es)
  | .tables ts => .array (finishTables ts)

/-- The values that the entries of a table have become. -/
def finishEntries : List (String × Entry) → List (String × Value)
  | [] => []
  | (k, e) :: es => (k, Entry.finish e) :: finishEntries es

/-- The values that some tables have become. -/
def finishTables : List (List (String × Entry)) → List Value
  | [] => []
  | t :: ts => .table (finishEntries t) :: finishTables ts
end

end GridGateway.Toml
