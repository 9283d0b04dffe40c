import GridGateway.Toml.Quoted
import GridGateway.Toml.Scalar
import GridGateway.Toml.Tree

/-!
# Reading TOML documents

A document is a sequence of lines, each with a header, with a key and its value, or with nothing, and with a
comment at its end if need be. `Toml.parse?` gives the table that the whole document stands for.
-/

namespace GridGateway.Toml

/-- A text without the comment at its front; nothing if the comment holds a control character. -/
def skipComment (cs : List Char) : Option (List Char) :=
  match cs with
  | '#' :: rest =>
    match rest.dropWhile isPlain with
    | [] => some []
    | '\n' :: more => some ('\n' :: more)
    | '\r' :: '\n' :: more => some ('\r' :: '\n' :: more)
    | _ => none
  | cs => some cs

/-- A text without the blanks, comments and line ends at its front. -/
def skipGap (fuel : Nat) (cs : List Char) : Option (List Char) :=
  match fuel with
  | 0 => none
  | fuel + 1 =>
    match dropBlankLines cs with
    | '#' :: rest => do skipGap fuel (← skipComment ('#' :: rest))
    | cs => some cs

mutual
/-- Reads a value with at most `depth` arrays and tables in one another. -/
def readValue (fuel depth : Nat) (cs : List Char) : Option (Value × List Char) :=
  match fuel with
  | 0 => none
  | fuel + 1 =>
    match cs with
    | '"' :: _ => (readString cs).map fun (s, rest) => (.string s, rest)
    | '\'' :: _ => (readString cs).map fun (s, rest) => (.string s, rest)
    | '[' :: rest =>
      if depth = 0 then none
      else (readItems fuel (depth - 1) rest).map fun (items, rest) => (.array items, rest)
    | '\x7b' :: rest =>
      match skipBlanks rest with
      | '\x7d' :: rest => if depth = 0 then none else some (.table [], rest)
      | rest =>
        if depth = 0 then none
        else (readPairs fuel (depth - 1) [] rest).map fun (es, rest) => (.table (finishEntries es), rest)
    | cs => readScalar cs

/-- Reads the items of an array up to its closing bracket. -/
def readItems (fuel depth : Nat) (cs : List Char) : Option (List Value × List Char) :=
  match fuel with
  | 0 => none
  | fuel + 1 => do
    match ← skipGap (cs.length + 1) cs with
    | ']' :: rest => return ([], rest)
    | cs => do
      let (item, rest) ← readValue fuel depth cs
      match ← skipGap (rest.length + 1) rest with
      | ',' :: rest => do
        let (items, rest) ← readItems fuel depth rest
        return (item :: items, rest)
      | ']' :: rest => return ([item], rest)
      | _ => none

/-- Reads the pairs of a table in braces, which grows by them, up to its closing brace. -/
def readPairs (fuel depth : Nat) (es : Entries) (cs : List Char) : Option (Entries × List Char) :=
  match fuel with
  | 0 => none
  | fuel + 1 => do
    let (path, key, rest) ← readKey cs
    match rest with
    | '=' :: rest => do
      let (v, rest) ← readValue fuel depth (skipBlanks rest)
      let es ← es.assign path key v
      match skipBlanks rest with
      | ',' :: rest => readPairs fuel depth es rest
      | '\x7d' :: rest => return (es, rest)
      | _ => none
    | _ => none
end

/-- A document while it is being read: the tables so far, and how to change the one that the last header has
opened. -/
structure Progress where
  root : Entries := []
  present : List String := []

/-- Puts a value under a key of the present table. -/
def Progress.assign (p : Progress) (path : List String) (key : String) (v : Value) : Option Progress :=
  (Entries.changeAt false (fun _ es => es.assign path key v) false p.present p.root).map
    fun root => { p with root := root }

/-- Opens the table of a header, or one more of a repeated header. -/
def Progress.header (p : Progress) (repeated : Bool) (path : List String) (key : String) : Option Progress :=
  let change := if repeated then Entries.openNext key else Entries.openTable key
  (Entries.changeAt false (fun _ es => change es) false path p.root).map fun root => ⟨root, path ++ [key]⟩

/-- Reads what is on a line besides blanks and comments: the document after it, and the rest of the line. -/
def readLine (p : Progress) (cs : List Char) : Option (Progress × List Char) :=
  match cs with
  | [] => some (p, [])
  | '\n' :: _ => some (p, cs)
  | '\r' :: '\n' :: _ => some (p, cs)
  | '#' :: _ => some (p, cs)
  | '[' :: '[' :: rest => do
    match ← readKey rest with
    | (path, key, ']' :: ']' :: rest) => do return (← p.header true path key, rest)
    | _ => none
  | '[' :: rest => do
    match ← readKey rest with
    | (path, key, ']' :: rest) => do return (← p.header false path key, rest)
    | _ => none
  | cs => do
    match ← readKey cs with
    | (path, key, '=' :: rest) => do
      let (v, rest) ← readValue (cs.length + 1) deepest (skipBlanks rest)
      return (← p.assign path key v, rest)
    | _ => none

/-- Reads the lines of a document. -/
def readLines (fuel : Nat) (p : Progress) (cs : List Char) : Option Progress :=
  match fuel with
  | 0 => none
  | fuel + 1 => do
    let (p, rest) ← readLine p (skipBlanks cs)
    match ← skipComment (skipBlanks rest) with
    | [] => return p
    | '\n' :: rest => readLines fuel p rest
    | '\r' :: '\n' :: rest => readLines fuel p rest
    | _ => none

/-- The table that a document stands for. A byte order mark in front is not part of it. -/
def parse? (text : String) : Option Value :=
  let cs := text.toList
  let cs := if cs.head? = some '\ufeff' then cs.drop 1 else cs
  (readLines (cs.length + 1) {} cs).map fun p => .table (finishEntries p.root)

end GridGateway.Toml
