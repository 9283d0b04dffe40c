import GridGateway.Json.Scanner

/-!
# Strings and keys

Strings are quoted once or three times, with double quotes or single ones. Between double quotes there are
escapes; between triple quotes a string may go over several lines.
-/

namespace GridGateway.Toml

/-- A character that may stand in a comment or a string: no control character but the tab. -/
def isPlain (c : Char) : Bool := c = '\t' || (0x20 ≤ c.toNat && c.toNat ≠ 0x7f)

/-- The character with a code point, which must not be a surrogate. -/
def charOf? (n : Nat) : Option Char := if n.isValidChar then some (Char.ofNat n) else none

/-- The number that hexadecimal digits stand for. -/
def hexOf? (cs : List Char) : Option Nat :=
  (cs.mapM Json.hexDigitValue?).map fun ds => ds.foldl (fun n d => n * 16 + d) 0

/-- Reads the rest of an escape after the backslash: the character and what follows. -/
def readEscape : List Char → Option (Char × List Char)
  | 'b' :: rest => some ('\x08', rest)
  | 't' :: rest => some ('\t', rest)
  | 'n' :: rest => some ('\n', rest)
  | 'f' :: rest => some ('\x0c', rest)
  | 'r' :: rest => some ('\r', rest)
  | '"' :: rest => some ('"', rest)
  | '\\' :: rest => some ('\\', rest)
  | 'u' :: a :: b :: c :: d :: rest => do return (← charOf? (← hexOf? [a, b, c, d]), rest)
  | 'U' :: a :: b :: c :: d :: e :: f :: g :: h :: rest => do
    return (← charOf? (← hexOf? [a, b, c, d, e, f, g, h]), rest)
  | _ => none

/-- Reads a string after its double quote, where `seen` holds its characters so far in reverse order. -/
def readBasic (fuel : Nat) (seen : List Char) (cs : List Char) : Option (String × List Char) :=
  match fuel, cs with
  | 0, _ => none
  | _, [] => none
  | _, '"' :: rest => some (String.ofList seen.reverse, rest)
  | fuel + 1, '\\' :: rest => do
    let (c, rest) ← readEscape rest
    readBasic fuel (c :: seen) rest
  | fuel + 1, c :: rest => if isPlain c then readBasic fuel (c :: seen) rest else none

/-- Reads a string after its single quote. -/
def readLiteral (seen : List Char) : List Char → Option (String × List Char)
  | [] => none
  | '\'' :: rest => some (String.ofList seen.reverse, rest)
  | c :: rest => if isPlain c then readLiteral (c :: seen) rest else none

/-- A text without the line end at its front. -/
def dropLineEnd : List Char → List Char
  | '\n' :: rest => rest
  | '\r' :: '\n' :: rest => rest
  | cs => cs

/-- A text without the blanks and line ends at its front. -/
def dropBlankLines : List Char → List Char
  | ' ' :: rest => dropBlankLines rest
  | '\t' :: rest => dropBlankLines rest
  | '\n' :: rest => dropBlankLines rest
  | '\r' :: '\n' :: rest => dropBlankLines rest
  | cs => cs

/-- Whether only blanks come before the next line end. -/
def endsLine : List Char → Bool
  | ' ' :: rest => endsLine rest
  | '\t' :: rest => endsLine rest
  | '\n' :: _ => true
  | '\r' :: '\n' :: _ => true
  | _ => false

/-- Reads a string after three quotes. Up to two quotes may stand right before the three at its end; a backslash
at the end of a line joins the next lines to it, if `escapes` there are. -/
def readTriple (quote : Char) (escapes : Bool) (fuel : Nat) (seen : List Char) (cs : List Char) :
    Option (String × List Char) :=
  match fuel, cs with
  | 0, _ => none
  | _, [] => none
  | fuel + 1, '\r' :: '\n' :: rest => readTriple quote escapes fuel ('\n' :: seen) rest
  | fuel + 1, '\n' :: rest => readTriple quote escapes fuel ('\n' :: seen) rest
  | fuel + 1, c :: rest =>
    if c = quote then
      let run := (cs.takeWhile (· = quote)).length
      if 3 ≤ run then
        let used := min run 5
        some (String.ofList (List.replicate (used - 3) quote ++ seen).reverse, cs.drop used)
      else readTriple quote escapes fuel (c :: seen) rest
    else if c = '\\' ∧ escapes then
      if endsLine rest then readTriple quote escapes fuel seen (dropBlankLines rest)
      else do
        let (e, rest) ← readEscape rest
        readTriple quote escapes fuel (e :: seen) rest
    else if isPlain c then readTriple quote escapes fuel (c :: seen) rest
    else none

/-- Reads a string of any form. -/
def readString (cs : List Char) : Option (String × List Char) :=
  match cs with
  | '"' :: '"' :: '"' :: rest => readTriple '"' true (cs.length + 1) [] (dropLineEnd rest)
  | '\'' :: '\'' :: '\'' :: rest => readTriple '\'' false (cs.length + 1) [] (dropLineEnd rest)
  | '"' :: rest => readBasic (cs.length + 1) [] rest
  | '\'' :: rest => readLiteral [] rest
  | _ => none

/-- A text without the blanks at its front. -/
def skipBlanks (cs : List Char) : List Char := cs.dropWhile fun c => c = ' ' || c = '\t'

/-- A character of a key without quotes. -/
def isKeyChar (c : Char) : Bool := c.isAlphanum || c = '-' || c = '_'

/-- Reads one part of a key. -/
def readKeyPart (cs : List Char) : Option (String × List Char) :=
  match cs with
  | '"' :: rest => readBasic (cs.length + 1) [] rest
  | '\'' :: rest => readLiteral [] rest
  | cs =>
    match cs.takeWhile isKeyChar with
    | [] => none
    | word => some (String.ofList word, cs.dropWhile isKeyChar)

/-- How deep a value may lie below a table: a key has at most so many parts, and of arrays and tables at most so
many stand in one another. -/
def deepest : Nat := 79

/-- Reads a key of at most so many parts with dots between them, and the blanks around it: the parts before the
last, the last part, and the rest of the text. -/
def readParts (most : Nat) (cs : List Char) : Option (List String × String × List Char) :=
  match most with
  | 0 => none
  | most + 1 => do
    let (part, rest) ← readKeyPart (skipBlanks cs)
    match skipBlanks rest with
    | '.' :: rest => do
      let (path, last, rest) ← readParts most rest
      return (part :: path, last, rest)
    | rest => return ([], part, rest)

/-- Reads a key. -/
def readKey (cs : List Char) : Option (List String × String × List Char) := readParts deepest cs

end GridGateway.Toml
