import GridGateway.Decimal.Shortest
import GridGateway.Json.Basic
import GridGateway.Text.Integer

/-!
# Compact JSON text

The text of a value without any blanks. In strings only the quote, the backslash and the control characters of
ASCII are escaped, with the short escapes where there are some.
-/

namespace GridGateway.Json

/-- A lowercase hexadecimal digit. -/
def lowHexDigit (n : Nat) : Char := if n < 10 then Char.ofNat (0x30 + n) else Char.ofNat (0x57 + n)

/-- One character inside a string. -/
def escapeChar (c : Char) : List Char :=
  if c = '"' then ['\\', '"']
  else if c = '\\' then ['\\', '\\']
  else if c = '\n' then ['\\', 'n']
  else if c = '\r' then ['\\', 'r']
  else if c = '\t' then ['\\', 't']
  else if c = '\x08' then ['\\', 'b']
  else if c = '\x0c' then ['\\', 'f']
  else if c.toNat < 0x20 then ['\\', 'u', '0', '0', lowHexDigit (c.toNat / 16), lowHexDigit (c.toNat % 16)]
  else [c]

/-- A string with its quotes. -/
def stringChars (s : String) : List Char := '"' :: s.toList.flatMap escapeChar ++ ['"']

/-- A number that is not whole; what is no number at all is written as `null`. -/
def floatText (x : Float) : String := if x.isNaN || x.isInf then "null" else Decimal.shortestText x

mutual
/-- The characters of a value. -/
def chars : Json → List Char
  | .null => ['n', 'u', 'l', 'l']
  | .bool true => ['t', 'r', 'u', 'e']
  | .bool false => ['f', 'a', 'l', 's', 'e']
  | .int n => (Text.signedDecimal n).toList
  | .float x => (floatText x).toList
  | .str s => stringChars s
  | .arr items => '[' :: itemChars items
  | .obj members => '\x7b' :: memberChars members

/-- The items of an array and its closing bracket. -/
def itemChars : List Json → List Char
  | [] => [']']
  | [v] => chars v ++ [']']
  | v :: vs => chars v ++ ',' :: itemChars vs

/-- The members of an object and its closing brace. -/
def memberChars : List (String × Json) → List Char
  | [] => ['\x7d']
  | [(k, v)] => stringChars k ++ ':' :: chars v ++ ['\x7d']
  | (k, v) :: ms => stringChars k ++ ':' :: chars v ++ ',' :: memberChars ms
end

/-- The compact text of a value. -/
def text (v : Json) : String := String.ofList v.chars

end GridGateway.Json
