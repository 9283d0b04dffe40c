import GridGateway.Query.Text
import GridGateway.Toml.Value

/-!
# Numbers, moments and truth values

The values of a TOML document that are written without quotes and brackets. Each is one word; only a date and a
time may have a blank between them.
-/

namespace GridGateway.Toml

/-- A character that can stand in an unquoted value. -/
def isWordChar (c : Char) : Bool :=
  c.isAlphanum || c = '+' || c = '-' || c = '_' || c = '.' || c = ':'

/-- The digits of a number in which single underscores may stand between digits. -/
def digitsOf? (isDigit : Char → Bool) (cs : List Char) : Option (List Char) :=
  if (Query.splitAll '_' cs).all (fun run => !run.isEmpty && run.all isDigit) then
    some (cs.filter (· ≠ '_'))
  else none

/-- The value of a digit in any base up to sixteen. -/
def digitIn (c : Char) : Nat :=
  if c.isDigit then c.toNat - 0x30 else c.toLower.toNat - 0x57

/-- A digit below a base. -/
def isDigitIn (base : Nat) (c : Char) : Bool :=
  (c.isDigit || ('a' ≤ c && c ≤ 'f') || ('A' ≤ c && c ≤ 'F')) && digitIn c < base

/-- The number that digits in a base stand for. -/
def numberIn? (base : Nat) (cs : List Char) : Option Nat :=
  (digitsOf? (isDigitIn base) cs).map fun ds => ds.foldl (fun n c => n * base + digitIn c) 0

/-- The digits of a decimal number without needless zeros in front. -/
def wholeDigits? (cs : List Char) : Option (List Char) :=
  match digitsOf? Char.isDigit cs with
  | some ('0' :: _ :: _) => none
  | ds => ds

/-- A number with the range of 64-bit integers. -/
def integerInRange? (n : Int) : Option Value :=
  if -(UInt64.size / 2 : Nat) ≤ n ∧ n < (UInt64.size / 2 : Nat) then some (.integer n) else none

/-- The sign of a number, and the rest. -/
def splitSign : List Char → Bool × List Char
  | '-' :: rest => (true, rest)
  | '+' :: rest => (false, rest)
  | cs => (false, cs)

/-- An integer in one of four bases. -/
def integerOf? (word : List Char) : Option Value :=
  match word with
  | '0' :: 'x' :: rest => (numberIn? 16 rest).bind fun n => integerInRange? n
  | '0' :: 'o' :: rest => (numberIn? 8 rest).bind fun n => integerInRange? n
  | '0' :: 'b' :: rest => (numberIn? 2 rest).bind fun n => integerInRange? n
  | word =>
    let (negative, rest) := splitSign word
    (wholeDigits? rest).bind fun ds =>
      let n : Int := Nat.ofDigitChars 10 ds 0
      integerInRange? (if negative then -n else n)

/-- The exponent of a number. Beyond some size all exponents lead to the same doubles. -/
def exponentOf? (cs : List Char) : Option Int := do
  let (negative, rest) := splitSign cs
  let ds ← digitsOf? Char.isDigit rest
  let e := min (Nat.ofDigitChars 10 ds 0) 5000
  return if negative then -(e : Int) else e

/-- The double with these digits and this exponent of ten; none beyond the range of doubles. -/
def floatWith? (negative : Bool) (digits : List Char) (exponent : Int) : Option Value :=
  let n := Nat.ofDigitChars 10 digits 0
  let x := Float.ofScientific n (exponent < 0) exponent.natAbs
  if x.isInf then none else some (.float (if negative then -x else x))

/-- A number with a fraction, an exponent or both, or one of the special doubles. -/
def floatOf? (word : List Char) : Option Value :=
  let (negative, rest) := splitSign word
  if rest = ['i', 'n', 'f'] then some (.float (if negative then -1.0 / 0.0 else 1.0 / 0.0))
  else if rest = ['n', 'a', 'n'] then some (.float (0.0 / 0.0))
  else do
    let isMark (c : Char) : Bool := c = 'e' || c = 'E'
    let mantissa := rest.takeWhile (!isMark ·)
    let exponent ← match rest.dropWhile (!isMark ·) with
      | [] => some 0
      | _ :: cs => exponentOf? cs
    let (whole, fraction) := Query.splitFirst '.' mantissa
    let whole ← wholeDigits? whole
    let fraction ← if mantissa.contains '.' then digitsOf? Char.isDigit fraction else some []
    if mantissa.contains '.' ∨ rest.any isMark then
      floatWith? negative (whole ++ fraction) (exponent - fraction.length)
    else none

/-- A number with exactly so many digits and a value within bounds. -/
def field? (width low high : Nat) (cs : List Char) : Option Nat :=
  let n := Nat.ofDigitChars 10 cs 0
  if cs.length = width ∧ cs.all Char.isDigit ∧ low ≤ n ∧ n ≤ high then some n else none

/-- The number of days of a month. -/
def daysIn (year month : Nat) : Nat :=
  if month = 2 then if year % 4 = 0 ∧ (year % 100 ≠ 0 ∨ year % 400 = 0) then 29 else 28
  else if month = 4 ∨ month = 6 ∨ month = 9 ∨ month = 11 then 30
  else 31

/-- Whether a word is a date. -/
def isDate (cs : List Char) : Bool :=
  match Query.splitAll '-' cs with
  | [y, m, d] =>
    match field? 4 0 9999 y, field? 2 1 12 m with
    | some year, some month => (field? 2 1 (daysIn year month) d).isSome
    | _, _ => false
  | _ => false

/-- Whether a word is a time of the day. -/
def isTime (cs : List Char) : Bool :=
  match Query.splitAll ':' cs with
  | [h, m, s] =>
    let (whole, fraction) := Query.splitFirst '.' s
    (field? 2 0 23 h).isSome && (field? 2 0 59 m).isSome && (field? 2 0 60 whole).isSome &&
      (!s.contains '.' || (!fraction.isEmpty && fraction.all Char.isDigit))
  | _ => false

/-- Whether a word is a distance from universal time in hours and minutes. -/
def isOffset (cs : List Char) : Bool :=
  match Query.splitAll ':' cs with
  | [h, m] => (field? 2 0 23 h).isSome && (field? 2 0 59 m).isSome
  | _ => false

/-- Whether a word is a time of the day with or without a time zone. -/
def isTimeInZone (cs : List Char) : Bool :=
  let isMark (c : Char) : Bool := c = 'Z' || c = 'z' || c = '+' || c = '-'
  isTime (cs.takeWhile (!isMark ·)) &&
    match cs.dropWhile (!isMark ·) with
    | [] => true
    | ['Z'] => true
    | ['z'] => true
    | '+' :: offset => isOffset offset
    | '-' :: offset => isOffset offset
    | _ => false

/-- Whether a word is a date, a time, or both. -/
def isMoment (cs : List Char) : Bool :=
  isDate cs || isTime cs ||
    (isDate (cs.take 10) &&
      match cs.drop 10 with
      | 'T' :: time => isTimeInZone time
      | 't' :: time => isTimeInZone time
      | _ => false)

/-- The value that a word stands for. -/
def scalarOf? (word : List Char) : Option Value :=
  if word = ['t', 'r', 'u', 'e'] then some (.boolean true)
  else if word = ['f', 'a', 'l', 's', 'e'] then some (.boolean false)
  else if isMoment word then some (.moment (String.ofList word))
  else (integerOf? word).or (floatOf? word)

/-- Reads an unquoted value from the front of a text. -/
def readScalar (cs : List Char) : Option (Value × List Char) :=
  let word := cs.takeWhile isWordChar
  let rest := cs.dropWhile isWordChar
  match rest with
  | ' ' :: more =>
    let time := more.takeWhile isWordChar
    if isDate word && isTimeInZone time then
      some (.moment (String.ofList (word ++ ' ' :: time)), more.dropWhile isWordChar)
    else (scalarOf? word).map (·, rest)
  | rest => (scalarOf? word).map (·, rest)

end GridGateway.Toml
