import GridGateway.Json.Draft

/-!
# Numbers of a document

A number without fraction and exponent is a whole number when it fits 64 bits: up to `2^64 - 1` without a sign and
down to `-2^63` with one. Every other number is a double. Its digits are gathered into a 64-bit whole number as
long as they fit, the digits after that only count for the exponent or not at all, and the whole number is
rounded to a double before it is multiplied or divided, with one more rounding, by a power of ten. (The result
can differ from the nearest double in the last place.)
-/

namespace GridGateway.Json

/-- The value of a decimal digit. -/
def digitValue (c : Char) : Nat := c.toNat - 0x30

/-- Appends digits to a number while the result fits 64 bits. Gives the number and how many digits were taken. -/
def takeDigits (n : Nat) : List Char → Nat × Nat
  | [] => (n, 0)
  | c :: cs =>
    if n * 10 + digitValue c < UInt64.size then
      let (m, taken) := takeDigits (n * 10 + digitValue c) cs
      (m, taken + 1)
    else (n, 0)

/-- A power of ten as a double. -/
def powerOfTen (e : Nat) : Float := Float.ofScientific 1 false e

/-- `x · 10^e` with one rounding for every power of ten up to `10^308`; nothing beyond the range of doubles. -/
def scale? (x : Float) (e : Int) : Option Float :=
  if e.natAbs ≤ 308 then
    if 0 ≤ e then
      let y := x * powerOfTen e.natAbs
      if y.isInf then none else some y
    else some (x / powerOfTen e.natAbs)
  else if x == 0.0 then some x
  else if 0 ≤ e then none
  else scale? (x / powerOfTen 308) (e + 308)
termination_by e.natAbs
decreasing_by omega

/-- The exponent of a number, from its sign and digits; exponents beyond 32 bits are all the same. -/
def exponentValue (negative : Bool) (digits : List Char) : Int :=
  let e := Nat.ofDigitChars 10 digits 0
  if negative then -(min e UInt32.size : Nat) else (min e UInt32.size : Nat)

/-- The double with these digits before and after the point and this exponent. -/
def floatOfParts (negative : Bool) (whole fraction : List Char) (exponent : Int) : Draft :=
  let (n, taken) := takeDigits 0 whole
  let (m, taken') := takeDigits n fraction
  match scale? (Float.ofNat m) ((whole.length - taken : Nat) - (taken' : Int) + exponent) with
  | some x => .float (if negative then -x else x)
  | none => .outOfRange

/-- The whole number with these digits, or the double when it does not fit. -/
def wholeNumber (negative : Bool) (digits : List Char) : Draft :=
  let n := Nat.ofDigitChars 10 digits 0
  if negative then
    if 1 ≤ n ∧ n ≤ UInt64.size / 2 then .int (-n) else floatOfParts true digits [] 0
  else if n < UInt64.size then .int n
  else floatOfParts false digits [] 0

/-- Splits the digits off the front of a text. -/
def spanDigits (cs : List Char) : List Char × List Char :=
  (cs.takeWhile Char.isDigit, cs.dropWhile Char.isDigit)

/-- Reads the exponent of a number, if there is one: its value and the rest; nothing when it has no digits. -/
def scanExponent (cs : List Char) : Option (Option Int × List Char) :=
  match cs with
  | c :: rest =>
    if c = 'e' ∨ c = 'E' then
      let (negative, rest) := match rest with
        | '-' :: r => (true, r)
        | '+' :: r => (false, r)
        | r => (false, r)
      match spanDigits rest with
      | ([], _) => none
      | (ds, rest) => some (some (exponentValue negative ds), rest)
    else some (none, cs)
  | [] => some (none, [])

/-- Reads what follows the sign of a number. -/
def scanUnsigned (negative : Bool) (cs : List Char) : Option (Draft × List Char) :=
  match spanDigits cs with
  | ([], _) => none
  | ('0' :: _ :: _, _) => none
  | (whole, '.' :: rest) =>
    match spanDigits rest with
    | ([], _) => none
    | (fraction, rest) =>
      (scanExponent rest).map fun (e, rest) => (floatOfParts negative whole fraction (e.getD 0), rest)
  | (whole, rest) =>
    (scanExponent rest).map fun
      | (some e, rest) => (floatOfParts negative whole [] e, rest)
      | (none, rest) => (wholeNumber negative whole, rest)

/-- Reads a number from the front of a text. -/
def scanNumber : List Char → Option (Draft × List Char)
  | '-' :: rest => scanUnsigned true rest
  | cs => scanUnsigned false cs

end GridGateway.Json
