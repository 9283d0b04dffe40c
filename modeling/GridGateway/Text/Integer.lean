/-!
# Integers in text

Whole numbers are written in decimal ASCII digits. A reader accepts one leading plus sign, any number of leading
zeros and nothing else, and refuses what does not fit the width asked for.
-/

namespace GridGateway.Text

/-- The natural number a list of characters stands for. -/
def natOfChars? (cs : List Char) : Option Nat :=
  let ds := match cs with
    | '+' :: rest => rest
    | _ => cs
  if !ds.isEmpty && ds.all Char.isDigit then some (Nat.ofDigitChars 10 ds 0) else none

/-- The natural number a text stands for. -/
def nat? (s : String) : Option Nat := natOfChars? s.toList

/-- The 64-bit number a text stands for. -/
def uint64? (s : String) : Option UInt64 :=
  (nat? s).bind fun n => if n < UInt64.size then some (.ofNat n) else none

/-- The 32-bit number a text stands for. -/
def uint32? (s : String) : Option UInt32 :=
  (nat? s).bind fun n => if n < UInt32.size then some (.ofNat n) else none

/-- The 16-bit number a text stands for. -/
def uint16? (s : String) : Option UInt16 :=
  (nat? s).bind fun n => if n < UInt16.size then some (.ofNat n) else none

/-- A natural number in decimal digits. -/
def decimal (n : Nat) : String := String.ofList (Nat.toDigits 10 n)

/-- An integer in decimal digits, with a minus sign in front when it is negative. -/
def signedDecimal (n : Int) : String :=
  if n < 0 then "-" ++ decimal n.natAbs else decimal n.natAbs

end GridGateway.Text
