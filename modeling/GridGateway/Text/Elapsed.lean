import GridGateway.Text.Integer

/-!
# Time spans

A span of time is a number of nanoseconds. It is written in the largest unit of which it holds at least one, with
as many decimals as needed.
-/

namespace GridGateway.Text

/-- Removes the zeros at the end of a list of digits. -/
def dropTrailingZeros (ds : List Char) : List Char := (ds.reverse.dropWhile (· = '0')).reverse

/-- `whole` and the fraction `part / 10^places` in decimal. -/
def decimalFraction (whole part places : Nat) : String :=
  let digits := Nat.toDigits 10 part
  let padded := List.replicate (places - digits.length) '0' ++ digits
  match dropTrailingZeros padded with
  | [] => decimal whole
  | ds => decimal whole ++ "." ++ String.ofList ds

/-- A span of `ns` nanoseconds as text. -/
def elapsed (ns : Nat) : String :=
  if 1000000000 ≤ ns then decimalFraction (ns / 1000000000) (ns % 1000000000) 9 ++ "s"
  else if 1000000 ≤ ns then decimalFraction (ns / 1000000) (ns % 1000000) 6 ++ "ms"
  else if 1000 ≤ ns then decimalFraction (ns / 1000) (ns % 1000) 3 ++ "µs"
  else decimal ns ++ "ns"

end GridGateway.Text
