/-!
# Shortest decimal text of a double

A finite double is `m · 2^q` for whole numbers `m` and `q`. The reals that round to it form an interval, closed
when `m` is even. Of the decimals in that interval the text shows one with the fewest significant digits, and
among those the nearest to the value. It is found by asking, for one digit, two digits and so on, whether one of
the two neighbours of the value on that decimal grid lies in the interval; all of this is exact arithmetic on
natural numbers.
-/

namespace GridGateway.Decimal

/-- A positive finite double as a whole number `m` times two to the power `q`, with the exponent of its lower
neighbour's spacing. -/
structure Dyadic where
  mantissa : Nat
  exponent : Int
  /-- Whether the neighbour below is only half as far away as the one above. -/
  narrowBelow : Bool

/-- The number of mantissas that share an exponent: 52 bits. -/
def mantissaSpan : Nat := 4503599627370496

/-- The magnitude of a finite double, from its bits. -/
def Dyadic.ofBits (bits : UInt64) : Dyadic :=
  let fraction : Nat := bits.toNat % mantissaSpan
  let biased : Nat := bits.toNat / mantissaSpan % 2048
  if biased = 0 then ⟨fraction, -1074, false⟩
  else ⟨fraction + mantissaSpan, (biased : Int) - 1075, fraction = 0 && 1 < biased⟩

/-- `n · 2^a · 10^b` as a fraction of two natural numbers. -/
def scaledBy (n : Nat) (a b : Int) : Nat × Nat :=
  (n * Nat.pow 2 a.toNat * Nat.pow 10 b.toNat, Nat.pow 2 (-a).toNat * Nat.pow 10 (-b).toNat)

/-- `d · 10^k` as a fraction of two natural numbers. -/
def gridPoint (d : Nat) (k : Int) : Nat × Nat := scaledBy d 0 k

/-- Order of two fractions with positive denominators. -/
def fracLt (x y : Nat × Nat) : Bool := x.1 * y.2 < y.1 * x.2

/-- Whether a fraction rounds to the double. -/
def Dyadic.rounds (v : Dyadic) (x : Nat × Nat) : Bool :=
  -- the interval's ends, in quarters of the spacing above the value
  let low := scaledBy (4 * v.mantissa - (if v.narrowBelow then 1 else 2)) (v.exponent - 2) 0
  let high := scaledBy (4 * v.mantissa + 2) (v.exponent - 2) 0
  if v.mantissa % 2 = 0 then !fracLt x low && !fracLt high x else fracLt low x && fracLt x high

/-- Distance of two fractions, as a fraction. -/
def fracDist (x y : Nat × Nat) : Nat × Nat :=
  let a := x.1 * y.2
  let b := y.1 * x.2
  (if a < b then b - a else a - b, x.2 * y.2)

/-- The point of the grid of multiples of `10^k` that rounds to the double and is nearest to it, if there is
one. Of two equally near points the one with the even digit is taken. -/
def Dyadic.onGrid? (v : Dyadic) (k : Int) : Option Nat :=
  let (num, den) := scaledBy v.mantissa v.exponent (-k)
  let below := num / den
  let above := below + 1
  let value := scaledBy v.mantissa v.exponent 0
  let belowFits := v.rounds (gridPoint below k)
  let aboveFits := v.rounds (gridPoint above k)
  if belowFits && aboveFits then
    let db := fracDist value (gridPoint below k)
    let da := fracDist value (gridPoint above k)
    if fracLt db da then some below
    else if fracLt da db then some above
    else if below % 2 = 0 then some below else some above
  else if belowFits then some below
  else if aboveFits then some above
  else none

/-- The first grid, going from coarse to fine, with a point that rounds to the double. -/
def Dyadic.search (v : Dyadic) : Nat → Int → Nat × Int
  | 0, k => ((scaledBy v.mantissa v.exponent (-k)).1 / (scaledBy v.mantissa v.exponent (-k)).2, k)
  | fuel + 1, k =>
    match v.onGrid? k with
    | some d => (d, k)
    | none => v.search fuel (k - 1)

/-- The exponent of a grid that is coarser than the double. -/
def Dyadic.coarse (v : Dyadic) : Int :=
  -- 0.30103 is a little more than the decimal logarithm of two
  (((Nat.log2 v.mantissa : Int) + 1 + v.exponent) * 30103) / 100000 + 1

/-- Removes trailing zeros from the digits of a number, counting them in the exponent. -/
def stripZeros : Nat → Nat → Int → Nat × Int
  | 0, d, k => (d, k)
  | fuel + 1, d, k => if d ≠ 0 ∧ d % 10 = 0 then stripZeros fuel (d / 10) (k + 1) else (d, k)

/-- The digits `d` and the exponent `k` of the shortest decimal `d · 10^k` of a positive finite double. -/
def Dyadic.shortest (v : Dyadic) : Nat × Int :=
  let (d, k) := v.search 30 v.coarse
  stripZeros 30 d k

/-- How a decimal is laid out: positional while the decimal point falls among these places, with an exponent
otherwise. -/
structure Layout where
  /-- The least position of the decimal point that is written out, counted from the first digit. -/
  leastPoint : Int
  /-- The greatest such position. -/
  greatestPoint : Int

/-- The layout of numbers in documents: from `0.00001` up to sixteen digits before the point. -/
def documentLayout : Layout := ⟨-4, 16⟩

/-- The decimal `d · 10^k` in a layout. A whole number keeps one zero after the point, and an exponent always has
a sign. -/
def Layout.write (layout : Layout) (d : Nat) (k : Int) : String :=
  let digits := Nat.toDigits 10 d
  let point := (digits.length : Int) + k
  String.ofList <|
    if layout.leastPoint ≤ point ∧ point ≤ layout.greatestPoint then
      if 0 ≤ k then digits ++ List.replicate k.toNat '0' ++ ['.', '0']
      else if 0 < point then digits.take point.toNat ++ ['.'] ++ digits.drop point.toNat
      else ['0', '.'] ++ List.replicate (-point).toNat '0' ++ digits
    else
      let fraction := match digits.drop 1 with
        | [] => []
        | ds => '.' :: ds
      let e := point - 1
      digits.take 1 ++ fraction ++ ['e', if e < 0 then '-' else '+'] ++ Nat.toDigits 10 e.natAbs

/-- The shortest decimal text that reads back as the double. -/
def shortestText (x : Float) : String :=
  if x.isNaN then "NaN"
  else
    let bits := x.toBits
    let sign := if UInt64.size / 2 ≤ bits.toNat then "-" else ""
    if x.isInf then sign ++ "inf"
    else
      let v := Dyadic.ofBits bits
      if v.mantissa = 0 then sign ++ "0.0"
      else
        let (d, k) := v.shortest
        sign ++ documentLayout.write d k

end GridGateway.Decimal
