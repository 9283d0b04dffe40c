import GridGateway.Json.Number
import GridGateway.Proofs.Text.Integer

/-!
# Scanning numbers

A number has a whole part and may have a fraction and an exponent (`IsNumeral`).  As long as the text after it cannot
belong to a number, a number is scanned to its end (`IsNumber.scan`), and a whole number that fits 64 bits is scanned
back from its decimal text (`scanNumber_signedDecimal`).
-/

namespace GridGateway.Json

/-- The text after a value inside a document: nothing, or a comma or a closing bracket. -/
def Follows : List Char → Prop
  | [] => True
  | c :: _ => c = ',' ∨ c = ']' ∨ c = '\x7d'

/-- The whole numbers that are kept exactly: those of 64 bits, with or without a sign. -/
def InRange (n : Int) : Prop := -(UInt64.size / 2 : Nat) ≤ n ∧ n < UInt64.size

theorem inRange_natCast {n : Nat} (h : n < UInt64.size) : InRange n := by
  constructor <;> omega

/-- What may follow a value is no part of a number. -/
theorem Follows.head {c : Char} {cs : List Char} (h : Follows (c :: cs)) :
    c.isDigit = false ∧ c ≠ '.' ∧ c ≠ 'e' ∧ c ≠ 'E' := by
  rcases h with rfl | rfl | rfl <;> decide

/-! ### The parts of a number -/

/-- The text does not go on with a digit. -/
def Stops (rest : List Char) : Prop := ∀ c ∈ rest.head?, c.isDigit = false

/-- One digit or more. -/
structure IsDigits (ds : List Char) : Prop where
  ne_nil : ds ≠ []
  digits : ∀ c ∈ ds, c.isDigit = true

/-- The whole part of a number: digits that a zero only leads when it stands alone. -/
structure IsWhole (ds : List Char) : Prop extends IsDigits ds where
  lead : ∀ c cs, ds ≠ '0' :: c :: cs

/-- The fraction of a number, if it has one. -/
inductive IsFraction : List Char → Prop where
  | absent : IsFraction []
  | digits {ds : List Char} : IsDigits ds → IsFraction ('.' :: ds)

/-- The exponent of a number, if it has one. -/
inductive IsExponent : List Char → Prop where
  | absent : IsExponent []
  | digits {sign : Char} {ds : List Char} : sign = '+' ∨ sign = '-' → IsDigits ds → IsExponent ('e' :: sign :: ds)

/-- A number without a sign. -/
structure IsNumeral (whole fraction exponent : List Char) : Prop where
  whole : IsWhole whole
  fraction : IsFraction fraction
  exponent : IsExponent exponent

theorem Follows.stops {rest : List Char} (h : Follows rest) : Stops rest := by
  cases rest with
  | nil => exact fun _ hc => nomatch hc
  | cons c cs =>
    intro c' hc'
    obtain rfl := Option.mem_some.mp hc'
    exact h.head.1

theorem isDigits_toDigits (n : Nat) : IsDigits (Nat.toDigits 10 n) :=
  ⟨Nat.toDigits_ne_nil, fun _ hc => Text.isDigit_of_mem_toDigits hc⟩

private theorem isWhole_toDigits (n : Nat) : IsWhole (Nat.toDigits 10 n) := by
  refine ⟨isDigits_toDigits n, fun c cs h => ?_⟩
  rcases Nat.eq_zero_or_pos n with rfl | hn
  · rw [Nat.toDigits_zero] at h
    cases h
  · exact absurd (by rw [h]; rfl) (Text.toDigits_head_ne_zero hn)

/-! ### Scanning the parts -/

/-- The digits in front of a text are split off. -/
private theorem spanDigits_append {ds rest : List Char} (hds : IsDigits ds) (hrest : Stops rest) :
    spanDigits (ds ++ rest) = (ds, rest) := by
  have hstop : rest.takeWhile Char.isDigit = [] ∧ rest.dropWhile Char.isDigit = rest := by
    cases rest with
    | nil => exact ⟨rfl, rfl⟩
    | cons c cs =>
      have hc : ¬ c.isDigit = true := by simp [hrest c rfl]
      exact ⟨List.takeWhile_cons_of_neg hc, List.dropWhile_cons_of_neg hc⟩
  rw [spanDigits, List.takeWhile_append_of_pos hds.digits, List.dropWhile_append_of_pos hds.digits, hstop.1, hstop.2,
    List.append_nil]

private theorem scanExponent_of_follows {rest : List Char} (h : Follows rest) :
    scanExponent rest = some (none, rest) := by
  cases rest with
  | nil => rfl
  | cons c cs =>
    have hc : ¬ (c = 'e' ∨ c = 'E') := by
      rintro (e | e)
      · exact h.head.2.2.1 e
      · exact h.head.2.2.2 e
    exact if_neg hc

/-- A whole part without a fraction behind it. -/
private theorem scanUnsigned_whole (negative : Bool) {whole rest : List Char} (hwhole : IsWhole whole)
    (hrest : Stops rest) (hpoint : rest.head? ≠ some '.') :
    scanUnsigned negative (whole ++ rest) = (scanExponent rest).map fun
      | (some e, rest) => (floatOfParts negative whole [] e, rest)
      | (none, rest) => (wholeNumber negative whole, rest) := by
  rw [scanUnsigned, spanDigits_append hwhole.toIsDigits hrest]
  split
  · next e => exact absurd (congrArg Prod.fst e) hwhole.ne_nil
  · next e => exact absurd (congrArg Prod.fst e) (hwhole.lead _ _)
  · next e => exact absurd (congrArg (fun p => p.2.head?) e) hpoint
  · next e =>
    cases e
    rfl

/-- A whole part with a fraction behind it. -/
private theorem scanUnsigned_fraction (negative : Bool) {whole fraction rest : List Char} (hwhole : IsWhole whole)
    (hfraction : IsDigits fraction) (hrest : Stops rest) :
    scanUnsigned negative (whole ++ '.' :: (fraction ++ rest)) =
      (scanExponent rest).map fun (e, rest) => (floatOfParts negative whole fraction (e.getD 0), rest) := by
  have hpoint : Stops ('.' :: (fraction ++ rest)) := by
    intro c hc
    obtain rfl := Option.mem_some.mp hc
    decide
  rw [scanUnsigned, spanDigits_append hwhole.toIsDigits hpoint]
  split
  · next e => exact absurd (congrArg Prod.fst e) hwhole.ne_nil
  · next e => exact absurd (congrArg Prod.fst e) (hwhole.lead _ _)
  · next e =>
    cases e
    rw [spanDigits_append hfraction hrest]
    split
    · next e => exact absurd (congrArg Prod.fst e) hfraction.ne_nil
    · next e =>
      cases e
      rfl
  · next hnot e =>
    cases e
    exact (hnot _ rfl).elim

/-- An exponent is scanned to its end. -/
private theorem IsExponent.scan {exponent : List Char} (h : IsExponent exponent) :
    ∃ e, ∀ rest, Follows rest → scanExponent (exponent ++ rest) = some (e, rest) := by
  cases h with
  | absent => exact ⟨none, fun rest hrest => scanExponent_of_follows hrest⟩
  | @digits sign ds hsign hds =>
    refine ⟨some (exponentValue (sign = '-') ds), fun rest hrest => ?_⟩
    have hspan := spanDigits_append hds hrest.stops
    obtain ⟨d, ds, rfl⟩ := List.exists_cons_of_ne_nil hds.ne_nil
    rcases hsign with rfl | rfl <;>
      simp only [scanExponent, List.cons_append, true_or, ↓reduceIte, List.cons_append ▸ hspan, Char.reduceEq,
        decide_false, decide_true]

/-- Neither a digit nor a point follows the digits before an exponent. -/
private theorem IsExponent.stops {exponent rest : List Char} (h : IsExponent exponent) (hrest : Follows rest) :
    Stops (exponent ++ rest) ∧ (exponent ++ rest).head? ≠ some '.' := by
  cases h with
  | absent =>
    refine ⟨hrest.stops, fun hpoint => ?_⟩
    obtain ⟨cs, rfl⟩ := List.head?_eq_some_iff.mp hpoint
    exact hrest.head.2.1 rfl
  | digits =>
    refine ⟨fun c hc => ?_, by simp⟩
    obtain rfl := Option.mem_some.mp hc
    decide

/-- A number is scanned to its end, whatever it comes to. -/
theorem IsNumeral.scan {whole fraction exponent : List Char} (h : IsNumeral whole fraction exponent)
    (negative : Bool) : ∃ d, ∀ rest, Follows rest →
      scanUnsigned negative (whole ++ fraction ++ exponent ++ rest) = some (d, rest) := by
  obtain ⟨e, he⟩ := h.exponent.scan
  rcases h.fraction with _ | @⟨ds, hds⟩
  · refine ⟨match e with
      | some e => floatOfParts negative whole [] e
      | none => wholeNumber negative whole, fun rest hrest => ?_⟩
    obtain ⟨hstops, hpoint⟩ := h.exponent.stops hrest
    rw [List.append_nil, List.append_assoc, scanUnsigned_whole negative h.whole hstops hpoint, he rest hrest]
    cases e <;> rfl
  · refine ⟨floatOfParts negative whole ds (e.getD 0), fun rest hrest => ?_⟩
    rw [List.append_assoc, List.append_assoc, List.cons_append,
      scanUnsigned_fraction negative h.whole hds (h.exponent.stops hrest).1, he rest hrest]
    rfl

/-! ### Numbers with a sign -/

/-- A number, with or without a sign. -/
inductive IsNumber : List Char → Prop where
  | positive {whole fraction exponent : List Char} :
    IsNumeral whole fraction exponent → IsNumber (whole ++ fraction ++ exponent)
  | negative {whole fraction exponent : List Char} :
    IsNumeral whole fraction exponent → IsNumber ('-' :: (whole ++ fraction ++ exponent))

/-- A number that starts with a digit has no sign. -/
private theorem scanNumber_of_isDigit {c : Char} (hc : c.isDigit = true) (cs : List Char) :
    scanNumber (c :: cs) = scanUnsigned false (c :: cs) := by
  rw [scanNumber]
  rintro r ⟨rfl, -⟩
  exact absurd hc (by decide)

/-- A number starts with a sign or with a digit. -/
theorem IsNumber.head {cs : List Char} (h : IsNumber cs) : ∃ c ds, cs = c :: ds ∧ (c = '-' ∨ c.isDigit = true) := by
  cases h with
  | positive h =>
    obtain ⟨d, ds, rfl⟩ := List.exists_cons_of_ne_nil h.whole.ne_nil
    exact ⟨d, _, rfl, .inr (h.whole.digits d List.mem_cons_self)⟩
  | negative h => exact ⟨'-', _, rfl, .inl rfl⟩

/-- A number is scanned to its end, whatever it comes to. -/
theorem IsNumber.scan {cs : List Char} (h : IsNumber cs) :
    ∃ d, ∀ rest, Follows rest → scanNumber (cs ++ rest) = some (d, rest) := by
  cases h with
  | positive h =>
    obtain ⟨d, hd⟩ := h.scan false
    refine ⟨d, fun rest hrest => ?_⟩
    rw [← hd rest hrest]
    obtain ⟨c, ds, rfl⟩ := List.exists_cons_of_ne_nil h.whole.ne_nil
    exact scanNumber_of_isDigit (h.whole.digits c List.mem_cons_self) _
  | negative h => exact h.scan true

/-! ### Whole numbers -/

/-- Digits without fraction and exponent are a whole number. -/
private theorem scanUnsigned_toDigits (negative : Bool) (n : Nat) {rest : List Char} (hrest : Follows rest) :
    scanUnsigned negative (Nat.toDigits 10 n ++ rest) =
      some (wholeNumber negative (Nat.toDigits 10 n), rest) := by
  obtain ⟨hstops, hpoint⟩ := IsExponent.absent.stops hrest
  rw [List.nil_append] at hstops hpoint
  rw [scanUnsigned_whole negative (isWhole_toDigits n) hstops hpoint, scanExponent_of_follows hrest]
  rfl

theorem isNumber_signedDecimal (n : Int) : IsNumber (Text.signedDecimal n).toList := by
  have hdigits : IsNumeral (Nat.toDigits 10 n.natAbs) [] [] := ⟨isWhole_toDigits _, .absent, .absent⟩
  have hpositive := IsNumber.positive hdigits
  have hnegative := IsNumber.negative hdigits
  simp only [List.append_nil] at hpositive hnegative
  rw [Text.signedDecimal]
  split
  · rw [String.toList_append, Text.toList_decimal]
    exact hnegative
  · rw [Text.toList_decimal]
    exact hpositive

/-- A whole number of 64 bits is scanned back from its decimal text. -/
theorem scanNumber_signedDecimal {n : Int} (hn : InRange n) {rest : List Char} (hrest : Follows rest) :
    scanNumber ((Text.signedDecimal n).toList ++ rest) = some (.int n, rest) := by
  obtain ⟨hlow, hhigh⟩ := hn
  rw [Text.signedDecimal]
  split
  · next hneg =>
    have hsize : 1 ≤ n.natAbs ∧ n.natAbs ≤ UInt64.size / 2 := by omega
    have hvalue : -(n.natAbs : Int) = n := by omega
    rw [String.toList_append, Text.toList_decimal]
    change scanUnsigned true (Nat.toDigits 10 n.natAbs ++ rest) = _
    rw [scanUnsigned_toDigits true n.natAbs hrest]
    simp only [wholeNumber, Nat.ofDigitChars_ten_toDigits, ↓reduceIte, hsize, and_self, hvalue]
  · next hpos =>
    have hsize : n.natAbs < UInt64.size := by omega
    have hvalue : (n.natAbs : Int) = n := by omega
    rw [Text.toList_decimal]
    have hstart : scanNumber (Nat.toDigits 10 n.natAbs ++ rest) =
        scanUnsigned false (Nat.toDigits 10 n.natAbs ++ rest) := by
      obtain ⟨d, ds, hds⟩ := List.exists_cons_of_ne_nil (Nat.toDigits_ne_nil (n := n.natAbs) (b := 10))
      have hd : d.isDigit = true := Text.isDigit_of_mem_toDigits (by rw [hds]; exact List.mem_cons_self)
      rw [hds]
      exact scanNumber_of_isDigit hd _
    rw [hstart, scanUnsigned_toDigits false n.natAbs hrest]
    simp only [wholeNumber, Nat.ofDigitChars_ten_toDigits, Bool.false_eq_true, ↓reduceIte, hsize, hvalue]

end GridGateway.Json
