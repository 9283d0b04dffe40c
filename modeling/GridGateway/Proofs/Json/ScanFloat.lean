import GridGateway.Json.Printer
import GridGateway.Proofs.Decimal.Shortest
import GridGateway.Proofs.Json.ScanNumber

/-!
# The text of a double

However the shortest decimal of a double is laid out, its text is a number (`isNumber_shortestText`).  It is scanned to
its end, then; the double it comes to need not be the same one, since reading rounds more than once.
-/

namespace GridGateway.Json

open Decimal

private theorem IsDigits.isWhole {ds : List Char} (h : IsDigits ds) (hlead : ds.head? ≠ some '0') : IsWhole ds :=
  ⟨h, fun c cs e => hlead (by rw [e]; rfl)⟩

private theorem isDigits_zeros {n : Nat} {ds : List Char} (hds : IsDigits ds) :
    IsDigits (List.replicate n '0' ++ ds) ∧ IsDigits (ds ++ List.replicate n '0') := by
  have hzero : ∀ c ∈ List.replicate n '0', c.isDigit = true := by
    intro c hc
    rw [List.eq_of_mem_replicate hc]
    decide
  refine ⟨⟨by simp [hds.ne_nil], fun c hc => ?_⟩, ⟨by simp [hds.ne_nil], fun c hc => ?_⟩⟩
  · exact (List.mem_append.mp hc).elim (hzero c) (hds.digits c)
  · exact (List.mem_append.mp hc).elim (hds.digits c) (hzero c)

private theorem IsDigits.take {ds : List Char} (h : IsDigits ds) {n : Nat} (hn : 0 < n) : IsDigits (ds.take n) := by
  obtain ⟨d, ds, rfl⟩ := List.exists_cons_of_ne_nil h.ne_nil
  obtain ⟨n, rfl⟩ := Nat.exists_eq_succ_of_ne_zero (Nat.ne_of_gt hn)
  exact ⟨List.cons_ne_nil _ _, fun c hc => h.digits c (List.mem_of_mem_take hc)⟩

private theorem IsDigits.drop {ds : List Char} (h : IsDigits ds) {n : Nat} (hn : n < ds.length) :
    IsDigits (ds.drop n) :=
  ⟨by rw [ne_eq, List.drop_eq_nil_iff]; omega, fun c hc => h.digits c (List.mem_of_mem_drop hc)⟩

/-- A decimal other than zero is a number in every layout. -/
private theorem isNumeral_write (layout : Layout) {d : Nat} (hd : d ≠ 0) (k : Int) :
    ∃ whole fraction exponent, IsNumeral whole fraction exponent ∧
      (layout.write d k).toList = whole ++ fraction ++ exponent := by
  obtain ⟨digits, hdigits⟩ : ∃ digits, digits = Nat.toDigits 10 d := ⟨_, rfl⟩
  have hall : IsDigits digits := hdigits ▸ isDigits_toDigits d
  have hlead : digits.head? ≠ some '0' := hdigits ▸ Text.toDigits_head_ne_zero (Nat.pos_of_ne_zero hd)
  have hlength : 0 < digits.length := List.length_pos_iff.mpr hall.ne_nil
  have hzero : IsDigits ['0'] := ⟨List.cons_ne_nil _ _, by simp⟩
  have hfront {n : Nat} (hn : 0 < n) : IsWhole (digits.take n) := by
    refine (hall.take hn).isWhole ?_
    rwa [List.head?_take, if_neg (Nat.ne_of_gt hn)]
  simp only [Layout.write, ← hdigits, String.toList_ofList]
  split
  · split
    · -- a whole number
      refine ⟨digits ++ List.replicate k.toNat '0', ['.', '0'], [], ⟨?_, .digits hzero, .absent⟩, by simp⟩
      refine (isDigits_zeros hall).2.isWhole ?_
      obtain ⟨c, cs, rfl⟩ := List.exists_cons_of_ne_nil hall.ne_nil
      exact hlead
    · split
      · -- the point stands among the digits
        refine ⟨digits.take (digits.length + k).toNat, '.' :: digits.drop (digits.length + k).toNat, [],
          ⟨hfront (by omega), .digits (hall.drop (by omega)), .absent⟩, by simp⟩
      · -- the point stands before the digits
        refine ⟨['0'], '.' :: (List.replicate (-(digits.length + k)).toNat '0' ++ digits), [],
          ⟨⟨hzero, by simp⟩, .digits (isDigits_zeros hall).1, .absent⟩, by simp⟩
  · -- one digit before the point, and an exponent
    generalize (digits.length : Int) + k - 1 = e
    have hexponent : IsExponent ('e' :: (if e < 0 then '-' else '+') :: Nat.toDigits 10 e.natAbs) := by
      refine .digits ?_ (isDigits_toDigits _)
      split
      · exact .inr rfl
      · exact .inl rfl
    cases hdrop : digits.drop 1 with
    | nil => exact ⟨digits.take 1, [], _, ⟨hfront Nat.one_pos, .absent, hexponent⟩, by simp⟩
    | cons c cs =>
      have hlong : 1 < digits.length := by
        have hcount := congrArg List.length hdrop
        rw [List.length_drop, List.length_cons] at hcount
        omega
      have hrest : IsDigits (c :: cs) := hdrop ▸ hall.drop hlong
      exact ⟨digits.take 1, '.' :: c :: cs, _, ⟨hfront Nat.one_pos, .digits hrest, hexponent⟩, by simp⟩

/-- The text of a finite double is a number. -/
theorem isNumber_shortestText {x : Float} (hx : (x.isNaN || x.isInf) = false) :
    IsNumber (shortestText x).toList := by
  obtain ⟨hnan, hinf⟩ := Bool.or_eq_false_iff.mp hx
  have hsigned {text : String} (htext : ∃ whole fraction exponent, IsNumeral whole fraction exponent ∧
      text.toList = whole ++ fraction ++ exponent) {sign : String} (hsign : sign = "-" ∨ sign = "") :
      IsNumber (sign ++ text).toList := by
    obtain ⟨whole, fraction, exponent, hnumeral, htext⟩ := htext
    rw [String.toList_append, htext]
    rcases hsign with rfl | rfl
    · exact .negative hnumeral
    · exact .positive hnumeral
  have hsign : (if UInt64.size / 2 ≤ x.toBits.toNat then "-" else "") = "-" ∨
      (if UInt64.size / 2 ≤ x.toBits.toNat then "-" else "") = "" := by
    split
    · exact .inl rfl
    · exact .inr rfl
  simp only [shortestText, hnan, hinf, Bool.false_eq_true, ↓reduceIte]
  split
  · have hzero : IsDigits ['0'] := ⟨List.cons_ne_nil _ _, by simp⟩
    exact hsigned ⟨['0'], ['.', '0'], [], ⟨⟨hzero, by simp⟩, .digits hzero, .absent⟩, rfl⟩ hsign
  · next hne => exact hsigned (isNumeral_write _ (Dyadic.shortest_ne_zero _ hne) _) hsign

end GridGateway.Json
