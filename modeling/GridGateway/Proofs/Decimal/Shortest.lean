import GridGateway.Decimal.Shortest
import Mathlib.Algebra.Order.Ring.Nat

/-!
# The digits of shortest decimals

The shortest decimal of a double other than zero has a digit other than zero (`Dyadic.shortest_ne_zero`).

* `Dyadic.onGrid?_ne_zero`: zero does not round to the double, so no grid proposes it.
* `Dyadic.le_of_finest`: the last grid of the search is finer than the double.  Its exponent is estimated from the
  binary one, and thirty digits are more than the estimate and the range of doubles can spoil.
-/

namespace GridGateway.Decimal

/-! ### Powers of two and of ten -/

/-- A power of ten against a power of two from above: `10 ^ 3` is less than `2 ^ 10`. -/
private theorem ten_pow_le_two_pow {a b : Nat} (h : 10 * a ≤ 3 * b) : 10 ^ a ≤ 2 ^ b := by
  have hcube : (10 ^ a) ^ 3 ≤ (2 ^ b) ^ 3 := calc
    (10 ^ a) ^ 3 = (10 ^ 3) ^ a := by rw [← Nat.pow_mul, ← Nat.pow_mul, Nat.mul_comm]
    _ ≤ (2 ^ 10) ^ a := Nat.pow_le_pow_left (by decide) a
    _ = 2 ^ (10 * a) := (Nat.pow_mul 2 10 a).symm
    _ ≤ 2 ^ (b * 3) := Nat.pow_le_pow_right (by decide) (by omega)
    _ = (2 ^ b) ^ 3 := Nat.pow_mul 2 b 3
  exact (Nat.pow_le_pow_iff_left (by decide)).mp hcube

/-- A power of ten against a power of two from below: `10 ^ 4` is more than `2 ^ 13`. -/
private theorem two_pow_le_ten_pow {a b : Nat} (h : 4 * b ≤ 13 * a) : 2 ^ b ≤ 10 ^ a := by
  have hfourth : (2 ^ b) ^ 4 ≤ (10 ^ a) ^ 4 := calc
    (2 ^ b) ^ 4 = 2 ^ (b * 4) := (Nat.pow_mul 2 b 4).symm
    _ ≤ 2 ^ (13 * a) := Nat.pow_le_pow_right (by decide) (by omega)
    _ = (2 ^ 13) ^ a := Nat.pow_mul 2 13 a
    _ ≤ (10 ^ 4) ^ a := Nat.pow_le_pow_left (by decide) a
    _ = (10 ^ a) ^ 4 := by rw [← Nat.pow_mul, ← Nat.pow_mul, Nat.mul_comm]
  exact (Nat.pow_le_pow_iff_left (by decide)).mp hfourth

/-- The decimal exponent that is estimated for `2 ^ t`, less 29, is one of a power of ten that is not above. -/
private theorem pow_le_of_estimate {t : Int} (hlow : -1074 ≤ t) (hhigh : t ≤ 1024) {k : Int}
    (hk : k = (t + 1) * 30103 / 100000 - 29) :
    10 ^ k.toNat * 2 ^ (-t).toNat ≤ 2 ^ t.toNat * 10 ^ (-k).toNat := by
  rcases Int.lt_or_le k 0 with hneg | hpos
  · have hk0 : k.toNat = 0 := by omega
    rw [hk0, Nat.pow_zero, Nat.one_mul]
    calc
      2 ^ (-t).toNat ≤ 10 ^ (-k).toNat := two_pow_le_ten_pow (by omega)
      _ ≤ 2 ^ t.toNat * 10 ^ (-k).toNat := Nat.le_mul_of_pos_left _ (Nat.two_pow_pos _)
  · have ht0 : (-t).toNat = 0 := by omega
    rw [ht0, Nat.pow_zero, Nat.mul_one]
    calc
      10 ^ k.toNat ≤ 2 ^ t.toNat := ten_pow_le_two_pow (by omega)
      _ ≤ 2 ^ t.toNat * 10 ^ (-k).toNat := Nat.le_mul_of_pos_right _ (Nat.pow_pos (by decide))

/-! ### Grids -/

namespace Dyadic

private theorem scaledBy_den_pos (n : Nat) (a b : Int) : 0 < (scaledBy n a b).2 :=
  Nat.mul_pos (Nat.two_pow_pos _) (Nat.pow_pos (by decide))

private theorem scaledBy_num_pos {n : Nat} (hn : 0 < n) (a b : Int) : 0 < (scaledBy n a b).1 :=
  Nat.mul_pos (Nat.mul_pos hn (Nat.two_pow_pos _)) (Nat.pow_pos (by decide))

variable {v : Dyadic}

/-- Zero does not round to any other double. -/
private theorem rounds_zero (hv : v.mantissa ≠ 0) (k : Int) : v.rounds (gridPoint 0 k) = false := by
  obtain ⟨low, hlow⟩ : ∃ low, low = scaledBy (4 * v.mantissa - (if v.narrowBelow then 1 else 2)) (v.exponent - 2) 0 :=
    ⟨_, rfl⟩
  have hzero : (gridPoint 0 k).1 = 0 := by simp [gridPoint, scaledBy]
  have hbelow : (gridPoint 0 k).1 * low.2 < low.1 * (gridPoint 0 k).2 := by
    rw [hzero, Nat.zero_mul, hlow]
    refine Nat.mul_pos (scaledBy_num_pos ?_ _ _) (scaledBy_den_pos _ _ _)
    split <;> omega
  have hlt : fracLt (gridPoint 0 k) low = true := decide_eq_true hbelow
  have hgt : fracLt low (gridPoint 0 k) = false := by
    refine decide_eq_false ?_
    rw [hzero, Nat.zero_mul]
    exact Nat.not_lt_zero _
  simp only [rounds, ← hlow, hlt, hgt, Bool.not_true, Bool.false_and, ite_self]

theorem onGrid?_ne_zero (hv : v.mantissa ≠ 0) {k : Int} {d : Nat} (h : v.onGrid? k = some d) : d ≠ 0 := by
  rintro rfl
  have hfits {n : Nat} (hn : v.rounds (gridPoint n k) = true) : n ≠ 0 := by
    rintro rfl
    rw [rounds_zero hv k] at hn
    cases hn
  simp only [onGrid?] at h
  -- the point above is a successor, and the one below is only proposed if it rounds to the double
  split at h
  · next hboth =>
    have hbelow := hfits (Bool.and_eq_true_iff.mp hboth).1
    split at h
    · exact hbelow (Option.some.inj h)
    · split at h
      · cases h
      · split at h
        · exact hbelow (Option.some.inj h)
        · cases h
  · split at h
    · next hone => exact hfits hone (Option.some.inj h)
    · split at h <;> cases h

/-- A search that ends on a grid finer than the double does not end with zero. -/
private theorem search_ne_zero (hv : v.mantissa ≠ 0) {fuel : Nat} {k : Int}
    (hfine : (scaledBy v.mantissa v.exponent (-(k - fuel))).2 ≤ (scaledBy v.mantissa v.exponent (-(k - fuel))).1) :
    (v.search fuel k).1 ≠ 0 := by
  induction fuel generalizing k with
  | zero =>
    rw [Int.natCast_zero, Int.sub_zero] at hfine
    exact Nat.ne_of_gt (Nat.div_pos hfine (scaledBy_den_pos _ _ _))
  | succ fuel ih =>
    rw [search]
    split
    · next d hd => exact onGrid?_ne_zero hv hd
    · refine ih ?_
      rwa [show k - 1 - (fuel : Int) = k - (fuel + 1 : Nat) by omega]

/-! ### The range of doubles -/

/-- The mantissas and the exponents of doubles. -/
private theorem ofBits_range (bits : UInt64) :
    (ofBits bits).mantissa < 2 ^ 53 ∧ -1074 ≤ (ofBits bits).exponent ∧ (ofBits bits).exponent ≤ 972 := by
  have hfraction : bits.toNat % mantissaSpan < mantissaSpan := Nat.mod_lt _ (by decide)
  have hbiased : bits.toNat / mantissaSpan % 2048 < 2048 := Nat.mod_lt _ (by decide)
  have hspan : 2 * mantissaSpan = 2 ^ 53 := by decide
  simp only [ofBits]
  split
  · dsimp only
    omega
  · dsimp only
    omega

theorem le_of_finest (bits : UInt64) (hv : (ofBits bits).mantissa ≠ 0) :
    (scaledBy (ofBits bits).mantissa (ofBits bits).exponent (-((ofBits bits).coarse - (30 : Nat)))).2 ≤
      (scaledBy (ofBits bits).mantissa (ofBits bits).exponent (-((ofBits bits).coarse - (30 : Nat)))).1 := by
  obtain ⟨hmantissa, hlow, hhigh⟩ := ofBits_range bits
  generalize ofBits bits = v at hv hmantissa hlow hhigh
  obtain ⟨l, hl⟩ : ∃ l, l = Nat.log2 v.mantissa := ⟨_, rfl⟩
  have hlog : 2 ^ l ≤ v.mantissa := hl ▸ Nat.log2_self_le hv
  have hl53 : l < 53 := hl ▸ (Nat.log2_lt hv).mpr hmantissa
  obtain ⟨t, ht⟩ : ∃ t : Int, t = l + v.exponent := ⟨_, rfl⟩
  obtain ⟨k, hk⟩ : ∃ k : Int, k = v.coarse - (30 : Nat) := ⟨_, rfl⟩
  have hestimate : k = (t + 1) * 30103 / 100000 - 29 := by
    rw [hk, coarse, ← hl, ht, show (l : Int) + 1 + v.exponent = l + v.exponent + 1 by omega]
    omega
  have hpow := pow_le_of_estimate (by omega) (by omega) hestimate
  have hsplit : 2 ^ (-v.exponent).toNat * 2 ^ t.toNat = 2 ^ l * 2 ^ v.exponent.toNat * 2 ^ (-t).toNat := by
    rw [← Nat.pow_add, ← Nat.pow_add, ← Nat.pow_add]
    congr 1
    omega
  rw [← hk]
  change 2 ^ (-v.exponent).toNat * 10 ^ (- -k).toNat ≤ v.mantissa * 2 ^ v.exponent.toNat * 10 ^ (-k).toNat
  rw [Int.neg_neg]
  refine Nat.le_of_mul_le_mul_right ?_ (Nat.two_pow_pos (-t).toNat)
  calc
    2 ^ (-v.exponent).toNat * 10 ^ k.toNat * 2 ^ (-t).toNat
        = 2 ^ (-v.exponent).toNat * (10 ^ k.toNat * 2 ^ (-t).toNat) := by ac_rfl
    _ ≤ 2 ^ (-v.exponent).toNat * (2 ^ t.toNat * 10 ^ (-k).toNat) := Nat.mul_le_mul_left _ hpow
    _ = 2 ^ (-v.exponent).toNat * 2 ^ t.toNat * 10 ^ (-k).toNat := by ac_rfl
    _ = 2 ^ l * (2 ^ v.exponent.toNat * 10 ^ (-k).toNat * 2 ^ (-t).toNat) := by rw [hsplit]; ac_rfl
    _ ≤ v.mantissa * (2 ^ v.exponent.toNat * 10 ^ (-k).toNat * 2 ^ (-t).toNat) := Nat.mul_le_mul_right _ hlog
    _ = v.mantissa * 2 ^ v.exponent.toNat * 10 ^ (-k).toNat * 2 ^ (-t).toNat := by ac_rfl

private theorem stripZeros_ne_zero {d : Nat} (hd : d ≠ 0) (fuel : Nat) (k : Int) : (stripZeros fuel d k).1 ≠ 0 := by
  induction fuel generalizing d k with
  | zero => exact hd
  | succ fuel ih =>
    rw [stripZeros]
    split
    · exact ih (by omega) _
    · exact hd

/-- The shortest decimal of a double other than zero is not zero. -/
theorem shortest_ne_zero (bits : UInt64) (hv : (ofBits bits).mantissa ≠ 0) : (ofBits bits).shortest.1 ≠ 0 :=
  stripZeros_ne_zero (search_ne_zero hv (le_of_finest bits hv)) _ _

end Dyadic

end GridGateway.Decimal
