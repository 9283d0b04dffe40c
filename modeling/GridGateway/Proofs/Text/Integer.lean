import GridGateway.Proofs.Text.Percent
import GridGateway.Text.Blank
import GridGateway.Text.Integer
import Mathlib.Data.List.TakeWhile

/-!
# Numbers read back from their digits

A natural number is read back from its decimal digits, as long as it fits the width asked for. The digits are never
blank, empty or led by a sign, and a zero leads them only when it is the whole number.  Besides the digits of a number
there are other texts that write it (`WritesNat`), and they are the ones that are read as this number
(`uint64?_eq_some_iff`).  Taking away the blanks around a text leaves what stands between them (`trims_iff`).
-/

namespace GridGateway.Text

theorem isDigit_of_mem_toDigits {n : Nat} {c : Char} (h : c ∈ Nat.toDigits 10 n) : c.isDigit = true :=
  Nat.isDigit_of_mem_toDigits (by decide) (by decide) h

@[simp]
theorem toList_decimal (n : Nat) : (decimal n).toList = Nat.toDigits 10 n := String.toList_ofList

theorem decimal_ne_empty (n : Nat) : decimal n ≠ "" := by
  rw [Ne, ← String.toList_inj, toList_decimal]
  exact Nat.toDigits_ne_nil

/-- A number is written without escapes. -/
theorem unreserved_decimal (n : Nat) : ∀ c ∈ (decimal n).toList, isUnreservedChar c = true := by
  intro c hc
  rw [toList_decimal] at hc
  exact isUnreservedChar_of_isDigit (isDigit_of_mem_toDigits hc)

private theorem toNat_of_isDigit {c : Char} (h : c.isDigit = true) : 48 ≤ c.toNat ∧ c.toNat ≤ 57 := by
  rw [Char.isDigit, Bool.and_eq_true, decide_eq_true_eq, decide_eq_true_eq] at h
  exact h

/-- The digits of a positive number do not begin with a zero. -/
theorem toDigits_head_ne_zero {n : Nat} (hn : 0 < n) : (Nat.toDigits 10 n).head? ≠ some '0' := by
  induction n using Nat.strongRecOn with
  | ind n ih =>
    by_cases h : n < 10
    · rw [Nat.toDigits_of_lt_base h, List.head?_cons, ne_eq, Option.some.injEq, Nat.digitChar_eq_zero]
      omega
    · have hfront := ih (n / 10) (by omega) (by omega)
      rw [Nat.toDigits_of_base_le (by decide) (by omega), List.head?_append]
      cases hcs : Nat.toDigits 10 (n / 10) with
      | nil => exact absurd hcs Nat.toDigits_ne_nil
      | cons c cs => rwa [hcs] at hfront

/-- A natural number is read back from its digits. -/
private theorem natOfChars?_toDigits (n : Nat) : natOfChars? (Nat.toDigits 10 n) = some n := by
  have hall : (Nat.toDigits 10 n).all Char.isDigit = true :=
    List.all_eq_true.mpr fun c hc => isDigit_of_mem_toDigits hc
  have hempty : (Nat.toDigits 10 n).isEmpty = false := List.isEmpty_eq_false_iff.mpr Nat.toDigits_ne_nil
  have hsign : ∀ rest, Nat.toDigits 10 n ≠ '+' :: rest := by
    intro rest e
    have := isDigit_of_mem_toDigits (n := n) (c := '+') (by rw [e]; simp)
    revert this
    decide
  unfold natOfChars?
  split
  · next rest e => exact absurd e (hsign rest)
  · simp only [hall, hempty, Bool.not_false, Bool.and_self, ↓reduceIte, Nat.ofDigitChars_ten_toDigits]

private theorem nat?_decimal (n : Nat) : nat? (decimal n) = some n := by
  rw [nat?, toList_decimal, natOfChars?_toDigits]

/-- A 64-bit number is read back from its digits. -/
theorem uint64?_decimal (n : UInt64) : uint64? (decimal n.toNat) = some n := by
  rw [uint64?, nat?_decimal, Option.bind_some, if_pos n.toNat_lt, UInt64.ofNat_toNat]

/-- A 32-bit number is read back from its digits. -/
theorem uint32?_decimal (n : UInt32) : uint32? (decimal n.toNat) = some n := by
  rw [uint32?, nat?_decimal, Option.bind_some, if_pos n.toNat_lt, UInt32.ofNat_toNat]

/-! ### Texts that write a number -/

/-- The characters write a number: at least one decimal digit, with at most one plus sign in front of the digits. -/
def WritesNat (cs : List Char) (n : Nat) : Prop :=
  ∃ digits, digits ≠ [] ∧ (∀ c ∈ digits, c.isDigit = true) ∧ (cs = digits ∨ cs = '+' :: digits) ∧
    Nat.ofDigitChars 10 digits 0 = n

private theorem natOfChars?_eq_some_iff {cs : List Char} {n : Nat} : natOfChars? cs = some n ↔ WritesNat cs n := by
  have hdigits {ds : List Char} :
      (if !ds.isEmpty && ds.all Char.isDigit then some (Nat.ofDigitChars 10 ds 0) else none) = some n ↔
        ds ≠ [] ∧ (∀ c ∈ ds, c.isDigit = true) ∧ Nat.ofDigitChars 10 ds 0 = n := by
    simp [and_assoc]
  unfold natOfChars?
  refine hdigits.trans ?_
  split
  · next rest =>
    constructor
    · exact fun ⟨hne, hall, hn⟩ => ⟨rest, hne, hall, .inr rfl, hn⟩
    · rintro ⟨ds, hne, hall, rfl | hcs, hn⟩
      · -- a plus sign is no digit
        exact absurd (hall '+' List.mem_cons_self) (by decide)
      · cases hcs
        exact ⟨hne, hall, hn⟩
  · next hsign =>
    constructor
    · exact fun ⟨hne, hall, hn⟩ => ⟨cs, hne, hall, .inl rfl, hn⟩
    · rintro ⟨ds, hne, hall, rfl | hcs, hn⟩
      · exact ⟨hne, hall, hn⟩
      · exact absurd hcs (hsign ds)

/-- The 64-bit number that a text is read as is the one that it writes. -/
theorem uint64?_eq_some_iff {s : String} {n : UInt64} : uint64? s = some n ↔ WritesNat s.toList n.toNat := by
  rw [← natOfChars?_eq_some_iff, uint64?, nat?]
  cases natOfChars? s.toList with
  | none => simp
  | some m =>
    rw [Option.bind_some, Option.some_inj]
    constructor
    · intro h
      split at h
      · next hm =>
        cases h
        exact (UInt64.toNat_ofNat_of_lt' hm).symm
      · cases h
    · rintro rfl
      rw [if_pos n.toNat_lt, UInt64.ofNat_toNat]

theorem uint64?_eq_none_iff {s : String} : uint64? s = none ↔ ∀ n : UInt64, ¬ WritesNat s.toList n.toNat := by
  simp only [← uint64?_eq_some_iff, Option.eq_none_iff_forall_ne_some]

/-! ### Blanks around a text -/

private theorem isBlank_of_isDigit {c : Char} (h : c.isDigit = true) : isBlank c = false := by
  have := toNat_of_isDigit h
  simp only [isBlank, inRanges, blankRanges, List.any_cons, List.any_nil, Bool.or_false, Bool.or_eq_false_iff,
    Bool.and_eq_false_iff, decide_eq_false_iff_not]
  omega

/-- A text without blanks loses nothing when the blanks at its ends are taken away. -/
private theorem trimBlanks_of_no_blank {cs : List Char} (h : ∀ c ∈ cs, isBlank c = false) : trimBlanks cs = cs := by
  have hdrop : ∀ ds : List Char, (∀ c ∈ ds, isBlank c = false) → ds.dropWhile isBlank = ds := by
    intro ds hds
    cases ds with
    | nil => rfl
    | cons d ds => exact List.dropWhile_cons_of_neg (by simp [hds d])
  rw [trimBlanks, hdrop cs h, hdrop cs.reverse fun c hc => h c (List.mem_reverse.mp hc), List.reverse_reverse]

theorem trimBlanks_toDigits (n : Nat) : trimBlanks (Nat.toDigits 10 n) = Nat.toDigits 10 n :=
  trimBlanks_of_no_blank fun _ hc => isBlank_of_isDigit (isDigit_of_mem_toDigits hc)

/-- Between blanks at both ends stand characters that neither begin nor end with a blank. -/
def Trims (cs inner : List Char) : Prop :=
  ∃ before after, cs = before ++ inner ++ after ∧ (∀ c ∈ before, isBlank c = true) ∧ (∀ c ∈ after, isBlank c = true) ∧
    (∀ c ∈ inner.head?, isBlank c = false) ∧ ∀ c ∈ inner.getLast?, isBlank c = false

/-- Characters that do not begin with a blank are left when the ones before them are taken away. -/
private theorem dropWhile_isBlank {front cs : List Char} (hfront : ∀ c ∈ front, isBlank c = true)
    (hcs : ∀ c ∈ cs.head?, isBlank c = false) : (front ++ cs).dropWhile isBlank = cs := by
  rw [List.dropWhile_append_of_pos hfront]
  cases cs with
  | nil => rfl
  | cons c cs => exact List.dropWhile_cons_of_neg (by simp [hcs c rfl])

private theorem head?_dropWhile_isBlank (cs : List Char) : ∀ c ∈ (cs.dropWhile isBlank).head?, isBlank c = false := by
  intro c hc
  have hhead := List.head?_dropWhile_not isBlank cs
  rw [Option.mem_def.1 hc] at hhead
  simpa using hhead

/-- What is left without the blanks at both ends stands between them. -/
theorem trims_iff {cs inner : List Char} : Trims cs inner ↔ inner = trimBlanks cs := by
  constructor
  · rintro ⟨before, after, rfl, hbefore, hafter, hhead, hlast⟩
    by_cases hinner : inner = []
    · -- nothing but blanks
      subst hinner
      have hall : ∀ c ∈ before ++ [] ++ after, isBlank c = true := by
        intro c hc
        rw [List.append_nil, List.mem_append] at hc
        exact hc.elim (hbefore c) (hafter c)
      rw [trimBlanks, List.dropWhile_eq_nil_iff.2 hall]
      rfl
    · have hhead' : ∀ c ∈ (inner ++ after).head?, isBlank c = false := by
        rwa [List.head?_append_of_ne_nil _ hinner]
      have hlast' : ∀ c ∈ inner.reverse.head?, isBlank c = false := by rwa [List.head?_reverse]
      rw [trimBlanks, List.append_assoc, dropWhile_isBlank hbefore hhead', List.reverse_append,
        dropWhile_isBlank (fun c hc => hafter c (List.mem_reverse.1 hc)) hlast', List.reverse_reverse]
  · rintro rfl
    refine ⟨cs.takeWhile isBlank, ((cs.dropWhile isBlank).reverse.takeWhile isBlank).reverse, ?_, ?_, ?_, ?_, ?_⟩
    · rw [trimBlanks, List.append_assoc, ← List.reverse_append, List.takeWhile_append_dropWhile, List.reverse_reverse,
        List.takeWhile_append_dropWhile]
    · exact fun c hc => List.mem_takeWhile_imp hc
    · exact fun c hc => List.mem_takeWhile_imp (List.mem_reverse.1 hc)
    · intro c hc
      obtain ⟨rest, hrest⟩ := (List.dropWhile_suffix isBlank (l := (cs.dropWhile isBlank).reverse)).reverse
      rw [List.reverse_reverse] at hrest
      refine head?_dropWhile_isBlank cs c ?_
      rw [← hrest]
      exact List.mem_head?_append_of_mem_head? hc
    · rw [trimBlanks, List.getLast?_reverse]
      exact head?_dropWhile_isBlank _

end GridGateway.Text
