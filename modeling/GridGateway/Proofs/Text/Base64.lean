import GridGateway.Text.Base64
import Mathlib.Algebra.Order.Ring.Nat
import Mathlib.Data.List.Basic

/-!
# Base64 texts

What base64 is, said in bits: a text `Writes` bytes if its characters, of an alphabet of 64, carry the bits of the
bytes, six each, and then two zeros for each of up to two padding marks behind them.

* What is written is read back (`decode?_encode`), and what is read from a text is what the text writes
  (`decode?_eq_some_iff`); so bytes are written in one way only (`Writes.unique`).
* A text is refused if and only if it has a `Fault`: a foreign character, padding that is missing or in the wrong
  place, or bits left over that are not zero (`decode?_eq_none_iff`).
-/

namespace GridGateway.Text.Base64

/-- The 64 characters, each in the place of the number that it stands for. -/
def alphabet : List Char :=
  ['A', 'B', 'C', 'D', 'E', 'F', 'G', 'H', 'I', 'J', 'K', 'L', 'M', 'N', 'O', 'P', 'Q', 'R', 'S', 'T', 'U', 'V',
    'W', 'X', 'Y', 'Z', 'a', 'b', 'c', 'd', 'e', 'f', 'g', 'h', 'i', 'j', 'k', 'l', 'm', 'n', 'o', 'p', 'q', 'r',
    's', 't', 'u', 'v', 'w', 'x', 'y', 'z', '0', '1', '2', '3', '4', '5', '6', '7', '8', '9', '+', '/']

/-- The number that a character of the alphabet stands for. -/
def place (c : Char) : Nat := alphabet.idxOf c

/-- The lowest `width` bits of a number, the highest one first. -/
def bits (width n : Nat) : List Bool := (List.range width).reverse.map n.testBit

/-- The bits that characters of the alphabet carry. -/
def digitBits (digits : List Char) : List Bool := digits.flatMap fun c => bits 6 (place c)

/-- The bits of bytes. -/
def byteBits (bytes : List UInt8) : List Bool := bytes.flatMap fun b => bits 8 b.toNat

/-- A text writes bytes if it consists of characters of the alphabet and up to two padding marks behind them, and
the bits of the characters are those of the bytes, followed by two zeros for each padding mark. -/
inductive Writes : List Char → List UInt8 → Prop where
  | intro {digits : List Char} {marks : Nat} {bytes : List UInt8} (hdigits : ∀ c ∈ digits, c ∈ alphabet)
    (hmarks : marks ≤ 2) (hbits : digitBits digits = byteBits bytes ++ List.replicate (2 * marks) false) :
    Writes (digits ++ List.replicate marks '=') bytes

/-- The length of the text is a multiple of four, and padding marks stand only at its end, at most two of them. -/
def Padded (cs : List Char) : Prop :=
  cs.length % 4 = 0 ∧ ∃ digits marks, cs = digits ++ List.replicate marks '=' ∧ '=' ∉ digits ∧ marks ≤ 2

/-- What can be wrong with a text. -/
inductive Fault (cs : List Char) : Prop where
  /-- A character is neither in the alphabet nor a padding mark. -/
  | alphabet {c : Char} (hc : c ∈ cs) (halphabet : c ∉ alphabet) (hmark : c ≠ '=') : Fault cs
  /-- The padding is missing, too long or not at the end. -/
  | padding (h : ¬ Padded cs) : Fault cs
  /-- Of the bits of the last character before the padding, those that the padding leaves over are not all zero. -/
  | trailing {digits : List Char} {c : Char} {marks : Nat} (heq : cs = digits ++ c :: List.replicate marks '=')
    (hdigits : '=' ∉ digits) (hc : c ∈ Base64.alphabet) (hbits : place c % 4 ^ marks ≠ 0) : Fault cs

/-! ### Characters -/

private theorem alphabet_eq_map : alphabet = (List.range 64).map digit := by decide +kernel

private theorem value?_digit : ∀ n < 64, value? (digit n) = some n := by decide +kernel

private theorem digit_mem {n : Nat} (hn : n < 64) : digit n ∈ alphabet := by
  rw [alphabet_eq_map]
  exact List.mem_map_of_mem (List.mem_range.2 hn)

private theorem place_lt {c : Char} (hc : c ∈ alphabet) : place c < 64 := List.idxOf_lt_length_of_mem hc

private theorem digit_place {c : Char} (hc : c ∈ alphabet) : digit (place c) = c := by
  have hplace : alphabet[place c]? = some c := List.getElem?_idxOf hc
  rw [alphabet_eq_map, List.getElem?_map, List.getElem?_range (place_lt hc)] at hplace
  exact Option.some.inj hplace

private theorem value?_place {c : Char} (hc : c ∈ alphabet) : value? c = some (place c) := by
  have h := value?_digit (place c) (place_lt hc)
  rwa [digit_place hc] at h

private theorem digit_of_value? {c : Char} {n : Nat} (h : value? c = some n) : n < 64 ∧ digit n = c := by
  have toNat_le {a b : Char} (hab : a ≤ b) : a.toNat ≤ b.toNat := hab
  rw [value?] at h
  split_ifs at h with hupper hlower hnumeral hplus hslash
  · obtain rfl := Option.some.inj h
    have hlow : 0x41 ≤ c.toNat := toNat_le hupper.1
    have hhigh : c.toNat ≤ 0x5a := toNat_le hupper.2
    refine ⟨by omega, ?_⟩
    rw [digit, if_pos (by omega), Nat.add_sub_cancel' hlow, Char.ofNat_toNat]
  · obtain rfl := Option.some.inj h
    have hlow : 0x61 ≤ c.toNat := toNat_le hlower.1
    have hhigh : c.toNat ≤ 0x7a := toNat_le hlower.2
    refine ⟨by omega, ?_⟩
    rw [digit, if_neg (by omega), if_pos (by omega), Nat.add_sub_cancel, Nat.add_sub_cancel' hlow, Char.ofNat_toNat]
  · obtain rfl := Option.some.inj h
    have hlow : 0x30 ≤ c.toNat := toNat_le hnumeral.1
    have hhigh : c.toNat ≤ 0x39 := toNat_le hnumeral.2
    refine ⟨by omega, ?_⟩
    rw [digit, if_neg (by omega), if_neg (by omega), if_pos (by omega), Nat.add_sub_cancel, Nat.add_sub_cancel' hlow,
      Char.ofNat_toNat]
  · obtain rfl := Option.some.inj h
    exact ⟨by decide, hplus.symm⟩
  · obtain rfl := Option.some.inj h
    exact ⟨by decide, hslash.symm⟩

/-- The characters that stand for a number are those of the alphabet, and the number is their place in it. -/
private theorem value?_eq_some_iff {c : Char} {n : Nat} : value? c = some n ↔ c ∈ alphabet ∧ place c = n := by
  constructor
  · intro h
    obtain ⟨hn, rfl⟩ := digit_of_value? h
    have hmem := digit_mem hn
    exact ⟨hmem, Option.some.inj ((value?_place hmem).symm.trans h)⟩
  · rintro ⟨hc, rfl⟩
    exact value?_place hc

private theorem ne_mark {c : Char} (hc : c ∈ alphabet) : c ≠ '=' := by
  rintro rfl
  have hnone : value? '=' = none := by decide
  exact Option.some_ne_none _ ((value?_place hc).symm.trans hnone)

private theorem mark_notMem_alphabet : '=' ∉ alphabet := fun h => ne_mark h rfl

/-! ### Bits -/

private theorem length_bits (width n : Nat) : (bits width n).length = width := by simp [bits]

private theorem length_digitBits (digits : List Char) : (digitBits digits).length = 6 * digits.length := by
  simp [digitBits, length_bits, Nat.mul_comm]

private theorem length_byteBits (bytes : List UInt8) : (byteBits bytes).length = 8 * bytes.length := by
  simp [byteBits, length_bits, Nat.mul_comm]

private theorem bits_zero (width : Nat) : bits width 0 = List.replicate width false := by
  rw [bits, List.map_congr_left fun i _ => Nat.zero_testBit i, List.map_const', List.length_reverse,
    List.length_range]

/-- The bits of a number tell the number, up to what is above them. -/
private theorem bits_eq_iff {width m n : Nat} : bits width m = bits width n ↔ m % 2 ^ width = n % 2 ^ width := by
  rw [bits, bits, List.map_inj_left]
  constructor
  · intro h
    refine Nat.eq_of_testBit_eq fun i => ?_
    rw [Nat.testBit_mod_two_pow, Nat.testBit_mod_two_pow]
    by_cases hi : i < width
    · rw [h i (List.mem_reverse.2 (List.mem_range.2 hi))]
    · simp [hi]
  · intro h i hi
    have hi : i < width := List.mem_range.1 (List.mem_reverse.1 hi)
    have hbit := congrArg (Nat.testBit · i) h
    simpa [Nat.testBit_mod_two_pow, hi] using hbit

/-- The upper bits of a number, and then the lower ones. -/
private theorem bits_add (m n k : Nat) : bits (m + n) k = bits m (k / 2 ^ n) ++ bits n k := by
  have hupper : (List.range m).map (k.testBit ∘ (n + ·)) = (List.range m).map (k / 2 ^ n).testBit := by
    refine List.map_congr_left fun i _ => ?_
    rw [Function.comp_apply, Nat.testBit_div_two_pow, Nat.add_comm]
  rw [bits, Nat.add_comm, List.range_add, List.reverse_append, List.map_append, ← List.map_reverse, List.map_map,
    List.map_reverse, hupper, ← List.map_reverse]
  rfl

/-- The bits of the two parts of a number. -/
private theorem bits_split (m n k : Nat) : bits (m + n) k = bits m (k / 2 ^ n) ++ bits n (k % 2 ^ n) := by
  rw [bits_add, bits_eq_iff.2 (Nat.mod_mod k (2 ^ n))]

/-- The bits of a number that is put together from two parts. -/
private theorem bits_join (m n : Nat) {a b : Nat} (hb : b < 2 ^ n) :
    bits (m + n) (a * 2 ^ n + b) = bits m a ++ bits n b := by
  have hupper : (a * 2 ^ n + b) / 2 ^ n = a := by
    rw [Nat.mul_comm, Nat.mul_add_div (Nat.two_pow_pos n), Nat.div_eq_of_lt hb, Nat.add_zero]
  have hlower : bits n (a * 2 ^ n + b) = bits n b := bits_eq_iff.2 (Nat.mul_add_mod_self_right _ _ _)
  rw [bits_add, hupper, hlower]

/-- Two groups of six bits are a byte and four bits more. -/
private theorem bits_two (x : Nat) {y : Nat} (hy : y < 64) :
    bits 6 x ++ bits 6 y = bits 8 (x * 4 + y / 16) ++ bits 4 (y % 16) := by
  have hbyte : bits 8 (x * 4 + y / 16) = bits 6 x ++ bits 2 (y / 16) := bits_join 6 2 (by omega)
  have hsplit : bits 6 y = bits 2 (y / 16) ++ bits 4 (y % 16) := bits_split 2 4 y
  rw [hbyte, hsplit, List.append_assoc]

/-- Three groups of six bits are two bytes and two bits more. -/
private theorem bits_three (x : Nat) {y z : Nat} (hy : y < 64) (hz : z < 64) :
    bits 6 x ++ bits 6 y ++ bits 6 z =
      bits 8 (x * 4 + y / 16) ++ bits 8 (y % 16 * 16 + z / 4) ++ bits 2 (z % 4) := by
  have hbyte : bits 8 (y % 16 * 16 + z / 4) = bits 4 (y % 16) ++ bits 4 (z / 4) := bits_join 4 4 (by omega)
  have hsplit : bits 6 z = bits 4 (z / 4) ++ bits 2 (z % 4) := bits_split 4 2 z
  rw [bits_two x hy, hbyte, hsplit, List.append_assoc, List.append_assoc, List.append_assoc]

/-- Four groups of six bits are three bytes. -/
private theorem bits_four (x : Nat) {y z w : Nat} (hy : y < 64) (hz : z < 64) (hw : w < 64) :
    bits 6 x ++ bits 6 y ++ bits 6 z ++ bits 6 w =
      bits 8 (x * 4 + y / 16) ++ bits 8 (y % 16 * 16 + z / 4) ++ bits 8 (z % 4 * 64 + w) := by
  have hbyte : bits 8 (z % 4 * 64 + w) = bits 2 (z % 4) ++ bits 6 w := bits_join 2 6 (by omega)
  rw [bits_three x hy hz, hbyte, List.append_assoc]

private theorem bits_byte {n : Nat} (h : n < 256) : bits 8 (UInt8.ofNat n).toNat = bits 8 n := by
  rw [UInt8.toNat_ofNat_of_lt' h]

/-- Characters of the alphabet are told by their bits. -/
private theorem digitBits_injective {ds ds' : List Char} (hds : ∀ c ∈ ds, c ∈ alphabet) (hds' : ∀ c ∈ ds', c ∈ alphabet)
    (h : digitBits ds = digitBits ds') : ds = ds' := by
  have hlength := congrArg List.length h
  rw [length_digitBits, length_digitBits] at hlength
  induction ds generalizing ds' with
  | nil =>
    rw [List.length_nil] at hlength
    exact (List.length_eq_zero_iff.1 (by omega)).symm
  | cons c ds ih =>
    rw [List.length_cons] at hlength
    cases ds' with
    | nil =>
      rw [List.length_nil] at hlength
      omega
    | cons c' ds' =>
      rw [List.length_cons] at hlength
      rw [List.forall_mem_cons] at hds hds'
      obtain ⟨hfirst, hrest⟩ := List.append_inj h (by rw [length_bits, length_bits])
      have hplace : place c % 64 = place c' % 64 := bits_eq_iff.1 hfirst
      rw [Nat.mod_eq_of_lt (place_lt hds.1), Nat.mod_eq_of_lt (place_lt hds'.1)] at hplace
      have hc : c = c' := by rw [← digit_place hds.1, hplace, digit_place hds'.1]
      rw [hc, ih hds.2 hds'.2 hrest (by omega)]

/-! ### The reader, group by group -/

private theorem decode?_cons {s : Char} (p q r : Char) (hs : s ≠ '=') (rest : List Char) :
    decode? (p :: q :: r :: s :: rest) = (do
      let x ← value? p
      let y ← value? q
      let z ← value? r
      let w ← value? s
      let bytes ← decode? rest
      return .ofNat (x * 4 + y / 16) :: .ofNat (y % 16 * 16 + z / 4) :: .ofNat (z % 4 * 64 + w) :: bytes) := by
  rw [decode?]
  · simp [hs]
  · simp [hs]

private theorem decode?_pair (p q : Char) :
    decode? [p, q, '=', '='] = (do
      let x ← value? p
      let y ← value? q
      if y % 16 = 0 then return [.ofNat (x * 4 + y / 16)] else none) := by
  rw [decode?]

private theorem decode?_triple {r : Char} (p q : Char) (hr : r ≠ '=') :
    decode? [p, q, r, '='] = (do
      let x ← value? p
      let y ← value? q
      let z ← value? r
      if z % 4 = 0 then return [.ofNat (x * 4 + y / 16), .ofNat (y % 16 * 16 + z / 4)] else none) := by
  rw [decode?]
  simp [hr]

/-- What is written is read back. -/
theorem decode?_encode (bytes : List UInt8) : decode? (encode bytes) = some bytes := by
  fun_induction encode bytes with
  | case1 => rfl
  | case2 a =>
    have ha : a.toNat < 256 := a.toNat_lt
    have hzero : a.toNat % 4 * 16 % 16 = 0 := by omega
    have hbyte : a.toNat / 4 * 4 + a.toNat % 4 * 16 / 16 = a.toNat := by omega
    rw [decode?_pair, value?_digit _ (by omega), value?_digit _ (by omega)]
    simp only [Option.bind_eq_bind, Option.bind_some, hzero, ↓reduceIte, hbyte, UInt8.ofNat_toNat, Option.pure_def]
  | case3 a b =>
    have ha : a.toNat < 256 := a.toNat_lt
    have hb : b.toNat < 256 := b.toNat_lt
    have hzero : b.toNat % 16 * 4 % 4 = 0 := by omega
    have hfirst : a.toNat / 4 * 4 + (a.toNat % 4 * 16 + b.toNat / 16) / 16 = a.toNat := by omega
    have hsecond : (a.toNat % 4 * 16 + b.toNat / 16) % 16 * 16 + b.toNat % 16 * 4 / 4 = b.toNat := by omega
    rw [decode?_triple _ _ (ne_mark (digit_mem (by omega))), value?_digit _ (by omega), value?_digit _ (by omega),
      value?_digit _ (by omega)]
    simp only [Option.bind_eq_bind, Option.bind_some, hzero, ↓reduceIte, hfirst, hsecond, UInt8.ofNat_toNat,
      Option.pure_def]
  | case4 a b c rest ih =>
    have ha : a.toNat < 256 := a.toNat_lt
    have hb : b.toNat < 256 := b.toNat_lt
    have hc : c.toNat < 256 := c.toNat_lt
    have hfirst : a.toNat / 4 * 4 + (a.toNat % 4 * 16 + b.toNat / 16) / 16 = a.toNat := by omega
    have hsecond :
        (a.toNat % 4 * 16 + b.toNat / 16) % 16 * 16 + (b.toNat % 16 * 4 + c.toNat / 64) / 4 = b.toNat := by
      omega
    have hthird : (b.toNat % 16 * 4 + c.toNat / 64) % 4 * 64 + c.toNat % 64 = c.toNat := by omega
    rw [decode?_cons _ _ _ (ne_mark (digit_mem (by omega))), value?_digit _ (by omega), value?_digit _ (by omega),
      value?_digit _ (by omega), value?_digit _ (by omega), ih]
    simp only [Option.bind_eq_bind, Option.bind_some, hfirst, hsecond, hthird, UInt8.ofNat_toNat, Option.pure_def]

/-- What is read from a text is what the text writes. -/
private theorem writes_of_decode? {cs : List Char} {bytes : List UInt8} (h : decode? cs = some bytes) :
    Writes cs bytes := by
  -- group by group: only a last one can be padded, and then the bits that are left over are known to be zero
  fun_induction decode? cs generalizing bytes with
  | case1 =>
    obtain rfl := Option.some.inj h
    exact @Writes.intro [] 0 [] nofun (by decide) rfl
  | case2 p q =>
    simp only [Option.bind_eq_bind, Option.bind_eq_some_iff, value?_eq_some_iff] at h
    obtain ⟨x, ⟨hp, rfl⟩, y, ⟨hq, rfl⟩, h⟩ := h
    obtain ⟨hzero, h⟩ := Option.ite_none_right_eq_some.1 h
    obtain rfl := Option.some.inj h
    have hx := place_lt hp
    have hy := place_lt hq
    refine @Writes.intro [p, q] 2 _ (by simp [hp, hq]) (by decide) ?_
    simp only [digitBits, byteBits, List.flatMap_cons, List.flatMap_nil, List.append_nil]
    rw [bits_byte (by omega), bits_two _ hy, hzero, bits_zero]
  | case3 p q r =>
    simp only [Option.bind_eq_bind, Option.bind_eq_some_iff, value?_eq_some_iff] at h
    obtain ⟨x, ⟨hp, rfl⟩, y, ⟨hq, rfl⟩, z, ⟨hr, rfl⟩, h⟩ := h
    obtain ⟨hzero, h⟩ := Option.ite_none_right_eq_some.1 h
    obtain rfl := Option.some.inj h
    have hx := place_lt hp
    have hy := place_lt hq
    have hz := place_lt hr
    refine @Writes.intro [p, q, r] 1 _ (by simp [hp, hq, hr]) (by decide) ?_
    simp only [digitBits, byteBits, List.flatMap_cons, List.flatMap_nil, List.append_nil]
    rw [bits_byte (by omega), bits_byte (by omega), ← List.append_assoc, bits_three _ hy hz, hzero, bits_zero]
  | case4 p q r s rest _ _ ih =>
    simp only [Option.bind_eq_bind, Option.bind_eq_some_iff, value?_eq_some_iff] at h
    obtain ⟨x, ⟨hp, rfl⟩, y, ⟨hq, rfl⟩, z, ⟨hr, rfl⟩, w, ⟨hs, rfl⟩, bytes, hrest, h⟩ := h
    obtain rfl := Option.some.inj h
    have hx := place_lt hp
    have hy := place_lt hq
    have hz := place_lt hr
    have hw := place_lt hs
    obtain @⟨digits, marks, _, hdigits, hmarks, hbits⟩ := ih hrest
    refine @Writes.intro (p :: q :: r :: s :: digits) marks _ (by simpa [hp, hq, hr, hs] using hdigits) hmarks ?_
    have hgroup := bits_four (place p) hy hz hw
    simp only [digitBits, byteBits, List.flatMap_cons, ← List.append_assoc] at hbits ⊢
    rw [bits_byte (by omega), bits_byte (by omega), bits_byte (by omega), hgroup, List.append_assoc, hbits]
    simp only [List.append_assoc]
  | case5 => cases h

theorem writes_encode (bytes : List UInt8) : Writes (encode bytes) bytes := writes_of_decode? (decode?_encode bytes)

/-- Bytes are written in one way. -/
theorem Writes.unique {cs cs' : List Char} {bytes : List UInt8} (h : Writes cs bytes) (h' : Writes cs' bytes) :
    cs = cs' := by
  obtain @⟨ds, marks, _, hds, hmarks, hbits⟩ := h
  obtain @⟨ds', marks', _, hds', hmarks', hbits'⟩ := h'
  have hlength := congrArg List.length hbits
  have hlength' := congrArg List.length hbits'
  rw [length_digitBits, List.length_append, length_byteBits, List.length_replicate] at hlength hlength'
  -- six bits a character and two a mark are eight bits a byte, so the bytes tell the number of marks
  obtain rfl : marks = marks' := by omega
  rw [digitBits_injective hds hds' (hbits.trans hbits'.symm)]

/-- A text is read as the bytes that it writes. -/
theorem decode?_eq_some_iff {cs : List Char} {bytes : List UInt8} : decode? cs = some bytes ↔ Writes cs bytes := by
  refine ⟨writes_of_decode?, fun h => ?_⟩
  rw [h.unique (writes_encode bytes), decode?_encode]

/-! ### Faults -/

/-- Padded characters of the alphabet are read if the bits that the padding leaves over are zero. -/
private theorem exists_decode? : (digits : List Char) → (marks : Nat) → (∀ c ∈ digits, c ∈ alphabet) → marks ≤ 2 →
    (digits.length + marks) % 4 = 0 → (∀ ds c, digits = ds ++ [c] → place c % 4 ^ marks = 0) →
    ∃ bytes, decode? (digits ++ List.replicate marks '=') = some bytes
  | [], marks, _, hmarks, hlength, _ => by
    obtain rfl : marks = 0 := by simp at hlength; omega
    exact ⟨[], rfl⟩
  | [_], marks, _, hmarks, hlength, _ => by simp at hlength; omega
  | [p, q], marks, hdigits, hmarks, hlength, hzero => by
    obtain rfl : marks = 2 := by simp at hlength; omega
    have hq : place q % 16 = 0 := hzero [p] q rfl
    simp only [List.forall_mem_cons] at hdigits
    refine ⟨[.ofNat (place p * 4 + place q / 16)], ?_⟩
    change decode? [p, q, '=', '='] = _
    rw [decode?_pair, value?_place hdigits.1, value?_place hdigits.2.1]
    exact if_pos hq
  | [p, q, r], marks, hdigits, hmarks, hlength, hzero => by
    obtain rfl : marks = 1 := by simp at hlength; omega
    have hr : place r % 4 = 0 := hzero [p, q] r rfl
    simp only [List.forall_mem_cons] at hdigits
    refine ⟨[.ofNat (place p * 4 + place q / 16), .ofNat (place q % 16 * 16 + place r / 4)], ?_⟩
    change decode? [p, q, r, '='] = _
    rw [decode?_triple p q (ne_mark hdigits.2.2.1), value?_place hdigits.1, value?_place hdigits.2.1,
      value?_place hdigits.2.2.1]
    exact if_pos hr
  | p :: q :: r :: s :: digits, marks, hdigits, hmarks, hlength, hzero => by
    simp only [List.forall_mem_cons] at hdigits
    obtain ⟨hp, hq, hr, hs, hrest⟩ := hdigits
    obtain ⟨bytes, h⟩ := exists_decode? digits marks hrest hmarks (by simp at hlength; omega)
      fun ds c e => hzero (p :: q :: r :: s :: ds) c (by rw [e]; rfl)
    rw [List.cons_append, List.cons_append, List.cons_append, List.cons_append, decode?_cons p q r (ne_mark hs),
      value?_place hp, value?_place hq, value?_place hr, value?_place hs, h]
    exact ⟨_, rfl⟩

/-- Padding marks are told apart from what is in front of them. -/
private theorem append_marks_inj {ds ds' : List Char} {marks marks' : Nat} (hds : '=' ∉ ds) (hds' : '=' ∉ ds')
    (h : ds ++ List.replicate marks '=' = ds' ++ List.replicate marks' '=') : ds = ds' ∧ marks = marks' := by
  have hcount := congrArg (List.count '=') h
  rw [List.count_append, List.count_append, List.count_replicate_self, List.count_replicate_self,
    List.count_eq_zero.2 hds, List.count_eq_zero.2 hds', Nat.zero_add, Nat.zero_add] at hcount
  subst hcount
  exact ⟨List.append_cancel_right h, rfl⟩

/-- The bits of the last character that the padding leaves over are zero. -/
private theorem place_mod_of_bits {ds : List Char} {c : Char} {marks : Nat} {bytes : List UInt8} (hmarks : marks ≤ 2)
    (h : digitBits (ds ++ [c]) = byteBits bytes ++ List.replicate (2 * marks) false) : place c % 4 ^ marks = 0 := by
  have hsplit := bits_add (6 - 2 * marks) (2 * marks) (place c)
  rw [Nat.sub_add_cancel (by omega)] at hsplit
  have hlast : digitBits (ds ++ [c]) = digitBits ds ++ bits 6 (place c) := by
    rw [digitBits, List.flatMap_append, List.flatMap_singleton]
    rfl
  rw [hlast, hsplit, ← List.append_assoc] at h
  have hzero := List.append_inj_right' h (by rw [length_bits, List.length_replicate])
  rw [← bits_zero, bits_eq_iff, Nat.zero_mod, Nat.pow_mul] at hzero
  exact hzero

/-- A text that writes bytes has no fault. -/
private theorem Writes.not_fault {cs : List Char} {bytes : List UInt8} (h : Writes cs bytes) : ¬ Fault cs := by
  obtain @⟨digits, marks, _, hdigits, hmarks, hbits⟩ := h
  have hmark : '=' ∉ digits := fun h => mark_notMem_alphabet (hdigits _ h)
  rintro (⟨hc, halphabet, hne⟩ | hpadding | @⟨ds, c, marks', heq, hds, hc, hplace⟩)
  · rcases List.mem_append.1 hc with hc | hc
    · exact halphabet (hdigits _ hc)
    · exact hne (List.eq_of_mem_replicate hc)
  · have hlength := congrArg List.length hbits
    rw [length_digitBits, List.length_append, length_byteBits, List.length_replicate] at hlength
    refine hpadding ⟨?_, digits, marks, rfl, hmark, hmarks⟩
    rw [List.length_append, List.length_replicate]
    omega
  · have hlast : '=' ∉ ds ++ [c] := by simpa [hds] using (ne_mark hc).symm
    rw [List.append_cons] at heq
    obtain ⟨rfl, rfl⟩ := append_marks_inj hmark hlast heq
    exact hplace (place_mod_of_bits hmarks hbits)

/-- A text is refused if and only if it has a fault. -/
theorem decode?_eq_none_iff {cs : List Char} : decode? cs = none ↔ Fault cs := by
  constructor
  · intro hnone
    by_contra hfault
    have hpadded : Padded cs := by_contra fun h => hfault (.padding h)
    obtain ⟨hlength, digits, marks, rfl, hmark, hmarks⟩ := hpadded
    have hdigits : ∀ c ∈ digits, c ∈ alphabet := fun c hc => by_contra fun h =>
      hfault (.alphabet (List.mem_append_left _ hc) h fun e => hmark (e ▸ hc))
    have hzero : ∀ ds c, digits = ds ++ [c] → place c % 4 ^ marks = 0 := by
      rintro ds c rfl
      refine by_contra fun h => hfault (.trailing (List.append_cons _ _ _).symm (fun e => ?_) (hdigits c (by simp)) h)
      exact hmark (List.mem_append_left _ e)
    rw [List.length_append, List.length_replicate] at hlength
    obtain ⟨bytes, hsome⟩ := exists_decode? digits marks hdigits hmarks hlength hzero
    rw [hnone] at hsome
    cases hsome
  · intro hfault
    cases h : decode? cs with
    | none => rfl
    | some bytes => exact absurd hfault (writes_of_decode? h).not_fault

end GridGateway.Text.Base64
