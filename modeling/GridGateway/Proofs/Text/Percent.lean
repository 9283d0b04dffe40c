import GridGateway.Text.Percent
import Mathlib.Data.List.Basic

/-!
# Percent-coding is undone by reading

* a text is read back from its UTF-8 bytes and from no others (`ofUtf8Bytes?_utf8Bytes`, `ofUtf8Bytes?_eq_some_iff`),
  and ASCII characters are one byte each (`utf8Bytes_of_ascii`);
* the percent-coded form of a text is read back as the text (`percentDecode?_percentEncode`), and a text of
  unreserved characters is read as it stands (`percentDecode?_of_unreserved`);
* a percent-coded text consists of unreserved characters and percent signs (`mem_percentEncode`), and these are
  letters and digits of ASCII and four marks (`isUnreservedChar_iff`).
-/

namespace GridGateway.Text

/-- The characters that stand for themselves in a URL. -/
def isUnreservedChar (c : Char) : Bool := c.toNat < 0x80 && isUnreserved (.ofNat c.toNat)

/-- Listing the bytes from position `i` on puts those that are left behind the ones already taken. -/
private theorem byteArray_toList_loop (bs : ByteArray) (i : Nat) (taken : List UInt8) :
    ByteArray.toList.loop bs i taken = taken.reverse ++ bs.data.toList.drop i := by
  fun_induction ByteArray.toList.loop bs i taken with
  | case1 i taken h ih =>
    have hget : bs.get! i = bs.data[i] := by
      change bs.data.getD i default = _
      exact dif_pos h
    have hdrop : bs.data.toList.drop i = bs.data[i] :: bs.data.toList.drop (i + 1) := by
      rw [List.drop_eq_getElem_cons (by simpa using h), Array.getElem_toList]
    rw [ih, hget, hdrop, List.reverse_cons, List.append_assoc, List.singleton_append]
  | case2 i taken h =>
    have hdrop : bs.data.toList.drop i = [] := List.drop_eq_nil_of_le (by simpa using Nat.le_of_not_lt h)
    rw [hdrop, List.append_nil]

private theorem byteArray_toList (bs : ByteArray) : bs.toList = bs.data.toList := by
  rw [ByteArray.toList, byteArray_toList_loop, List.reverse_nil, List.nil_append, List.drop_zero]

/-- The UTF-8 bytes of a text are those of its characters, one after the other. -/
private theorem utf8Bytes_eq_flatMap (cs : List Char) : utf8Bytes cs = cs.flatMap String.utf8EncodeChar := by
  rw [utf8Bytes, byteArray_toList, String.toUTF8_eq_toByteArray, String.toByteArray_ofList, List.utf8Encode,
    List.toList_data_toByteArray]

@[simp]
theorem utf8Bytes_nil : utf8Bytes [] = [] := by rw [utf8Bytes_eq_flatMap, List.flatMap_nil]

private theorem utf8Bytes_append (cs ds : List Char) : utf8Bytes (cs ++ ds) = utf8Bytes cs ++ utf8Bytes ds := by
  simp only [utf8Bytes_eq_flatMap, List.flatMap_append]

/-- A text is read back from its UTF-8 bytes. -/
theorem ofUtf8Bytes?_utf8Bytes (cs : List Char) : ofUtf8Bytes? (utf8Bytes cs) = some (String.ofList cs) := by
  have h : (utf8Bytes cs).toByteArray = (String.ofList cs).toByteArray := by
    rw [utf8Bytes_eq_flatMap, String.toByteArray_ofList, List.utf8Encode]
  have hvalid : (String.ofList cs).toByteArray.IsValidUTF8 := (String.ofList cs).isValidUTF8
  rw [ofUtf8Bytes?, h, String.fromUTF8?, dif_pos hvalid]
  rfl

/-- Texts are told by their UTF-8 bytes. -/
theorem utf8Bytes_injective {cs ds : List Char} (h : utf8Bytes cs = utf8Bytes ds) : cs = ds := by
  have hread := congrArg ofUtf8Bytes? h
  rw [ofUtf8Bytes?_utf8Bytes, ofUtf8Bytes?_utf8Bytes, Option.some.injEq, String.ofList_inj] at hread
  exact hread

/-- Bytes are read as a text if and only if they are the UTF-8 bytes of the text. -/
theorem ofUtf8Bytes?_eq_some_iff {bytes : List UInt8} {text : String} :
    ofUtf8Bytes? bytes = some text ↔ bytes = utf8Bytes text.toList := by
  constructor
  · intro h
    rw [ofUtf8Bytes?, String.fromUTF8?] at h
    split at h
    · obtain rfl := Option.some.inj h
      rw [utf8Bytes, String.ofList_toList, byteArray_toList]
      exact List.toList_data_toByteArray.symm
    · cases h
  · rintro rfl
    rw [ofUtf8Bytes?_utf8Bytes, String.ofList_toList]

private theorem utf8EncodeChar_of_ascii {c : Char} (h : c.toNat < 0x80) :
    String.utf8EncodeChar c = [UInt8.ofNat c.toNat] := by
  have hle : c.val.toNat ≤ 0x7f := Nat.le_of_lt_succ h
  unfold String.utf8EncodeChar
  rw [if_pos hle]
  rfl

/-- ASCII characters are one byte each. -/
theorem utf8Bytes_of_ascii {cs : List Char} (h : ∀ c ∈ cs, c.toNat < 0x80) :
    utf8Bytes cs = cs.map fun c => UInt8.ofNat c.toNat := by
  rw [utf8Bytes_eq_flatMap]
  induction cs with
  | nil => rfl
  | cons c cs ih =>
    rw [List.flatMap_cons, utf8EncodeChar_of_ascii (h c (by simp)), ih fun d hd => h d (by simp [hd])]
    rfl

private theorem percentDecodeBytes_cons {b : UInt8} (h : b ≠ 0x25) (rest : List UInt8) :
    percentDecodeBytes (b :: rest) = b :: percentDecodeBytes rest := by
  match rest with
  | [] => rfl
  | [_] => rfl
  | _ :: _ :: _ => rw [percentDecodeBytes, if_neg h]

/-- Bytes among which there is no percent sign stand for themselves. -/
private theorem percentDecodeBytes_of_not_mem {bs : List UInt8} (h : (0x25 : UInt8) ∉ bs) :
    percentDecodeBytes bs = bs := by
  induction bs with
  | nil => rfl
  | cons b bs ih =>
    simp only [List.mem_cons, not_or] at h
    rw [percentDecodeBytes_cons (Ne.symm h.1), ih h.2]

private theorem hexDigit_lt : ∀ n < 16, (hexDigit n).toNat < 0x80 := by decide

private theorem hexValue?_hexDigit :
    ∀ n < 16, hexValue? (UInt8.ofNat (hexDigit n).toNat) = some (UInt8.ofNat n) := by decide

private theorem isUnreservedChar_hexDigit : ∀ n < 16, isUnreservedChar (hexDigit n) = true := by decide

private theorem not_isUnreserved_percent : isUnreserved 0x25 = false := by decide

private theorem lt_of_isUnreserved {b : UInt8} (h : isUnreserved b = true) : b.toNat < 0x80 := by
  simp only [isUnreserved, Bool.or_eq_true, Bool.and_eq_true, decide_eq_true_eq, beq_iff_eq, UInt8.le_iff_toNat_le]
    at h
  rcases h with ((((((h | h) | h) | h) | h) | h) | h)
  · exact Nat.lt_of_le_of_lt h.2 (by decide)
  · exact Nat.lt_of_le_of_lt h.2 (by decide)
  · exact Nat.lt_of_le_of_lt h.2 (by decide)
  all_goals subst h; decide

/-- The code of an ASCII character given by its code. -/
private theorem toNat_charOfNat {n : Nat} (h : n < 0x80) : (Char.ofNat n).toNat = n := by
  have hvalid : n.isValidChar := Or.inl (by omega)
  rw [Char.ofNat, dif_pos hvalid]
  rfl

/-- The written form of a byte is ASCII. -/
private theorem percentByte_ascii (b : UInt8) : ∀ c ∈ percentByte b, c.toNat < 0x80 := by
  have hb : b.toNat < 256 := b.toNat_lt
  intro c hc
  unfold percentByte at hc
  split at hc
  · next h =>
    rw [List.mem_singleton] at hc
    rw [hc, toNat_charOfNat (lt_of_isUnreserved h)]
    exact lt_of_isUnreserved h
  · simp only [List.mem_cons, List.not_mem_nil, or_false] at hc
    rcases hc with rfl | rfl | rfl
    · decide
    · exact hexDigit_lt _ (by omega)
    · exact hexDigit_lt _ (by omega)

/-- The written form of a byte is read as the byte, whatever follows. -/
private theorem percentDecodeBytes_percentByte (b : UInt8) (rest : List UInt8) :
    percentDecodeBytes (utf8Bytes (percentByte b) ++ rest) = b :: percentDecodeBytes rest := by
  have hb : b.toNat < 256 := b.toNat_lt
  rw [utf8Bytes_of_ascii (percentByte_ascii b)]
  unfold percentByte
  split
  · next h =>
    have hne : b ≠ 0x25 := fun e => by rw [e, not_isUnreserved_percent] at h; cases h
    rw [List.map_singleton, toNat_charOfNat (lt_of_isUnreserved h), UInt8.ofNat_toNat, List.singleton_append,
      percentDecodeBytes_cons hne]
  · have hdigits : UInt8.ofNat (b.toNat / 16) * 16 + UInt8.ofNat (b.toNat % 16) = b := by
      rw [← UInt8.toNat_inj]
      simp
      omega
    have hhigh := hexValue?_hexDigit (b.toNat / 16) (by omega)
    have hlow := hexValue?_hexDigit (b.toNat % 16) (by omega)
    change percentDecodeBytes (0x25 :: UInt8.ofNat (hexDigit (b.toNat / 16)).toNat ::
      UInt8.ofNat (hexDigit (b.toNat % 16)).toNat :: rest) = _
    rw [percentDecodeBytes, if_pos rfl, hhigh, hlow]
    simp only [hdigits]

private theorem percentDecodeBytes_flatMap (bs : List UInt8) :
    percentDecodeBytes (utf8Bytes (bs.flatMap percentByte)) = bs := by
  induction bs with
  | nil => rw [List.flatMap_nil, utf8Bytes_nil]; rfl
  | cons b bs ih => rw [List.flatMap_cons, utf8Bytes_append, percentDecodeBytes_percentByte, ih]

/-- The percent-coded form of a text is read back as the text. -/
theorem percentDecode?_percentEncode (s : String) : percentDecode? (percentEncode s).toList = some s := by
  rw [percentDecode?, percentEncode, String.toList_ofList, percentDecodeBytes_flatMap, ofUtf8Bytes?_utf8Bytes,
    String.ofList_toList]

/-- A percent-coded text consists of unreserved characters and percent signs. -/
theorem mem_percentEncode {s : String} {c : Char} (h : c ∈ (percentEncode s).toList) :
    c = '%' ∨ isUnreservedChar c = true := by
  rw [percentEncode, String.toList_ofList, List.mem_flatMap] at h
  obtain ⟨b, -, hc⟩ := h
  have hb : b.toNat < 256 := b.toNat_lt
  unfold percentByte at hc
  split at hc
  · next hu =>
    rw [List.mem_singleton] at hc
    right
    rw [hc, isUnreservedChar, toNat_charOfNat (lt_of_isUnreserved hu), UInt8.ofNat_toNat, hu, Bool.and_true]
    exact decide_eq_true (lt_of_isUnreserved hu)
  · simp only [List.mem_cons, List.not_mem_nil, or_false] at hc
    rcases hc with rfl | rfl | rfl
    · left; rfl
    · right; exact isUnreservedChar_hexDigit _ (by omega)
    · right; exact isUnreservedChar_hexDigit _ (by omega)

/-- A text of unreserved characters is read as it stands. -/
theorem percentDecode?_of_unreserved {cs : List Char} (h : ∀ c ∈ cs, isUnreservedChar c = true) :
    percentDecode? cs = some (String.ofList cs) := by
  have hascii : ∀ c ∈ cs, c.toNat < 0x80 := by
    intro c hc
    have := h c hc
    simp only [isUnreservedChar, Bool.and_eq_true, decide_eq_true_eq] at this
    exact this.1
  have hpercent : (0x25 : UInt8) ∉ utf8Bytes cs := by
    rw [utf8Bytes_of_ascii hascii, List.mem_map]
    rintro ⟨c, hc, e⟩
    have := h c hc
    rw [isUnreservedChar, e, not_isUnreserved_percent, Bool.and_false] at this
    cases this
  rw [percentDecode?, percentDecodeBytes_of_not_mem hpercent, ofUtf8Bytes?_utf8Bytes]

private theorem percentByte_of_isUnreservedChar {c : Char} (h : isUnreservedChar c = true) :
    percentByte (UInt8.ofNat c.toNat) = [c] := by
  rw [isUnreservedChar, Bool.and_eq_true, decide_eq_true_eq] at h
  have hbyte : (UInt8.ofNat c.toNat).toNat = c.toNat := UInt8.toNat_ofNat_of_lt' (Nat.lt_trans h.1 (by decide))
  rw [percentByte, if_pos h.2, hbyte, Char.ofNat_toNat]

/-- A text of unreserved characters is written as it stands. -/
theorem percentEncode_of_unreserved {s : String} (h : ∀ c ∈ s.toList, isUnreservedChar c = true) :
    percentEncode s = s := by
  have hascii : ∀ c ∈ s.toList, c.toNat < 0x80 := by
    intro c hc
    have hunreserved := h c hc
    rw [isUnreservedChar, Bool.and_eq_true, decide_eq_true_eq] at hunreserved
    exact hunreserved.1
  rw [percentEncode, utf8Bytes_of_ascii hascii, List.flatMap_map,
    List.flatMap_congr fun c hc => percentByte_of_isUnreservedChar (h c hc), List.flatMap_singleton']
  exact String.ofList_toList

/-! ### Unreserved characters -/

private theorem isUnreservedChar_ascii : ∀ n < 0x80, isUnreservedChar (Char.ofNat n) =
    ((Char.ofNat n).isAlphanum || ['-', '.', '_', '~'].contains (Char.ofNat n)) := by decide +kernel

private theorem lt_of_isAlphanum {c : Char} (h : c.isAlphanum = true) : c.toNat < 0x80 := by
  have hcases : (c.isUpper || c.isLower || c.isDigit) = true := h
  rw [Bool.or_eq_true, Bool.or_eq_true] at hcases
  rcases hcases with (h | h) | h
  · have hupper : 'A'.val ≤ c.val ∧ c.val ≤ 'Z'.val := of_decide_eq_true h
    exact Nat.lt_of_le_of_lt hupper.2 (by decide)
  · have hlower : decide (c.val ≤ 'z'.val) = true := (Bool.and_eq_true_iff.1 h).2
    exact Nat.lt_of_le_of_lt (of_decide_eq_true hlower) (by decide)
  · have hdigit : decide (c.val ≤ '9'.val) = true := (Bool.and_eq_true_iff.1 h).2
    exact Nat.lt_of_le_of_lt (of_decide_eq_true hdigit) (by decide)

/-- The characters that stand for themselves are the letters and digits of ASCII and four marks. -/
theorem isUnreservedChar_iff {c : Char} :
    isUnreservedChar c = true ↔ c.isAlphanum = true ∨ c ∈ ['-', '.', '_', '~'] := by
  have hmarks : ∀ c ∈ ['-', '.', '_', '~'], c.toNat < 0x80 := by simp
  by_cases hc : c.toNat < 0x80
  · have hascii := isUnreservedChar_ascii c.toNat hc
    rw [Char.ofNat_toNat] at hascii
    rw [hascii, Bool.or_eq_true, List.contains_iff_mem]
  · refine iff_of_false (fun h => ?_) fun h => hc (h.elim lt_of_isAlphanum (hmarks c))
    rw [isUnreservedChar, Bool.and_eq_true, decide_eq_true_eq] at h
    exact hc h.1

theorem isUnreservedChar_of_isDigit {c : Char} (h : c.isDigit = true) : isUnreservedChar c = true :=
  isUnreservedChar_iff.2 (.inl (by rw [Char.isAlphanum, h, Bool.or_true]))

end GridGateway.Text
