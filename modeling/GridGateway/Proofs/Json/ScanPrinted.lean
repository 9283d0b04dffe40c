import GridGateway.Json.Decoder
import GridGateway.Proofs.Json.ScanFloat

/-!
# Scanning printed documents

The text of a document whose whole numbers fit 64 bits is scanned to the document with its doubles read again, and
nothing is left over.  Without doubles that is the document itself.

* `scanString_escaped`: the escapes of a string give back its characters.
* `scanValue_chars`, by induction over the document together with its items and members, for every text that may
  follow.
* `scan_text`, `Decoder.ofText_printed`: the statements about whole texts.
-/

namespace GridGateway.Json

mutual
/-- All numbers of the document are whole and fit 64 bits. -/
def Exact : Json → Prop
  | .int n => InRange n
  | .float _ => False
  | .arr items => ExactItems items
  | .obj members => ExactMembers members
  | _ => True

/-- `Exact` for all items of a list. -/
def ExactItems : List Json → Prop
  | [] => True
  | v :: vs => Exact v ∧ ExactItems vs

/-- `Exact` for the values of all members. -/
def ExactMembers : List (String × Json) → Prop
  | [] => True
  | (_, v) :: ms => Exact v ∧ ExactMembers ms
end

mutual
/-- All whole numbers of the document fit 64 bits. -/
def Bounded : Json → Prop
  | .int n => InRange n
  | .arr items => BoundedItems items
  | .obj members => BoundedMembers members
  | _ => True

/-- `Bounded` for all items of a list. -/
def BoundedItems : List Json → Prop
  | [] => True
  | v :: vs => Bounded v ∧ BoundedItems vs

/-- `Bounded` for the values of all members. -/
def BoundedMembers : List (String × Json) → Prop
  | [] => True
  | (_, v) :: ms => Bounded v ∧ BoundedMembers ms
end

/-- What the text of a double is read as. -/
def reread (x : Float) : Draft := (scanValue 1 (floatText x).toList).1

mutual
/-- The draft of a document whose doubles are read as `read` says. -/
def draft (read : Float → Draft) : Json → Draft
  | .null => .null
  | .bool b => .bool b
  | .int n => .int n
  | .float x => read x
  | .str s => .str s
  | .arr items => .arr (draftItems read items)
  | .obj members => .obj (draftMembers read members)

/-- The drafts of the items of a list. -/
def draftItems (read : Float → Draft) : List Json → List Draft
  | [] => []
  | v :: vs => draft read v :: draftItems read vs

/-- The drafts of the members of an object. -/
def draftMembers (read : Float → Draft) : List (String × Json) → List (Draft × Draft)
  | [] => []
  | (k, v) :: ms => (.str k, draft read v) :: draftMembers read ms
end

mutual
/-- A document without doubles is bounded, and its draft is that of a sound document. -/
theorem Exact.bounded_draft (read : Float → Draft) : (v : Json) → v.Exact → v.Bounded ∧ v.draft read = .ofJson v
  | .null, _ => ⟨trivial, rfl⟩
  | .bool _, _ => ⟨trivial, rfl⟩
  | .int _, hv => ⟨hv, rfl⟩
  | .str _, _ => ⟨trivial, rfl⟩
  | .arr items, hv =>
    have h := ExactItems.bounded_draft read items hv
    ⟨h.1, congrArg Draft.arr h.2⟩
  | .obj members, hv =>
    have h := ExactMembers.bounded_draft read members hv
    ⟨h.1, congrArg Draft.obj h.2⟩

/-- `Exact.bounded_draft` for the items of a list. -/
theorem ExactItems.bounded_draft (read : Float → Draft) :
    (vs : List Json) → ExactItems vs → BoundedItems vs ∧ draftItems read vs = Draft.ofItems vs
  | [], _ => ⟨trivial, rfl⟩
  | v :: vs, hv =>
    have h := Exact.bounded_draft read v hv.1
    have hs := ExactItems.bounded_draft read vs hv.2
    ⟨⟨h.1, hs.1⟩, by rw [draftItems, h.2, hs.2, Draft.ofItems]⟩

/-- `Exact.bounded_draft` for the members of an object. -/
theorem ExactMembers.bounded_draft (read : Float → Draft) :
    (ms : List (String × Json)) → ExactMembers ms → BoundedMembers ms ∧ draftMembers read ms = Draft.ofMembers ms
  | [], _ => ⟨trivial, rfl⟩
  | (k, v) :: ms, hv =>
    have h := Exact.bounded_draft read v hv.1
    have hs := ExactMembers.bounded_draft read ms hv.2
    ⟨⟨h.1, hs.1⟩, by rw [draftMembers, h.2, hs.2, Draft.ofMembers]⟩
end

mutual
/-- A sound document is the draft in which doubles are kept. -/
theorem draft_float : (v : Json) → v.draft .float = .ofJson v
  | .null => rfl
  | .bool _ => rfl
  | .int _ => rfl
  | .float _ => rfl
  | .str _ => rfl
  | .arr items => congrArg Draft.arr (draftItems_float items)
  | .obj members => congrArg Draft.obj (draftMembers_float members)

/-- `draft_float` for the items of a list. -/
private theorem draftItems_float : (vs : List Json) → draftItems .float vs = Draft.ofItems vs
  | [] => rfl
  | v :: vs => by rw [draftItems, draft_float v, draftItems_float vs, Draft.ofItems]

/-- `draft_float` for the members of an object. -/
private theorem draftMembers_float : (ms : List (String × Json)) → draftMembers .float ms = Draft.ofMembers ms
  | [] => rfl
  | (k, v) :: ms => by rw [draftMembers, draft_float v, draftMembers_float ms, Draft.ofMembers]
end

/-! ### Strings -/

private theorem hexDigitValue?_lowHexDigit : ∀ k < 16, hexDigitValue? (lowHexDigit k) = some k := by decide

/-- Both digits of a control character's escape are read back. -/
private theorem hex4?_control {n : Nat} (hn : n < 0x20) :
    hex4? '0' '0' (lowHexDigit (n / 16)) (lowHexDigit (n % 16)) = some n := by
  have hhigh := hexDigitValue?_lowHexDigit (n / 16) (by omega)
  have hlow := hexDigitValue?_lowHexDigit (n % 16) (by omega)
  have hzero : hexDigitValue? '0' = some 0 := by decide
  simp only [hex4?, hhigh, hlow, hzero, Option.bind_eq_bind, Option.bind_some, Option.pure_def, Option.some.injEq]
  omega

/-- One escaped character is read back. -/
private theorem scanString_escapeChar (seen : List Char) (c : Char) (tail : List Char) :
    scanString (some seen) none (escapeChar c ++ tail) = scanString (some (c :: seen)) none tail := by
  by_cases hquote : c = '"'
  · subst hquote; rfl
  by_cases hback : c = '\\'
  · subst hback; rfl
  by_cases hn : c = '\n'
  · subst hn; rfl
  by_cases hr : c = '\r'
  · subst hr; rfl
  by_cases ht : c = '\t'
  · subst ht; rfl
  by_cases hb : c = '\x08'
  · subst hb; rfl
  by_cases hf : c = '\x0c'
  · subst hf; rfl
  rw [escapeChar, if_neg hquote, if_neg hback, if_neg hn, if_neg hr, if_neg ht, if_neg hb, if_neg hf]
  by_cases hlow : c.toNat < 0x20
  · have hhigh : isHighSurrogate c.toNat = false := by simp [isHighSurrogate]; omega
    have hsecond : isLowSurrogate c.toNat = false := by simp [isLowSurrogate]; omega
    simp only [hlow, ↓reduceIte, List.cons_append, List.nil_append, scanString, hex4?_control hlow, hhigh, hsecond,
      Bool.false_eq_true, Seen.close, Option.isSome_none, Option.map_some, Char.ofNat_toNat]
  · have hplain : ¬ (c.toNat < 0x20 ∨ c = '\\') := by
      rintro (h | h)
      · exact hlow h
      · exact hback h
    rw [if_neg hlow, List.singleton_append, scanString, if_neg hplain]
    · rfl
    all_goals simp [hquote, hback]

/-- The escaped characters of a string and the closing quote are read as the string. -/
theorem scanString_escaped (seen cs rest : List Char) :
    scanString (some seen) none (cs.flatMap escapeChar ++ '"' :: rest) =
      some (.str (String.ofList (seen.reverse ++ cs)), rest) := by
  induction cs generalizing seen with
  | nil => simp [scanString, Seen.close]
  | cons c cs ih =>
    rw [List.flatMap_cons, List.append_assoc, scanString_escapeChar, ih, List.reverse_cons, List.append_assoc,
      List.singleton_append]

/-- A printed string is scanned back. -/
private theorem scanValue_stringChars (fuel : Nat) (s : String) (rest : List Char) :
    scanValue (fuel + 1) (stringChars s ++ rest) = (.str s, some rest) := by
  have hbody := scanString_escaped [] s.toList rest
  rw [List.reverse_nil, List.nil_append, String.ofList_toList] at hbody
  change ended (scanString (some []) none ((s.toList.flatMap escapeChar ++ ['"']) ++ rest)) = _
  rw [List.append_assoc, List.singleton_append, hbody]
  rfl

/-! ### The first character of a value -/

/-- A character that a value may start with: no blank and no closing bracket. -/
private def Opens (c : Char) : Prop := isGap c = false ∧ c ≠ ']' ∧ c ≠ '\x7d'

/-- Neither a sign nor a digit is a blank or opens anything but a number. -/
private theorem numeral_ne {c : Char} (hc : c = '-' ∨ c.isDigit = true) {d : Char}
    (hd : d ≠ '-' ∧ d.isDigit = false) :
    c ≠ d := by
  rintro rfl
  rcases hc with h | h
  · exact hd.1 h
  · rw [hd.2] at h
    cases h

private theorem opens_numeral {c : Char} (hc : c = '-' ∨ c.isDigit = true) : Opens c := by
  refine ⟨?_, numeral_ne hc (by decide), numeral_ne hc (by decide)⟩
  have hblank := numeral_ne hc (d := ' ') (by decide)
  have hline := numeral_ne hc (d := '\n') (by decide)
  have htab := numeral_ne hc (d := '\t') (by decide)
  have hreturn := numeral_ne hc (d := '\r') (by decide)
  simp [isGap, hblank, hline, htab, hreturn]

/-- A double is written as nothing or as a number. -/
private theorem floatText_cases (x : Float) : floatText x = "null" ∨ IsNumber (floatText x).toList := by
  rw [floatText]
  cases hx : x.isNaN || x.isInf with
  | true => exact .inl rfl
  | false => exact .inr (isNumber_shortestText hx)

private theorem chars_head (v : Json) : ∃ c cs, v.chars = c :: cs ∧ Opens c := by
  cases v with
  | null => exact ⟨'n', _, rfl, by decide, by decide, by decide⟩
  | bool b =>
    cases b with
    | true => exact ⟨'t', _, rfl, by decide, by decide, by decide⟩
    | false => exact ⟨'f', _, rfl, by decide, by decide, by decide⟩
  | int n =>
    obtain ⟨c, cs, h, hc⟩ := (isNumber_signedDecimal n).head
    exact ⟨c, cs, h, opens_numeral hc⟩
  | float x =>
    rcases floatText_cases x with h | h
    · exact ⟨'n', _, congrArg String.toList h, by decide, by decide, by decide⟩
    · obtain ⟨c, cs, h, hc⟩ := h.head
      exact ⟨c, cs, h, opens_numeral hc⟩
  | str s => exact ⟨'"', _, rfl, by decide, by decide, by decide⟩
  | arr items => exact ⟨'[', _, rfl, by decide, by decide, by decide⟩
  | obj members => exact ⟨'\x7b', _, rfl, by decide, by decide, by decide⟩

/-- Blanks are skipped in front of nothing that opens a value. -/
private theorem skipGaps_of_opens {c : Char} (hc : Opens c) (cs : List Char) : skipGaps (c :: cs) = c :: cs := by
  rw [skipGaps, List.dropWhile_cons_of_neg]
  rw [hc.1]
  decide

/-! ### Values -/

private theorem scanValue_numeral (fuel : Nat) {c : Char} (hc : c = '-' ∨ c.isDigit = true) (cs : List Char) :
    scanValue (fuel + 1) (c :: cs) = ended (scanNumber (c :: cs)) := by
  have hstart {d : Char} {ds : List Char} (e : c :: cs = d :: ds) (hd : d ≠ '-' ∧ d.isDigit = false) : False :=
    numeral_ne hc hd (List.cons.inj e).1
  rw [scanValue, skipGaps_of_opens (opens_numeral hc)]
  split
  · next e => exact (hstart e (by decide)).elim
  · next e => exact (hstart e (by decide)).elim
  · next e => exact (hstart e (by decide)).elim
  · next e => exact (hstart e (by decide)).elim
  · next e => exact (hstart e (by decide)).elim
  · next e => exact (hstart e (by decide)).elim
  · rfl

private theorem scanValue_number (fuel : Nat) {cs : List Char} (hcs : IsNumber cs) {rest : List Char} :
    scanValue (fuel + 1) (cs ++ rest) = ended (scanNumber (cs ++ rest)) := by
  obtain ⟨c, ds, rfl, hc⟩ := hcs.head
  exact scanValue_numeral fuel hc _

/-- The text of a double is read again wherever it stands. -/
private theorem scanValue_floatText (fuel : Nat) (x : Float) {rest : List Char} (hrest : Follows rest) :
    scanValue (fuel + 1) ((floatText x).toList ++ rest) = (reread x, some rest) := by
  rcases floatText_cases x with h | h
  · rw [reread, h]
    rfl
  · obtain ⟨d, hd⟩ := h.scan
    have halone := hd [] trivial
    have hread : reread x = d := by
      rw [reread, ← List.append_nil (floatText x).toList, scanValue_number 0 h, halone]
      rfl
    rw [hread, scanValue_number fuel h, hd rest hrest]
    rfl

/-- A list that does not close at once is read item by item. -/
private theorem scanValue_bracket (fuel : Nat) {c : Char} (hc : Opens c) (cs : List Char) :
    scanValue (fuel + 1) ('[' :: c :: cs) = (.arr (scanItems fuel (c :: cs)).1, (scanItems fuel (c :: cs)).2) := by
  have hopen : skipGaps ('[' :: c :: cs) = '[' :: c :: cs := rfl
  rw [scanValue, hopen]
  simp only
  rw [skipGaps_of_opens hc]
  split
  · next e => exact absurd (List.cons.inj e).1 hc.2.1
  · rfl

/-- An object that does not close at once is read member by member; its first member starts with a quote. -/
private theorem scanValue_brace (fuel : Nat) (cs : List Char) :
    scanValue (fuel + 1) ('\x7b' :: '"' :: cs) =
      (.obj (scanMembers fuel ('"' :: cs)).1, (scanMembers fuel ('"' :: cs)).2) :=
  rfl

/-- The text after an item, when further items follow: a comma, and then the next item. -/
private theorem itemChars_cons_cons (v w : Json) (vs : List Json) :
    itemChars (v :: w :: vs) = v.chars ++ ',' :: itemChars (w :: vs) := by
  rw [itemChars]
  exact fun h => nomatch h

private theorem memberChars_cons_cons (k : String) (v : Json) (m : String × Json) (ms : List (String × Json)) :
    memberChars ((k, v) :: m :: ms) = stringChars k ++ ':' :: v.chars ++ ',' :: memberChars (m :: ms) := by
  rw [memberChars]
  exact fun h => nomatch h

mutual
/-- A document is scanned from its text, whatever may follow. -/
theorem scanValue_chars : (v : Json) → v.Bounded → (fuel : Nat) → 3 * v.chars.length ≤ fuel →
    (rest : List Char) → Follows rest → scanValue fuel (v.chars ++ rest) = (v.draft reread, some rest)
  | v, _, 0, hfuel, rest, _ => by
    obtain ⟨c, cs, htext, -⟩ := chars_head v
    rw [htext] at hfuel
    cases hfuel
  | .null, _, fuel + 1, _, rest, _ => rfl
  | .bool true, _, fuel + 1, _, rest, _ => rfl
  | .bool false, _, fuel + 1, _, rest, _ => rfl
  | .int n, hv, fuel + 1, _, rest, hrest => by
    rw [chars, scanValue_number fuel (isNumber_signedDecimal n), scanNumber_signedDecimal hv hrest]
    rfl
  | .float x, _, fuel + 1, _, rest, hrest => scanValue_floatText fuel x hrest
  | .str s, _, fuel + 1, _, rest, _ => scanValue_stringChars fuel s rest
  | .arr [], _, fuel + 1, _, rest, _ => rfl
  | .arr (v :: vs), hv, fuel + 1, hfuel, rest, _ => by
    have hitems := scanItems_itemChars v vs hv.1 hv.2 fuel (by rw [chars, List.length_cons] at hfuel; omega) rest
    obtain ⟨c, cs, htext, hc⟩ : ∃ c cs, itemChars (v :: vs) ++ rest = c :: cs ∧ Opens c := by
      obtain ⟨c, cs, htext, hc⟩ := chars_head v
      cases vs with
      | nil => exact ⟨c, _, by rw [itemChars, htext]; rfl, hc⟩
      | cons w vs => exact ⟨c, _, by rw [itemChars_cons_cons, htext]; rfl, hc⟩
    rw [htext] at hitems
    rw [chars, List.cons_append, htext, scanValue_bracket fuel hc, hitems]
    rfl
  | .obj [], _, fuel + 1, _, rest, _ => rfl
  | .obj (m :: ms), hv, fuel + 1, hfuel, rest, _ => by
    have hmembers := scanMembers_memberChars m ms hv fuel (by rw [chars, List.length_cons] at hfuel; omega) rest
    obtain ⟨cs, htext⟩ : ∃ cs, memberChars (m :: ms) ++ rest = '"' :: cs := by
      cases ms with
      | nil => exact ⟨_, rfl⟩
      | cons m' ms => exact ⟨_, by rw [memberChars_cons_cons]; rfl⟩
    rw [htext] at hmembers
    rw [chars, List.cons_append, htext, scanValue_brace, hmembers]
    rfl

/-- `scanValue_chars` for the items of a list and its closing bracket. -/
private theorem scanItems_itemChars : (v : Json) → (vs : List Json) → v.Bounded → BoundedItems vs → (fuel : Nat) →
    3 * (itemChars (v :: vs)).length ≤ fuel → (rest : List Char) →
    scanItems fuel (itemChars (v :: vs) ++ rest) = (draftItems reread (v :: vs), some rest)
  | v, [], _, _, 0, hfuel, _ => by simp [itemChars] at hfuel
  | v, w :: vs, _, _, 0, hfuel, _ => by simp [itemChars] at hfuel
  | v, [], hv, _, fuel + 1, hfuel, rest => by
    rw [itemChars, List.length_append] at hfuel
    have hvalue := scanValue_chars v hv fuel (by simp at hfuel; omega) (']' :: rest) (.inr (.inl rfl))
    rw [itemChars, List.append_assoc, List.singleton_append, scanItems, hvalue]
    rfl
  | v, w :: vs, hv, hvs, fuel + 1, hfuel, rest => by
    rw [itemChars_cons_cons, List.length_append, List.length_cons] at hfuel
    have hvalue := scanValue_chars v hv fuel (by omega) (',' :: (itemChars (w :: vs) ++ rest)) (.inl rfl)
    have hitems := scanItems_itemChars w vs hvs.1 hvs.2 fuel (by omega) rest
    rw [itemChars_cons_cons, List.append_assoc, List.cons_append, scanItems, hvalue]
    change (v.draft reread :: (scanItems fuel (itemChars (w :: vs) ++ rest)).1,
      (scanItems fuel (itemChars (w :: vs) ++ rest)).2) = _
    rw [hitems]
    rfl

/-- `scanValue_chars` for the members of an object and its closing brace. -/
private theorem scanMembers_memberChars : (m : String × Json) → (ms : List (String × Json)) → BoundedMembers (m :: ms) →
    (fuel : Nat) → 3 * (memberChars (m :: ms)).length ≤ fuel → (rest : List Char) →
    scanMembers fuel (memberChars (m :: ms) ++ rest) = (draftMembers reread (m :: ms), some rest)
  | (k, v), [], _, 0, hfuel, _ => by simp [memberChars] at hfuel
  | (k, v), m :: ms, _, 0, hfuel, _ => by simp [memberChars] at hfuel
  | (k, v), [], hv, 1, hfuel, rest => by simp [memberChars] at hfuel; omega
  | (k, v), m :: ms, hv, 1, hfuel, rest => by simp [memberChars] at hfuel; omega
  | (k, v), [], hv, fuel + 2, hfuel, rest => by
    rw [memberChars, List.length_append, List.length_append, List.length_cons] at hfuel
    have hvalue := scanValue_chars v hv.1 fuel (by simp at hfuel; omega) ('\x7d' :: rest)
      (.inr (.inr rfl))
    have htext : memberChars [(k, v)] ++ rest = stringChars k ++ ':' :: (v.chars ++ '\x7d' :: rest) := by
      simp [memberChars]
    rw [htext, scanMembers, scanValue_stringChars]
    change scanMember (fuel + 1) (.str k) (v.chars ++ '\x7d' :: rest) = _
    rw [scanMember, hvalue]
    rfl
  | (k, v), m :: ms, hv, fuel + 2, hfuel, rest => by
    rw [memberChars_cons_cons, List.length_append, List.length_append, List.length_cons, List.length_cons] at hfuel
    have hvalue := scanValue_chars v hv.1 fuel (by omega) (',' :: (memberChars (m :: ms) ++ rest))
      (.inl rfl)
    have hmembers := scanMembers_memberChars m ms hv.2 fuel (by omega) rest
    have htext : memberChars ((k, v) :: m :: ms) ++ rest =
        stringChars k ++ ':' :: (v.chars ++ ',' :: (memberChars (m :: ms) ++ rest)) := by
      simp [memberChars_cons_cons]
    rw [htext, scanMembers, scanValue_stringChars]
    change scanMember (fuel + 1) (.str k) (v.chars ++ ',' :: (memberChars (m :: ms) ++ rest)) = _
    rw [scanMember, hvalue]
    change ((Draft.str k, v.draft reread) :: (scanMembers fuel (memberChars (m :: ms) ++ rest)).1,
      (scanMembers fuel (memberChars (m :: ms) ++ rest)).2) = _
    rw [hmembers]
    rfl
end

/-- The text of a document is scanned to its draft, and ends with it. -/
theorem scan_text {v : Json} (hv : v.Bounded) : scan v.text = (v.draft reread, true) := by
  have hvalue := scanValue_chars v hv (3 * v.chars.length + 3) (by omega) [] trivial
  rw [List.append_nil] at hvalue
  rw [scan, text, String.toList_ofList, scanChars, hvalue]
  rfl

/-- A decoder reads a text as it reads the draft of the document that the text was printed from. -/
theorem Decoder.ofText_printed {α : Type} (dec : Decoder α) {v : Json} (hv : v.Bounded) :
    dec.ofText v.text = dec {} (v.draft reread) := by
  rw [Decoder.ofText, scan_text hv]
  exact bind_pure _

theorem Decoder.ofText_text {α : Type} (dec : Decoder α) {v : Json} (hv : v.Exact) :
    dec.ofText v.text = dec {} (.ofJson v) := by
  obtain ⟨hbounded, hdraft⟩ := Exact.bounded_draft reread v hv
  rw [dec.ofText_printed hbounded, hdraft]

end GridGateway.Json
