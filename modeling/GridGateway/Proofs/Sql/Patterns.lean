import GridGateway.Proofs.Sql.Phrases
import Mathlib.Data.List.Forall2

/-!
# Patterns match literally

`Like` says which texts a pattern matches when a backslash takes the meaning from the character behind it.  An escaped
text in front of a pattern matches this text and no other (`Like.escapePattern_append_iff`), so that the only wildcards
of a pattern for substrings are the two at its ends (`Like.containsPattern_iff`).  Characters are compared by any
relation, such as equality or equality up to case.
-/

namespace GridGateway.Sql

variable {same : Char → Char → Prop}

/-- The characters with a meaning of their own in a pattern. -/
def IsMark (c : Char) : Prop := c = '%' ∨ c = '_' ∨ c = '\\'

/-- A pattern matches a text, where `same` compares a character of the pattern with one of the text. -/
inductive Like (same : Char → Char → Prop) : List Char → List Char → Prop where
  | nil : Like same [] []
  /-- A percent sign matches any text. -/
  | anyText (front : List Char) {pattern text : List Char} :
    Like same pattern text → Like same ('%' :: pattern) (front ++ text)
  /-- An underscore matches any one character. -/
  | anyChar (d : Char) {pattern text : List Char} : Like same pattern text → Like same ('_' :: pattern) (d :: text)
  /-- A character behind a backslash matches itself. -/
  | escaped {c d : Char} {pattern text : List Char} :
    same c d → Like same pattern text → Like same ('\\' :: c :: pattern) (d :: text)
  /-- So does any character without a meaning of its own. -/
  | plain {c d : Char} {pattern text : List Char} :
    ¬ IsMark c → same c d → Like same pattern text → Like same (c :: pattern) (d :: text)

/-- Every backslash of the pattern has a character behind it that it belongs to. -/
def IsComplete : List Char → Prop
  | [] => True
  | ['\\'] => False
  | '\\' :: _ :: pattern => IsComplete pattern
  | _ :: pattern => IsComplete pattern

/-- A text occurs in another one as a run of characters, compared one by one. -/
def Occurs (same : Char → Char → Prop) (part whole : List Char) : Prop :=
  ∃ front run back, whole = front ++ run ++ back ∧ List.Forall₂ same part run

namespace Like

variable {c : Char} {pattern text : List Char}

private theorem percent_iff :
    Like same ('%' :: pattern) text ↔ ∃ front back, text = front ++ back ∧ Like same pattern back := by
  constructor
  · intro h
    cases h with
    | anyText front h => exact ⟨front, _, rfl, h⟩
    | plain hmark => exact absurd (.inl rfl) hmark
  · rintro ⟨front, back, rfl, h⟩
    exact anyText front h

private theorem escaped_iff :
    Like same ('\\' :: c :: pattern) text ↔ ∃ d back, text = d :: back ∧ same c d ∧ Like same pattern back := by
  constructor
  · intro h
    cases h with
    | escaped hsame h => exact ⟨_, _, rfl, hsame, h⟩
    | plain hmark => exact absurd (.inr (.inr rfl)) hmark
  · rintro ⟨d, back, rfl, hsame, h⟩
    exact escaped hsame h

private theorem plain_iff (hc : ¬ IsMark c) :
    Like same (c :: pattern) text ↔ ∃ d back, text = d :: back ∧ same c d ∧ Like same pattern back := by
  constructor
  · intro h
    cases h with
    | anyText => exact absurd (.inl rfl) hc
    | anyChar => exact absurd (.inr (.inl rfl)) hc
    | escaped => exact absurd (.inr (.inr rfl)) hc
    | plain _ hsame h => exact ⟨_, _, rfl, hsame, h⟩
  · rintro ⟨d, back, rfl, hsame, h⟩
    exact plain hc hsame h

/-- An escaped character in front of a pattern matches this character and no other. -/
private theorem escapePattern_cons_iff (c : Char) (cs : List Char) :
    Like same (escapePattern (c :: cs) ++ pattern) text ↔
      ∃ d back, text = d :: back ∧ same c d ∧ Like same (escapePattern cs ++ pattern) back := by
  rw [escapePattern]
  split
  · exact escaped_iff
  · next hc => exact plain_iff hc

/-- An escaped text in front of a pattern matches this text and no other. -/
theorem escapePattern_append_iff (part : List Char) :
    Like same (escapePattern part ++ pattern) text ↔
      ∃ run back, text = run ++ back ∧ List.Forall₂ same part run ∧ Like same pattern back := by
  induction part generalizing text with
  | nil => simp [escapePattern, List.forall₂_nil_left_iff]
  | cons c cs ih =>
    rw [escapePattern_cons_iff]
    constructor
    · rintro ⟨d, rest, rfl, hsame, h⟩
      obtain ⟨run, back, rfl, hrun, hback⟩ := ih.1 h
      exact ⟨d :: run, back, rfl, .cons hsame hrun, hback⟩
    · rintro ⟨_, back, rfl, hrun, hback⟩
      obtain ⟨d, run, hsame, hrest, rfl⟩ := List.forall₂_cons_left_iff.1 hrun
      exact ⟨d, run ++ back, rfl, hsame, ih.2 ⟨run, back, rfl, hrest, hback⟩⟩

end Like

private theorem toList_containsPattern (needle : String) :
    (containsPattern needle).toList = '%' :: (escapePattern needle.toList ++ ['%']) := by
  simp only [containsPattern, escapeLike, String.toList_append, String.toList_ofList, List.append_assoc]
  rfl

/-- The pattern of the texts that contain a text matches these and no others. -/
theorem Like.containsPattern_iff (needle : String) (haystack : List Char) :
    Like same (containsPattern needle).toList haystack ↔ Occurs same needle.toList haystack := by
  rw [toList_containsPattern, percent_iff]
  constructor
  · rintro ⟨front, rest, rfl, h⟩
    obtain ⟨run, back, rfl, hrun, -⟩ := (escapePattern_append_iff _).1 h
    exact ⟨front, run, back, (List.append_assoc ..).symm, hrun⟩
  · rintro ⟨front, run, back, rfl, hrun⟩
    refine ⟨front, run ++ back, List.append_assoc .., (escapePattern_append_iff _).2 ⟨run, back, rfl, hrun, ?_⟩⟩
    exact percent_iff.2 ⟨back, [], (List.append_nil back).symm, nil⟩

/-! ### Complete patterns -/

private theorem isComplete_cons_of_ne {c : Char} (hc : c ≠ '\\') {pattern : List Char} (h : IsComplete pattern) :
    IsComplete (c :: pattern) := by
  unfold IsComplete
  split
  · trivial
  · next heq => exact absurd (List.cons.inj heq).1 hc
  · next heq => exact absurd (List.cons.inj heq).1 hc
  · next heq => exact (List.cons.inj heq).2 ▸ h

/-- An escaped text leaves no backslash without its character. -/
private theorem isComplete_escapePattern_append (part : List Char) {pattern : List Char} (h : IsComplete pattern) :
    IsComplete (escapePattern part ++ pattern) := by
  induction part with
  | nil => exact h
  | cons c cs ih =>
    rw [escapePattern]
    split
    · exact ih
    · next hc => exact isComplete_cons_of_ne (fun hslash => hc (.inr (.inr hslash))) ih

private theorem isComplete_containsPattern (needle : String) : IsComplete (containsPattern needle).toList := by
  rw [toList_containsPattern]
  exact isComplete_cons_of_ne (by decide)
    (isComplete_escapePattern_append _ (isComplete_cons_of_ne (by decide) trivial))

/-- A constraint on a substring binds one pattern, without a backslash left open, that matches the texts in which the
substring occurs and no others, whatever characters it is made of and however characters are compared.  Different texts
are told apart by their escaped forms. -/
theorem substrings_match_literally :
    (∀ column needle : String, ∃ pattern : String,
      containsIgnoringCase column (some needle) =
        [.sql " AND ", .sql column, .sql " ILIKE ", .bind (.text (some pattern)), .sql " ESCAPE '\\'"] ∧
      IsComplete pattern.toList ∧
      ∀ (same : Char → Char → Prop) (haystack : String),
        Like same pattern.toList haystack.toList ↔ Occurs same needle.toList haystack.toList) ∧
    Function.Injective escapeLike := by
  refine ⟨fun column needle => ?_, fun s t h => ?_⟩
  · exact ⟨containsPattern needle, rfl, isComplete_containsPattern needle,
      fun _ haystack => Like.containsPattern_iff needle haystack.toList⟩
  · exact String.toList_inj.1 (escapePattern_inj (String.ofList_inj.1 h))

end GridGateway.Sql
