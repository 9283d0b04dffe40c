import GridGateway.Proofs.Query.Refusals
import GridGateway.Proofs.Runs

/-!
# What texts say for the fields of a filter

A field of a filter is a number, a text, a flag or a list of numbers (`Content`).  What a text says for a field of each
kind (`Content.Says`), and for which part of it it is refused (`Content.Refuses`), is told by the characters of the
text.  The readers read what the text says (`readFlag_eq_iff`, `readNumbers_eq_ok_iff`), and a slot is refused for the
part that is refused (`Slot.fault?_eq_some_iff`).
-/

namespace GridGateway.Query

/-- What a field of a filter holds. -/
inductive Content where
  | number (n : Option UInt64)
  | text (s : Option String)
  | flag (b : Option Bool)
  | numbers (ns : List UInt64)

/-- A text consists of items with commas between them. -/
structure HasItems (raw : String) (items : List (List Char)) : Prop where
  some : items ≠ []
  whole : ∀ item ∈ items, ',' ∉ item
  text : raw.toList = [','].intercalate items

/-- An item, without the blanks around it, writes a number. -/
def ItemSays (item : List Char) (n : UInt64) : Prop := ∃ inner, Text.Trims item inner ∧ Text.WritesNat inner n.toNat

namespace Content

/-- A field holds nothing. -/
def IsAbsent : Content → Prop
  | number n => n = none
  | text s => s = none
  | flag b => b = none
  | numbers ns => ns = []

/-- A field holds what a text says: a number in digits, the text itself, `true` or `false` and nothing for any other
word, or the numbers of the items between the commas, of which the empty text has none. -/
def Says (raw : String) : Content → Prop
  | number n => ∃ value, n = some value ∧ Text.WritesNat raw.toList value.toNat
  | text s => s = some raw
  | flag b => (b = some true ↔ raw = "true") ∧ (b = some false ↔ raw = "false")
  | numbers ns => raw = "" ∧ ns = [] ∨ raw ≠ "" ∧ ∃ items, HasItems raw items ∧ List.Forall₂ ItemSays items ns

/-- A text is refused for a field, because of a part that is no number: the whole text or, for a list, its first item
that is none. -/
def Refuses (raw part : String) : Content → Prop
  | number _ => part = raw ∧ ∀ n : UInt64, ¬ Text.WritesNat raw.toList n.toNat
  | numbers _ => raw ≠ "" ∧ ∃ before item after, HasItems raw (before ++ item :: after) ∧
      (∀ earlier ∈ before, ∃ n, ItemSays earlier n) ∧ Text.Trims item part.toList ∧
      ∀ n : UInt64, ¬ Text.WritesNat part.toList n.toNat
  | text _ => False
  | flag _ => False

end Content

/-! ### Readers -/

private theorem hasItems_iff {raw : String} {items : List (List Char)} :
    HasItems raw items ↔ items = splitAll ',' raw.toList := by
  constructor
  · rintro ⟨hsome, hwhole, htext⟩
    rw [htext, splitAll_intercalate hwhole hsome]
  · rintro rfl
    refine ⟨?_, fun item hitem => notMem_of_mem_splitAll hitem, ?_⟩
    · rw [splitAll_eq_splitOn]
      exact List.splitOn_ne_nil ',' _
    · rw [splitAll_eq_splitOn, List.intercalate_splitOn]

private theorem itemSays_iff {item : List Char} {n : UInt64} :
    ItemSays item n ↔ Text.uint64? (String.ofList (Text.trimBlanks item)) = some n := by
  rw [Text.uint64?_eq_some_iff, String.toList_ofList]
  constructor
  · rintro ⟨inner, htrims, hwrites⟩
    rwa [← Text.trims_iff.1 htrims]
  · exact fun h => ⟨_, Text.trims_iff.2 rfl, h⟩

private theorem readNumber_eq_ok_iff {key raw : String} {n : UInt64} :
    readNumber key raw = .ok n ↔ Text.uint64? raw = some n := by
  rw [readNumber]
  cases Text.uint64? raw <;> simp

theorem readFlag_eq_iff {raw : String} {b : Option Bool} :
    readFlag raw = b ↔ (b = some true ↔ raw = "true") ∧ (b = some false ↔ raw = "false") := by
  rw [readFlag]
  by_cases htrue : raw = "true"
  · subst htrue
    cases b <;> simp
  · rw [if_neg htrue]
    by_cases hfalse : raw = "false"
    · subst hfalse
      cases b <;> simp
    · rw [if_neg hfalse]
      cases b with
      | none => simp [htrue, hfalse]
      | some b => cases b <;> simp [htrue, hfalse]

theorem readNumbers_eq_ok_iff {key raw : String} {ns : List UInt64} :
    readNumbers key raw = .ok ns ↔
      raw = "" ∧ ns = [] ∨ raw ≠ "" ∧ ∃ items, HasItems raw items ∧ List.Forall₂ ItemSays items ns := by
  rw [readNumbers]
  by_cases hraw : raw = ""
  · rw [if_pos (String.isEmpty_iff.2 hraw)]
    simp [hraw, eq_comm]
  · rw [if_neg (by rwa [String.isEmpty_iff]), mapM_eq_ok_iff]
    simp only [readNumber_eq_ok_iff, ← itemSays_iff, hasItems_iff, hraw, false_and, ne_eq, not_false_eq_true, true_and,
      false_or, exists_eq_left]

/-! ### Faults -/

private theorem numberFault?_eq_some_iff {key raw : String} {e : QueryError} :
    numberFault? key raw = some e ↔
      (∀ n : UInt64, ¬ Text.WritesNat raw.toList n.toNat) ∧ e = .invalidInteger key raw := by
  rw [numberFault?, ← Text.uint64?_eq_none_iff]
  cases Text.uint64? raw <;> simp [eq_comm]

theorem numberFault?_eq_none_iff {key raw : String} : numberFault? key raw = none ↔ ∃ n, Text.uint64? raw = some n := by
  rw [numberFault?]
  cases Text.uint64? raw <;> simp

private theorem numbersFault?_eq_some_iff {key raw : String} {e : QueryError} :
    numbersFault? key raw = some e ↔ ∃ part, (Content.numbers []).Refuses raw part ∧ e = .invalidInteger key part := by
  rw [numbersFault?]
  by_cases hraw : raw = ""
  · rw [if_pos (String.isEmpty_iff.2 hraw)]
    refine iff_of_false (Option.some_ne_none e).symm ?_
    rintro ⟨part, ⟨hne, -⟩, -⟩
    exact hne hraw
  rw [if_neg (by rwa [String.isEmpty_iff]), List.findSome?_eq_some_iff]
  constructor
  · rintro ⟨before, item, after, hsplit, hfault, hbefore⟩
    obtain ⟨hnone, rfl⟩ := numberFault?_eq_some_iff.1 hfault
    refine ⟨_, ⟨hraw, before, item, after, hasItems_iff.2 hsplit.symm, fun earlier hmem => ?_, ?_, hnone⟩, rfl⟩
    · obtain ⟨n, hn⟩ := numberFault?_eq_none_iff.1 (hbefore earlier hmem)
      exact ⟨n, itemSays_iff.2 hn⟩
    · rw [String.toList_ofList]
      exact Text.trims_iff.2 rfl
  · rintro ⟨part, ⟨-, before, item, after, hitems, hbefore, htrims, hnone⟩, rfl⟩
    have hpart : String.ofList (Text.trimBlanks item) = part := by
      rw [← Text.trims_iff.1 htrims, String.ofList_toList]
    refine ⟨before, item, after, (hasItems_iff.1 hitems).symm, ?_, fun earlier hmem => ?_⟩
    · rw [hpart]
      exact numberFault?_eq_some_iff.2 ⟨hnone, rfl⟩
    · obtain ⟨n, hn⟩ := hbefore earlier hmem
      exact numberFault?_eq_none_iff.2 ⟨n, itemSays_iff.1 hn⟩

/-! ### Slots -/

namespace Slot

variable {F : Type}

/-- What the slot of a filter holds. -/
def content (f : F) : Slot F → Content
  | number _ get _ => .number (get f)
  | text _ get _ => .text (get f)
  | flag _ get _ => .flag (get f)
  | numbers _ get _ => .numbers (get f)

/-- A slot has a fault if a part of the text is refused for its field. -/
theorem fault?_eq_some_iff {s : Slot F} {raw : String} {e : QueryError} (f : F) :
    s.fault? raw = some e ↔ ∃ part, (s.content f).Refuses raw part ∧ e = .invalidInteger s.key part := by
  cases s with
  | number key get put =>
    refine numberFault?_eq_some_iff.trans ?_
    constructor
    · exact fun ⟨hnone, he⟩ => ⟨raw, ⟨rfl, hnone⟩, he⟩
    · rintro ⟨_, ⟨rfl, hnone⟩, he⟩
      exact ⟨hnone, he⟩
  | numbers key get put => exact numbersFault?_eq_some_iff
  | text key get put => exact iff_of_false (Option.some_ne_none e).symm fun ⟨_, h, _⟩ => h.elim
  | flag key get put => exact iff_of_false (Option.some_ne_none e).symm fun ⟨_, h, _⟩ => h.elim

end Slot

end GridGateway.Query
