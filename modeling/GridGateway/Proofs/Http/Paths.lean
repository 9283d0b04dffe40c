import GridGateway.Http.Message
import GridGateway.Http.Route
import GridGateway.Proofs.Query.Pairs

/-!
# Targets and paths as text

A target is read back from its text when its path holds none of the marks behind which a path ends
(`Target.ofText_text`), and the segments of a path are read back from the path (`segments_joinSegments`).
-/

namespace GridGateway.Http

open Query (splitAll splitFirst)
open Text (isUnreservedChar)

/-- A text without hash signs is all target. -/
private theorem takeWhile_hash {cs : List Char} (h : '#' ∉ cs) : cs.takeWhile (· ≠ '#') = cs := by
  have hall : ∀ c ∈ cs, decide (c ≠ '#') = true := fun c hc => decide_eq_true fun e => h (e ▸ hc)
  exact List.takeWhile_eq_self_iff.mpr hall

/-- A target is read back from its text. -/
theorem Target.ofText_text {t : Target} (hpath : t.path ≠ "") (hmark : '?' ∉ t.path.toList)
    (hhash : '#' ∉ t.path.toList)
    (hquery : '#' ∉ t.query.toList) : Target.ofText t.text = t := by
  obtain ⟨path, query⟩ := t
  have hne : path.toList.isEmpty = false := by simpa using hpath
  rw [Target.ofText, Target.text]
  by_cases hempty : query.isEmpty = true
  · have hq : query = "" := by simpa using hempty
    subst hq
    have htext : (if ("" : String).isEmpty then path else path ++ "?" ++ "") = path := if_pos rfl
    simp only [htext, takeWhile_hash hhash, Query.splitFirst_of_not_mem hmark, hne, String.ofList_toList]
    rfl
  · have htext : (path ++ "?" ++ query).toList = path.toList ++ '?' :: query.toList := by
      rw [String.toList_append, String.toList_append, List.append_assoc]
      rfl
    have hall : '#' ∉ path.toList ++ '?' :: query.toList := by
      simp only [List.mem_append, List.mem_cons, not_or]
      exact ⟨hhash, by decide, hquery⟩
    rw [if_neg hempty, htext, takeWhile_hash hall, Query.splitFirst_append hmark]
    simp [hne]

/-- The path of a list of segments. -/
def joinSegments (parts : List String) : String := String.join (parts.map ("/" ++ ·))

private theorem toList_joinSegments (parts : List String) :
    (joinSegments parts).toList = ['/'].intercalate ([] :: parts.map String.toList) := by
  have hparts : ∀ first : List Char, ['/'].intercalate (first :: parts.map String.toList) =
      first ++ (String.join (parts.map ("/" ++ ·))).toList := by
    induction parts with
    | nil => intro first; simp
    | cons part parts ih =>
      intro first
      rw [List.map_cons, List.map_cons, List.intercalate_cons_cons, ih]
      simp [String.join_cons]
  rw [hparts, List.nil_append, joinSegments]

/-- A path consists of slashes and its segments. -/
theorem mem_joinSegments {parts : List String} {c : Char} (hc : c ∈ (joinSegments parts).toList) :
    c = '/' ∨ ∃ part ∈ parts, c ∈ part.toList := by
  rw [joinSegments, String.toList_join, List.flatMap_map, List.mem_flatMap] at hc
  obtain ⟨part, hpart, hc⟩ := hc
  rw [String.toList_append, List.mem_append] at hc
  rcases hc with hc | hc
  · exact .inl (List.mem_singleton.mp hc)
  · exact .inr ⟨part, hpart, hc⟩

/-- The segments of a path are read back. -/
theorem segments_joinSegments {parts : List String} (h : ∀ part ∈ parts, '/' ∉ part.toList) :
    segments (joinSegments parts) = parts := by
  have hparts : ∀ part ∈ [] :: parts.map String.toList, '/' ∉ part := by
    intro part hpart
    rcases List.mem_cons.mp hpart with rfl | hpart
    · exact List.not_mem_nil
    · obtain ⟨s, hs, rfl⟩ := List.mem_map.mp hpart
      exact h s hs
  rw [segments, toList_joinSegments, Query.splitAll_intercalate hparts (by simp), List.drop_one, List.tail_cons,
    List.map_map]
  simp

end GridGateway.Http
