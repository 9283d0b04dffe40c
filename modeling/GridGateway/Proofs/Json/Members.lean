import GridGateway.Json.Basic
import Mathlib.Data.List.Induction
import Mathlib.Data.String.Basic

/-!
# Members in ascending order

Members in strictly ascending order of their names are what `putMember` keeps up (`Ascending.putMember`) and what
`sortMembers` brings about and leaves alone (`ascending_sortMembers`, `Ascending.sortMembers`).  Sorting rearranges
members of different names (`sortMembers_perm`); of several members with one name the last is found afterwards
(`find?_sortMembers`).
-/

namespace GridGateway.Json

variable {α : Type}

/-- The members are in strictly ascending order of their names. -/
def Ascending (ms : List (String × α)) : Prop := ms.Pairwise fun a b => a.1 < b.1

/-- The members after adding one are the new one and some of the old ones. -/
private theorem mem_putMember {name : String} {value : α} {ms : List (String × α)} {m : String × α}
    (hm : m ∈ putMember name value ms) : m = (name, value) ∨ m ∈ ms := by
  induction ms with
  | nil => exact .inl (List.mem_singleton.mp hm)
  | cons m' ms ih =>
    rw [putMember] at hm
    split at hm
    · exact List.mem_cons.mp hm
    · split at hm
      · rcases List.mem_cons.mp hm with h | h
        · exact .inl h
        · exact .inr (List.mem_cons_of_mem _ h)
      · rcases List.mem_cons.mp hm with h | h
        · exact .inr (h ▸ List.mem_cons_self)
        · exact (ih h).imp_right (List.mem_cons_of_mem _)

/-- Adding a member keeps the order. -/
theorem Ascending.putMember {ms : List (String × α)} (h : Ascending ms) (name : String) (value : α) :
    Ascending (putMember name value ms) := by
  induction ms with
  | nil => exact List.pairwise_singleton _ _
  | cons m ms ih =>
    obtain ⟨hm, hms⟩ := List.pairwise_cons.mp h
    rw [Json.putMember]
    split
    · next hlt =>
      refine List.pairwise_cons.mpr ⟨fun m' hm' => ?_, h⟩
      rcases List.mem_cons.mp hm' with rfl | hm'
      · exact hlt
      · exact lt_trans hlt (hm m' hm')
    · next hle =>
      split
      · next heq => exact List.pairwise_cons.mpr ⟨fun m' hm' => heq ▸ hm m' hm', hms⟩
      · next hne =>
        refine List.pairwise_cons.mpr ⟨fun m' hm' => ?_, ih hms⟩
        rcases mem_putMember hm' with rfl | hm'
        · exact lt_of_le_of_ne (not_lt.mp hle) (Ne.symm hne)
        · exact hm m' hm'

/-- A member behind all others is added at the end. -/
private theorem putMember_of_greater {ms : List (String × α)} {m : String × α} (h : ∀ m' ∈ ms, m'.1 < m.1) :
    putMember m.1 m.2 ms = ms ++ [m] := by
  induction ms with
  | nil => rfl
  | cons m' ms ih =>
    have hm' := h m' List.mem_cons_self
    have hrest := ih fun m'' h'' => h m'' (List.mem_cons_of_mem _ h'')
    rw [putMember, if_neg (not_lt_of_gt hm'), if_neg (ne_of_gt hm'), hrest]
    rfl

/-- Members in ascending order are sorted already. -/
theorem Ascending.sortMembers {ms : List (String × α)} (h : Ascending ms) : sortMembers ms = ms := by
  suffices hfold : ∀ sorted : List (String × α), Ascending (sorted ++ ms) →
      ms.foldl (fun sorted m => Json.putMember m.1 m.2 sorted) sorted = sorted ++ ms from hfold [] h
  clear h
  induction ms with
  | nil => exact fun sorted _ => (List.append_nil _).symm
  | cons m ms ih =>
    intro sorted hsorted
    have hlast : ∀ m' ∈ sorted, m'.1 < m.1 := fun m' hm' =>
      (List.pairwise_append.mp hsorted).2.2 m' hm' m List.mem_cons_self
    rw [List.append_cons] at hsorted
    rw [List.foldl_cons, putMember_of_greater hlast, ih _ hsorted, List.append_assoc, List.singleton_append]

/-- Sorted members are in ascending order. -/
theorem ascending_sortMembers (ms : List (String × α)) : Ascending (sortMembers ms) := by
  induction ms using List.reverseRecOn with
  | nil => exact .nil
  | append_singleton ms m ih =>
    rw [sortMembers, List.foldl_append]
    exact ih.putMember m.1 m.2

/-- Members in ascending order have different names. -/
theorem Ascending.nodup_names {ms : List (String × α)} (h : Ascending ms) : (ms.map (·.1)).Nodup :=
  List.pairwise_map.mpr (h.imp fun hlt => ne_of_lt hlt)

/-- Sorting brings in no new members. -/
theorem mem_sortMembers {ms : List (String × α)} {m : String × α} (hm : m ∈ sortMembers ms) : m ∈ ms := by
  induction ms using List.reverseRecOn with
  | nil => exact hm
  | append_singleton ms m' ih =>
    rw [sortMembers, List.foldl_append] at hm
    rcases mem_putMember hm with rfl | hm
    · exact List.mem_append_right _ List.mem_cons_self
    · exact List.mem_append_left _ (ih hm)

/-- Members are sorted by their names, whatever is done with their values. -/
theorem map_sortMembers {β : Type} (f : α → β) (ms : List (String × α)) :
    (sortMembers ms).map (fun m => (m.1, f m.2)) = sortMembers (ms.map fun m => (m.1, f m.2)) := by
  have hput (name : String) (value : α) (ms : List (String × α)) :
      (putMember name value ms).map (fun m => (m.1, f m.2)) =
        putMember name (f value) (ms.map fun m => (m.1, f m.2)) := by
    induction ms with
    | nil => rfl
    | cons m ms ih => grind [putMember]
  induction ms using List.reverseRecOn with
  | nil => rfl
  | append_singleton ms m ih =>
    rw [List.map_append, sortMembers, sortMembers, List.foldl_append, List.foldl_append]
    exact (hput m.1 m.2 (sortMembers ms)).trans (congrArg (putMember m.1 (f m.2)) ih)

/-! ### Looking up members -/

/-- Two members of different names are put into their places in either order. -/
theorem putMember_comm {a b : String} (h : a ≠ b) (v w : α) (ms : List (String × α)) :
    putMember a v (putMember b w ms) = putMember b w (putMember a v ms) := by
  induction ms with
  | nil => grind [putMember]
  | cons m ms ih => grind [putMember]

/-- The first member of a name is not touched by a member of another name. -/
theorem find?_putMember_of_ne {a b : String} (h : a ≠ b) (v : α) (ms : List (String × α)) :
    (putMember a v ms).find? (·.1 = b) = ms.find? (·.1 = b) := by
  induction ms with
  | nil => simp [putMember, h]
  | cons m ms ih => grind [putMember]

/-- A member is found where it was put, in whatever order the members were before. -/
theorem find?_putMember_self (name : String) (value : α) (ms : List (String × α)) :
    (putMember name value ms).find? (·.1 = name) = some (name, value) := by
  induction ms with
  | nil => simp [putMember]
  | cons m ms ih => grind [putMember]

/-- Of the members with one name the last one is found among the sorted members. -/
theorem find?_sortMembers (ms : List (String × α)) (name : String) :
    (sortMembers ms).find? (·.1 = name) = ms.reverse.find? (·.1 = name) := by
  induction ms using List.reverseRecOn with
  | nil => rfl
  | append_singleton ms m ih =>
    rw [sortMembers, List.foldl_append, List.foldl_cons, List.foldl_nil, List.reverse_append, List.reverse_singleton,
      List.singleton_append]
    by_cases h : m.1 = name
    · rw [← h, find?_putMember_self, List.find?_cons_of_pos (by simp)]
    · rw [find?_putMember_of_ne h, List.find?_cons_of_neg (by simpa using h)]
      exact ih

/-! ### Members of different names -/

/-- A member of a new name is added. -/
private theorem putMember_perm {name : String} {value : α} {ms : List (String × α)} (h : name ∉ ms.map (·.1)) :
    (putMember name value ms).Perm ((name, value) :: ms) := by
  induction ms with
  | nil => exact .refl _
  | cons m ms ih =>
    rw [List.map_cons, List.mem_cons, not_or] at h
    rw [putMember]
    split
    · exact .refl _
    · rw [if_neg h.1]
      exact ((ih h.2).cons m).trans (.swap _ _ _)

/-- Members of different names are rearranged when they are sorted. -/
theorem sortMembers_perm {ms : List (String × α)} (h : (ms.map (·.1)).Nodup) : (sortMembers ms).Perm ms := by
  induction ms using List.reverseRecOn with
  | nil => exact .refl _
  | append_singleton ms m ih =>
    rw [List.map_append, List.nodup_append] at h
    have hsorted : (sortMembers ms).Perm ms := ih h.1
    have hnew : m.1 ∉ (sortMembers ms).map (·.1) := by
      rw [(hsorted.map _).mem_iff]
      exact fun hm => h.2.2 m.1 hm m.1 (by simp) rfl
    rw [sortMembers, List.foldl_append, List.foldl_cons, List.foldl_nil]
    exact (putMember_perm hnew).trans ((hsorted.cons m).trans (List.perm_append_singleton m ms).symm)

end GridGateway.Json
