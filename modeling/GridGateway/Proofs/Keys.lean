import Mathlib.Data.List.Nodup
import Mathlib.Data.List.Perm.Basic

/-!
# Keys that differ

When the elements of a list have keys of their own, there is one element for a key at most: it is what is kept of the
list for the key (`filter_key_eq_singleton`) and what is found under it (`find?_key_of_mem`).
-/

namespace GridGateway

variable {α γ : Type} [DecidableEq γ] {f : α → γ} {l : List α} {a : α}

theorem filter_key_eq_nil {c : γ} (h : c ∉ l.map f) : l.filter (fun b => f b = c) = [] := by
  rw [List.filter_eq_nil_iff]
  intro b hb
  have hne : f b ≠ c := fun heq => h (heq ▸ List.mem_map_of_mem hb)
  simpa using hne

theorem filter_key_eq_singleton (hkeys : (l.map f).Nodup) (ha : a ∈ l) : l.filter (fun b => f b = f a) = [a] := by
  induction l with
  | nil => exact absurd ha List.not_mem_nil
  | cons b l ih =>
    rw [List.map_cons, List.nodup_cons] at hkeys
    rcases List.mem_cons.1 ha with rfl | ha
    · rw [List.filter_cons_of_pos (by simp), filter_key_eq_nil hkeys.1]
    · have hne : f b ≠ f a := fun heq => hkeys.1 (heq ▸ List.mem_map_of_mem ha)
      rw [List.filter_cons_of_neg (by simpa using hne), ih hkeys.2 ha]

theorem find?_key_of_mem (hkeys : (l.map f).Nodup) (ha : a ∈ l) : l.find? (fun b => f b = f a) = some a := by
  rw [← List.head?_filter, filter_key_eq_singleton hkeys ha, List.head?_cons]

/-- The element with its key, and all the others. -/
theorem perm_cons_filter_key (hkeys : (l.map f).Nodup) (ha : a ∈ l) :
    l.Perm (a :: l.filter (fun b => f b ≠ f a)) := by
  have hsplit := List.filter_append_perm (fun b => decide (f b = f a)) l
  rw [filter_key_eq_singleton hkeys ha] at hsplit
  simpa using hsplit.symm

end GridGateway
