import GridGateway.Proofs.Grid.Pages

/-!
# Sorting by a key

Adding an element puts it behind those with a lower key and in front of all others (`sortBy_cons`).  So sorting keeps
elements with one key in their order, and sorting what is kept of a list is keeping it of the sorted list
(`filter_sortBy`).
-/

namespace GridGateway.Grid

variable {α : Type} (key : α → Nat)

/-- The place of an element in front of a list: behind all elements with a lower key. -/
theorem sortBy_cons (a : α) (xs : List α) :
    sortBy key (a :: xs) =
      ((sortBy key xs).filter fun b => key b < key a) ++ a :: (sortBy key xs).filter fun b => key a ≤ key b := by
  have htrans : ∀ a b c, decide (key a ≤ key b) = true → decide (key b ≤ key c) = true →
      decide (key a ≤ key c) = true := fun a b c hab hbc =>
    decide_eq_true ((of_decide_eq_true hab).trans (of_decide_eq_true hbc))
  have htotal : ∀ a b, (decide (key a ≤ key b) || decide (key b ≤ key a)) = true := by simp [Nat.le_total]
  obtain ⟨front, back, hcons, hrest, hfront⟩ := List.mergeSort_cons htrans htotal a xs
  have hlower : ∀ b ∈ front, key b < key a := fun b hb => by simpa using hfront b hb
  have hsorted : (front ++ a :: back).Pairwise fun b c => key b ≤ key c := hcons ▸ pairwise_sortBy key (a :: xs)
  have hupper : ∀ b ∈ back, key a ≤ key b := (List.pairwise_cons.1 (List.pairwise_append.1 hsorted).2.1).1
  have hxs : sortBy key xs = front ++ back := hrest
  have hlow : (sortBy key xs).filter (fun b => key b < key a) = front := by
    rw [hxs, List.filter_append, List.filter_eq_self.2 fun b hb => decide_eq_true (hlower b hb),
      List.filter_eq_nil_iff.2 fun b hb => by simpa using hupper b hb, List.append_nil]
  have hhigh : (sortBy key xs).filter (fun b => key a ≤ key b) = back := by
    rw [hxs, List.filter_append, List.filter_eq_self.2 fun b hb => decide_eq_true (hupper b hb),
      List.filter_eq_nil_iff.2 fun b hb => by simpa using hlower b hb, List.nil_append]
  rw [hlow, hhigh]
  exact hcons

/-- What is kept of a sorted list is what is kept of the list, sorted. -/
theorem filter_sortBy (p : α → Bool) (xs : List α) : (sortBy key xs).filter p = sortBy key (xs.filter p) := by
  induction xs with
  | nil => simp [sortBy]
  | cons a xs ih =>
    -- both parts around the new element are kept of the sorted rest
    have hparts (q : α → Bool) : ((sortBy key xs).filter q).filter p = (sortBy key (xs.filter p)).filter q := by
      rw [← ih, List.filter_comm]
    rw [sortBy_cons, List.filter_append, List.filter_cons, hparts, hparts]
    cases hp : p a with
    | true => rw [if_pos rfl, List.filter_cons_of_pos hp, sortBy_cons]
    | false =>
      have hsplit := eq_filter_append_filter (pairwise_sortBy key (xs.filter p))
        (p := fun b => decide (key b < key a)) fun b c hbc hc => by
          simp only [decide_eq_true_eq] at hc ⊢
          exact Nat.lt_of_le_of_lt hbc hc
      rw [if_neg Bool.false_ne_true, List.filter_cons_of_neg (by rw [hp]; exact Bool.false_ne_true)]
      conv_rhs => rw [hsplit]
      simp only [← decide_not, Nat.not_lt]

end GridGateway.Grid
