import GridGateway.Proofs.Grid.Answers
import GridGateway.Proofs.Query.Pages
import Mathlib.Algebra.Order.Floor.Div

/-!
# The pages of a grid's listings

A listing is sorted (`orderedBy_sortBy`), and its pages tile it (`tiles_cut`): a page holds the elements at exact
positions (`cut_eq_extract`), the pages one after the other are the whole listing (`flatMap_pages`), and there is
something on a page as long as its number is not past that of the last one (`extract_ne_nil_iff`).  In a listing of
nodes for a twin the nodes that the twin rents form the first part (`matchingNodes_ordered`).
-/

namespace GridGateway.Grid

open Query

/-! ### Order -/

section

variable {α : Type} {key : α → Nat} {xs : List α}

theorem sortBy_perm (key : α → Nat) (xs : List α) : (sortBy key xs).Perm xs := List.mergeSort_perm xs _

theorem pairwise_sortBy (key : α → Nat) (xs : List α) : (sortBy key xs).Pairwise fun a b => key a ≤ key b := by
  have hsorted : (xs.mergeSort fun a b => decide (key a ≤ key b)).Pairwise fun a b => decide (key a ≤ key b) := by
    refine List.pairwise_mergeSort (fun a b c hab hbc => ?_) (fun a b => ?_) xs
    · rw [decide_eq_true_eq] at *
      exact hab.trans hbc
    · rw [Bool.or_eq_true, decide_eq_true_eq, decide_eq_true_eq]
      exact Nat.le_total _ _
  exact hsorted.imp of_decide_eq_true

/-- In ascending order of a key, and strictly so when the keys in the table that the list is drawn from differ. -/
def OrderedBy (key : α → Nat) (keys : List Nat) (T : List α) : Prop :=
  (T.Pairwise fun a b => key a ≤ key b) ∧ (keys.Nodup → T.Pairwise fun a b => key a < key b)

/-- A list in ascending order whose keys are drawn from a table. -/
private theorem orderedBy_of_subperm {keys : List Nat} (hle : xs.Pairwise fun a b => key a ≤ key b)
    (h : (xs.map key).Subperm keys) : OrderedBy key keys xs := by
  obtain ⟨drawn, hperm, hdrawn⟩ := h
  refine ⟨hle, fun hkeys => ?_⟩
  have hne : xs.Pairwise fun a b => key a ≠ key b := List.pairwise_map.1 (hperm.nodup_iff.1 (hkeys.sublist hdrawn))
  exact (hle.and hne).imp fun ⟨hle, hne⟩ => lt_of_le_of_ne hle hne

theorem orderedBy_sortBy {keys : List Nat} (h : (xs.map key).Sublist keys) : OrderedBy key keys (sortBy key xs) :=
  orderedBy_of_subperm (pairwise_sortBy key xs) (((sortBy_perm key xs).map key).subperm.trans h.subperm)

/-- A list in which the elements of a kind are in front of the others falls into two parts. -/
theorem eq_filter_append_filter {R : α → α → Prop} (h : xs.Pairwise R) {p : α → Bool}
    (hfront : ∀ a b, R a b → p b = true → p a = true) : xs = xs.filter p ++ xs.filter fun a => !p a := by
  induction xs with
  | nil => rfl
  | cons a xs ih =>
    obtain ⟨ha, hxs⟩ := List.pairwise_cons.1 h
    cases hp : p a with
    | true =>
      rw [List.filter_cons_of_pos hp, List.filter_cons_of_neg (by rw [hp]; decide), List.cons_append, ← ih hxs]
    | false =>
      -- behind an element of the other kind there are no more of this one
      have hrest : ∀ b ∈ xs, p b = false := by
        intro b hb
        rw [← Bool.not_eq_true]
        intro hpb
        rw [hfront a b (ha b hb) hpb] at hp
        cases hp
      have hnone : xs.filter p = [] := List.filter_eq_nil_iff.2 fun b hb => by rw [hrest b hb]; decide
      have hall : (xs.filter fun b => !p b) = xs := List.filter_eq_self.2 fun b hb => by rw [hrest b hb]; rfl
      rw [List.filter_cons_of_neg (by rw [hp]; decide), List.filter_cons_of_pos (by rw [hp]; rfl), hnone, hall,
        List.nil_append]

end

/-- Whether a node is rented by the twin that a listing is for. -/
def isPreferred (f : NodeFilter) (n : Node) : Bool := f.availableFor.any fun t => n.rentedByTwinId.toUInt64 = t

private theorem isPreferred_iff {f : NodeFilter} {n : Node} :
    isPreferred f n = true ↔ f.availableFor = some n.rentedByTwinId.toUInt64 := by
  unfold isPreferred
  cases f.availableFor with
  | none => exact iff_of_false Bool.false_ne_true fun h => (nomatch h)
  | some t => rw [Option.any_some, decide_eq_true_eq, Option.some.injEq, eq_comm]

theorem nodeRank_eq (f : NodeFilter) (n : Node) :
    nodeRank f n = (if isPreferred f n then 0 else UInt32.size) + n.nodeId.toNat := rfl

/-- Two preferred nodes, or two others, stand in the order of their numbers. -/
private theorem nodeRank_le_iff {f : NodeFilter} {a b : Node} (h : isPreferred f a = isPreferred f b) :
    nodeRank f a ≤ nodeRank f b ↔ a.nodeId.toNat ≤ b.nodeId.toNat := by
  rw [nodeRank_eq, nodeRank_eq, h, Nat.add_le_add_iff_left]

private theorem isPreferred_of_nodeRank_le {f : NodeFilter} {a b : Node} (h : nodeRank f a ≤ nodeRank f b)
    (hb : isPreferred f b = true) : isPreferred f a = true := by
  rw [← Bool.not_eq_false]
  intro ha
  rw [nodeRank_eq, nodeRank_eq, ha, hb, if_neg Bool.false_ne_true, if_pos rfl] at h
  have hid : b.nodeId.toNat < UInt32.size := b.nodeId.toNat_lt
  omega

/-- The order of a listing of nodes: first those rented by the twin that it is for, then the others, each part in
the order of their numbers. -/
def NodesOrdered (g : Grid) (f : NodeFilter) (T : List Node) : Prop :=
  ∃ front rest, T = front ++ rest ∧
    (∀ n ∈ front, f.availableFor = some n.rentedByTwinId.toUInt64) ∧
    (∀ n ∈ rest, f.availableFor ≠ some n.rentedByTwinId.toUInt64) ∧
    ∀ part ∈ [front, rest], OrderedBy (·.nodeId.toNat) (g.nodes.map (·.nodeId.toNat)) part

theorem matchingNodes_ordered (g : Grid) (now : UInt64) (status : Option Status) (f : NodeFilter) :
    g.NodesOrdered f (g.matchingNodes now status f) := by
  have hranks : (g.matchingNodes now status f).Pairwise fun a b => nodeRank f a ≤ nodeRank f b := pairwise_sortBy _ _
  have hids : ((g.matchingNodes now status f).map (·.nodeId.toNat)).Subperm (g.nodes.map (·.nodeId.toNat)) := by
    have hsorted := ((sortBy_perm (nodeRank f) ((g.nodes.filter (g.nodeMatches now status f)).map (g.serve now))).map
      (·.nodeId.toNat)).subperm
    rw [List.map_map] at hsorted
    exact hsorted.trans (List.filter_sublist.map _).subperm
  -- within a part the ranks compare as the numbers do
  have hpart {p : Node → Bool} (hp : ∀ a b, p a = true → p b = true → isPreferred f a = isPreferred f b) :
      OrderedBy (·.nodeId.toNat) (g.nodes.map (·.nodeId.toNat)) ((g.matchingNodes now status f).filter p) := by
    refine orderedBy_of_subperm ((hranks.filter p).imp_of_mem fun ha hb h => ?_)
      ((List.filter_sublist.map _).subperm.trans hids)
    exact (nodeRank_le_iff (hp _ _ (List.mem_filter.1 ha).2 (List.mem_filter.1 hb).2)).1 h
  refine ⟨_, _, eq_filter_append_filter hranks fun a b => isPreferred_of_nodeRank_le, fun n hn => ?_, fun n hn => ?_,
    List.forall_mem_cons.2 ⟨hpart fun a b ha hb => ha.trans hb.symm, List.forall_mem_singleton.2 (hpart ?_)⟩⟩
  · exact isPreferred_iff.1 (List.mem_filter.1 hn).2
  · rw [Ne, ← isPreferred_iff, Bool.not_eq_true, ← Bool.not_eq_true']
    exact (List.mem_filter.1 hn).2
  · intro a b ha hb
    rw [Bool.not_eq_true'] at ha hb
    exact ha.trans hb.symm

theorem length_matchingNodes_le (g : Grid) (now : UInt64) (status : Option Status) (f : NodeFilter) :
    (g.matchingNodes now status f).length ≤ g.nodes.length := by
  rw [matchingNodes, (sortBy_perm _ _).length_eq, List.length_map]
  exact List.length_filter_le _ _

/-! ### Pages -/

section

variable {α : Type}

/-- A page holds the elements at exact positions, even when the position of the first one does not fit a word. -/
theorem cut_eq_extract {l : Limit} {T : List α} (hT : T.length < UInt64.size) (hpage : 1 ≤ l.page.toNat) :
    (cut l T).1 = T.extract ((l.page.toNat - 1) * l.size.toNat) (l.page.toNat * l.size.toNat) := by
  obtain ⟨k, hk⟩ := Nat.exists_eq_add_of_le' hpage
  have hsize : (k + 1) * l.size.toNat - k * l.size.toNat = l.size.toNat := by
    rw [Nat.succ_mul, Nat.add_sub_cancel_left]
  rw [cut, Limit.offset_toNat, List.extract_eq_take_drop, hk, Nat.add_sub_cancel, hsize]
  rcases Nat.le_total (k * l.size.toNat) (UInt64.size - 1) with hfits | hcapped
  · rw [Nat.min_eq_left hfits]
  · -- the cap is behind the last element as well
    have hlength : T.length ≤ UInt64.size - 1 := Nat.le_sub_one_of_lt hT
    rw [Nat.min_eq_right hcapped, List.drop_of_length_le hlength, List.drop_of_length_le (hlength.trans hcapped)]

/-- The pages one after the other. -/
theorem flatMap_pages {s : Nat} (hs : 1 ≤ s) (T : List α) :
    ((List.range (T.length ⌈/⌉ s)).flatMap fun i => T.extract (i * s) ((i + 1) * s)) = T := by
  have hfirst (n : Nat) : ((List.range n).flatMap fun i => T.extract (i * s) ((i + 1) * s)) = T.take (n * s) := by
    induction n with
    | zero => rw [Nat.zero_mul]; rfl
    | succ n ih =>
      have hsize : (n + 1) * s - n * s = s := by rw [Nat.succ_mul, Nat.add_sub_cancel_left]
      rw [List.range_succ, List.flatMap_append, ih, List.flatMap_singleton, List.extract_eq_take_drop, hsize,
        Nat.succ_mul, List.take_add]
  rw [hfirst, List.take_of_length_le]
  rw [Nat.mul_comm]
  exact (ceilDiv_le_iff_le_mul hs).1 le_rfl

theorem extract_ne_nil_iff {s k : Nat} (hs : 1 ≤ s) (hk : 1 ≤ k) (T : List α) :
    T.extract ((k - 1) * s) (k * s) ≠ [] ↔ k ≤ T.length ⌈/⌉ s := by
  obtain ⟨k, rfl⟩ := Nat.exists_eq_add_of_le' hk
  have hsize : (k + 1) * s - k * s = s := by rw [Nat.succ_mul, Nat.add_sub_cancel_left]
  rw [Nat.add_sub_cancel, List.extract_eq_take_drop, hsize, Nat.succ_le_iff, ← Nat.not_le, ceilDiv_le_iff_le_mul hs,
    Nat.mul_comm s k, Ne, List.take_eq_nil_iff, List.drop_eq_nil_iff, or_iff_right (Nat.ne_of_gt hs)]

/-- What is served for a limit are the pages of a listing.  Whatever the size of a page, a page holds the elements at
exact positions, all pages one after the other are the listing, and those behind them are empty. -/
def Tiles (T : List α) (serve : Limit → Except InventoryError (List α × UInt64)) : Prop :=
  ∀ s : UInt64, 1 ≤ s → ∃ pages : UInt64 → List α,
    (∀ l, l.size = s → 1 ≤ l.page → serve l = .ok (pages l.page, l.shownCount (.ofNat T.length))) ∧
    (∀ k, 1 ≤ k → pages k = T.extract ((k.toNat - 1) * s.toNat) (k.toNat * s.toNat)) ∧
    ((List.range (T.length ⌈/⌉ s.toNat)).flatMap fun i => pages (.ofNat (i + 1))) = T ∧
    ∀ k, 1 ≤ k → (pages k ≠ [] ↔ k.toNat ≤ T.length ⌈/⌉ s.toNat)

theorem tiles_cut {T : List α} (hT : T.length < UInt64.size) : Tiles T fun l => .ok (cut l T) := by
  intro s hs
  have hs : 1 ≤ s.toNat := UInt64.le_iff_toNat_le.1 hs
  refine ⟨fun k => T.extract ((k.toNat - 1) * s.toNat) (k.toNat * s.toNat), ?_, fun k _ => rfl, ?_, ?_⟩
  · rintro l rfl hpage
    exact congrArg Except.ok (Prod.ext (cut_eq_extract hT (UInt64.le_iff_toNat_le.1 hpage)) rfl)
  · -- there are no more pages than elements, so that their numbers are words
    have hpages : T.length ⌈/⌉ s.toNat ≤ T.length := (ceilDiv_le_iff_le_mul hs).2 (Nat.le_mul_of_pos_left _ hs)
    have hnumber : ∀ i ∈ List.range (T.length ⌈/⌉ s.toNat), (UInt64.ofNat (i + 1)).toNat = i + 1 := by
      intro i hi
      refine UInt64.toNat_ofNat_of_lt' (Nat.lt_of_le_of_lt ?_ hT)
      exact (Nat.succ_le_of_lt (List.mem_range.1 hi)).trans hpages
    calc (List.range (T.length ⌈/⌉ s.toNat)).flatMap (fun i =>
          T.extract (((UInt64.ofNat (i + 1)).toNat - 1) * s.toNat) ((UInt64.ofNat (i + 1)).toNat * s.toNat))
        = (List.range (T.length ⌈/⌉ s.toNat)).flatMap fun i => T.extract (i * s.toNat) ((i + 1) * s.toNat) := by
          refine List.flatMap_congr fun i hi => ?_
          rw [hnumber i hi, Nat.add_sub_cancel]
      _ = T := flatMap_pages hs T
  · exact fun k hk => extract_ne_nil_iff hs (UInt64.le_iff_toNat_le.1 hk) T

end

/-- The tables of a grid that fits into memory: no more entries than a word counts. -/
structure FitsMemory (g : Grid) : Prop where
  nodes : g.nodes.length < UInt64.size
  farms : g.farms.length < UInt64.size
  twins : g.twins.length < UInt64.size
  contracts : g.contracts.length < UInt64.size

end GridGateway.Grid
