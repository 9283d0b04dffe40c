import GridGateway.Proofs.Grid.Pages
import GridGateway.Proofs.Keys
import GridGateway.Proofs.Telemetry.Moves

/-!
# Pages of targets

The targets of a grid are read page by page until a page is empty (`TargetPages`).  This comes across every node exactly
once, with the bookkeeping of its own record, in the order in which the nodes are recorded
(`target_pages_in_recorded_order`).  Unlike a listing the targets are not sorted: they are in the order of the numbers
only if the nodes are recorded in it (`targets_not_in_order_of_numbers`).
-/

namespace GridGateway.Grid

open Query Telemetry

/-- The target that a recorded node is. -/
def targetOf (records : Records) (n : NodeRecord) : Target := .ofRecord n.nodeId n.twinId (records.get? n.nodeId)

/-- The pages of targets, each as large as asked for and the next one behind the other, up to the first that is empty.
-/
structure TargetPages (g : Grid) (records : Records) (s : UInt64) (pages : List (List Target)) : Prop where
  read : ∀ (k : Nat) (hk : k < pages.length), ∃ offset : UInt64, offset.toNat = k * s.toNat ∧
    (g.inventory.fetchTargets offset s).run records = (.ok pages[k], records)
  nonempty : ∀ page ∈ pages, page ≠ []
  last : ∃ offset : UInt64, offset.toNat = pages.length * s.toNat ∧
    (g.inventory.fetchTargets offset s).run records = (.ok [], records)

/-- The targets of all nodes, cut into pages. -/
def cutTargets (g : Grid) (records : Records) (s : UInt64) : List (List Target) :=
  (List.range (g.nodes.length ⌈/⌉ s.toNat)).map fun k =>
    (g.nodes.map (targetOf records)).extract (k * s.toNat) ((k + 1) * s.toNat)

section

variable {g : Grid} {records : Records} {s : UInt64}

@[simp]
theorem length_cutTargets : (g.cutTargets records s).length = g.nodes.length ⌈/⌉ s.toNat := by
  rw [cutTargets, List.length_map, List.length_range]

private theorem getElem_cutTargets {k : Nat} (hk : k < (g.cutTargets records s).length) :
    (g.cutTargets records s)[k] =
      (g.nodes.map (targetOf records)).extract (k * s.toNat) ((k + 1) * s.toNat) := by
  simp only [cutTargets, List.getElem_map, List.getElem_range]

private theorem flatten_cutTargets (hs : 1 ≤ s.toNat) :
    (g.cutTargets records s).flatten = g.nodes.map (targetOf records) := by
  have htiles := flatMap_pages hs (g.nodes.map (targetOf records))
  rwa [List.length_map] at htiles

private theorem fetchTargets_eq_extract {offset : UInt64} {k : Nat} (h : offset.toNat = k * s.toNat) :
    (g.inventory.fetchTargets offset s).run records =
      (.ok ((g.nodes.map (targetOf records)).extract (k * s.toNat) ((k + 1) * s.toNat)), records) := by
  have hsize : (k + 1) * s.toNat - k * s.toNat = s.toNat := by rw [Nat.succ_mul, Nat.add_sub_cancel_left]
  have hrun : (g.inventory.fetchTargets offset s).run records = (.ok (g.targets records offset s), records) := rfl
  rw [hrun, targets, h, List.extract_eq_take_drop, hsize, List.map_take, List.map_drop]
  rfl

/-- Where the page behind the last one begins still fits a word. -/
private theorem mul_pages_lt (hids : (g.nodes.map (·.nodeId)).Nodup) (hs : 1 ≤ s.toNat) :
    (g.nodes.length ⌈/⌉ s.toNat) * s.toNat < UInt64.size := by
  have hword : s.toNat < UInt64.size := s.toNat_lt
  have hnodes : g.nodes.length ≤ UInt32.size := length_nodes_le hids
  have hsizes : 2 * UInt32.size < UInt64.size := by decide
  rcases Nat.lt_or_ge 1 (g.nodes.length ⌈/⌉ s.toNat) with hmany | hfew
  · -- two pages and more are no longer than twice the nodes
    obtain ⟨m, hm⟩ := Nat.exists_eq_add_of_le' (Nat.le_of_lt hmany)
    have hbefore : s.toNat * m < g.nodes.length := by
      rw [← Nat.not_le, ← ceilDiv_le_iff_le_mul hs, hm]
      omega
    have hone : s.toNat * 1 ≤ s.toNat * m := Nat.mul_le_mul_left _ (by omega)
    rw [hm, Nat.succ_mul, Nat.mul_comm]
    omega
  · calc (g.nodes.length ⌈/⌉ s.toNat) * s.toNat ≤ 1 * s.toNat := Nat.mul_le_mul_right _ hfew
      _ < UInt64.size := by rwa [Nat.one_mul]

private theorem extract_targets_ne_nil_iff (hs : 1 ≤ s.toNat) (k : Nat) :
    (g.nodes.map (targetOf records)).extract (k * s.toNat) ((k + 1) * s.toNat) ≠ [] ↔
      k < g.nodes.length ⌈/⌉ s.toNat := by
  have hpage := extract_ne_nil_iff hs (Nat.le_add_left 1 k) (g.nodes.map (targetOf records))
  rwa [Nat.add_sub_cancel, List.length_map] at hpage

private theorem targetPages_cutTargets (hids : (g.nodes.map (·.nodeId)).Nodup) (records : Records) (hs : 1 ≤ s.toNat) :
    g.TargetPages records s (g.cutTargets records s) := by
  have hoffset (k : Nat) (hk : k ≤ g.nodes.length ⌈/⌉ s.toNat) : (UInt64.ofNat (k * s.toNat)).toNat = k * s.toNat :=
    UInt64.toNat_ofNat_of_lt' (Nat.lt_of_le_of_lt (Nat.mul_le_mul_right _ hk) (mul_pages_lt hids hs))
  constructor
  · intro k hk
    have hk' : k ≤ g.nodes.length ⌈/⌉ s.toNat := Nat.le_of_lt (length_cutTargets ▸ hk)
    exact ⟨_, hoffset k hk', by rw [fetchTargets_eq_extract (hoffset k hk'), getElem_cutTargets]⟩
  · intro page hpage
    obtain ⟨k, hk, rfl⟩ := List.mem_map.1 hpage
    exact (extract_targets_ne_nil_iff hs k).2 (List.mem_range.1 hk)
  · have hempty : (g.nodes.map (targetOf records)).extract (g.nodes.length ⌈/⌉ s.toNat * s.toNat)
        ((g.nodes.length ⌈/⌉ s.toNat + 1) * s.toNat) = [] :=
      not_imp_comm.1 (extract_targets_ne_nil_iff hs _).1 (Nat.lt_irrefl _)
    rw [length_cutTargets]
    exact ⟨_, hoffset _ (Nat.le_refl _), by rw [fetchTargets_eq_extract (hoffset _ (Nat.le_refl _)), hempty]⟩

/-- There are no other pages. -/
theorem TargetPages.eq {pages : List (List Target)} (h : g.TargetPages records s pages) (hs : 1 ≤ s.toNat) :
    pages = g.cutTargets records s := by
  have hpage (k : Nat) (hk : k < pages.length) :
      pages[k] = (g.nodes.map (targetOf records)).extract (k * s.toNat) ((k + 1) * s.toNat) := by
    obtain ⟨offset, hoffset, hread⟩ := h.read k hk
    rw [fetchTargets_eq_extract hoffset] at hread
    exact (Except.ok.inj (Prod.mk.inj hread).1).symm
  have hlength : pages.length = g.nodes.length ⌈/⌉ s.toNat := by
    refine Nat.le_antisymm (Nat.le_of_not_lt fun hmore => ?_) (Nat.le_of_not_lt fun hless => ?_)
    · -- one page more would be empty
      have hne := h.nonempty _ (List.getElem_mem hmore)
      rw [hpage _ hmore, extract_targets_ne_nil_iff hs] at hne
      exact Nat.lt_irrefl _ hne
    · -- the page behind one page less would not be empty
      obtain ⟨offset, hoffset, hread⟩ := h.last
      rw [fetchTargets_eq_extract hoffset] at hread
      exact (extract_targets_ne_nil_iff hs _).2 hless (Except.ok.inj (Prod.mk.inj hread).1)
  refine List.ext_getElem (by rw [hlength, length_cutTargets]) fun k hk _ => ?_
  rw [hpage k hk, getElem_cutTargets]

/-- The pages of targets go through the nodes in the order in which they are recorded.  They come across each node
exactly once, with what its own record says of failures and of the last attempt.  They are in strictly ascending order
of the numbers exactly if the nodes are recorded in it. -/
theorem target_pages_in_recorded_order (hids : (g.nodes.map (·.nodeId)).Nodup) (records : Records) (hs : 1 ≤ s) :
    ∃ pages, (∀ other, g.TargetPages records s other ↔ other = pages) ∧
      pages.flatten = g.nodes.map (targetOf records) ∧
      (∀ n ∈ g.nodes, pages.flatten.filter (·.nodeId = n.nodeId) = [targetOf records n]) ∧
      (pages.flatten.Pairwise (·.nodeId < ·.nodeId) ↔ g.nodes.Pairwise (·.nodeId < ·.nodeId)) := by
  have hs : 1 ≤ s.toNat := UInt64.le_iff_toNat_le.1 hs
  have hids' : ((g.nodes.map (targetOf records)).map (·.nodeId)).Nodup := by
    rw [List.map_map]
    exact hids
  refine ⟨g.cutTargets records s, fun other => ⟨fun h => h.eq hs, fun h => h ▸ targetPages_cutTargets hids records hs⟩,
    flatten_cutTargets hs, fun n hn => ?_, ?_⟩
  · rw [flatten_cutTargets hs]
    exact filter_key_eq_singleton hids' (List.mem_map_of_mem hn)
  · rw [flatten_cutTargets hs, List.pairwise_map]
    rfl

end

/-- A site whose nodes are not recorded in the order of their numbers. -/
def unsortedSite : Grid where
  nodes := [{ nodeId := 2, twinId := 2 }, { nodeId := 1, twinId := 1 }]

theorem target_pages_of_unsortedSite :
    ∃ pages, unsortedSite.TargetPages [(1, { retries := 3, lastFetchAttempt := some 40 })] 1 pages ∧
      pages.flatten = [⟨2, 2, 0, none⟩, ⟨1, 1, 3, some 40⟩] := by
  obtain ⟨pages, hpages, hflatten, -, -⟩ := target_pages_in_recorded_order (g := unsortedSite) (s := 1) (by decide)
    [(1, { retries := 3, lastFetchAttempt := some 40 })] (by decide)
  exact ⟨pages, (hpages pages).2 rfl, hflatten⟩

/-- The pages of targets are not always in the order of the numbers. -/
theorem targets_not_in_order_of_numbers :
    (unsortedSite.nodes.map (·.nodeId)).Nodup ∧
      ∃ pages, unsortedSite.TargetPages [] 1 pages ∧ ¬ pages.flatten.Pairwise (·.nodeId < ·.nodeId) := by
  refine ⟨by decide, [[⟨2, 2, 0, none⟩], [⟨1, 1, 0, none⟩]], ⟨fun k hk => ?_, by simp, 2, rfl, rfl⟩, by decide⟩
  match k, hk with
  | 0, _ => exact ⟨0, rfl, rfl⟩
  | 1, _ => exact ⟨1, rfl, rfl⟩

end GridGateway.Grid
