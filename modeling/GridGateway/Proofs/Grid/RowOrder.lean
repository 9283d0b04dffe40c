import GridGateway.Proofs.Grid.Sorting
import GridGateway.Proofs.Http.Gateway
import GridGateway.Proofs.Json.Members

/-!
# The order of rows

What a grid answers does not depend on the order of the rows in its tables, as long as the keys of the rows differ and
no node is rented twice.  A row is looked up by its key (`find?_eq_of_perm`), sums, counts and the table of countries
come out of any order (`total_perm`, `distinct_perm`, `countCountry_comm`), and a listing is sorted by keys that differ
(`sortBy_eq_of_perm`).  So two grids with the same rows are one inventory, but for the order in which telemetry is
fetched (`SameRows.inventory_eq`).
-/

namespace GridGateway

namespace Grid

open Query Telemetry

/-! ### Lists in any order -/

section

variable {α γ : Type} {xs ys : List α}

/-- Where no more than one element is looked for, the order does not matter. -/
theorem find?_eq_of_perm {p : α → Bool} (h : xs.Perm ys) (hone : xs.countP p ≤ 1) : xs.find? p = ys.find? p := by
  have hfilter : (xs.filter p).Perm (ys.filter p) := h.filter p
  rw [← List.head?_filter, ← List.head?_filter]
  rw [List.countP_eq_length_filter] at hone
  match hxs : xs.filter p with
  | [] => rw [hxs, List.nil_perm] at hfilter; rw [hfilter]
  | [a] => rw [hxs, List.singleton_perm] at hfilter; rw [hfilter]
  | a :: b :: _ => rw [hxs] at hone; simp at hone

/-- No more than one element has a key when all keys differ. -/
private theorem countP_key_le_one [DecidableEq γ] {key : α → γ} (h : (xs.map key).Nodup) (c : γ) :
    xs.countP (fun a => key a = c) ≤ 1 := by
  have hcount := List.nodup_iff_count_le_one.1 h c
  rw [List.count_eq_countP, List.countP_map] at hcount
  refine le_of_eq_of_le (List.countP_congr fun a _ => ?_) hcount
  simp

/-- Sorting does not depend on the order when the place of an element tells its key and the keys differ. -/
theorem sortBy_eq_of_perm {place : α → Nat} {key : α → γ} (h : xs.Perm ys) (hkeys : (xs.map key).Nodup)
    (htells : ∀ a b, place a = place b → key a = key b) : sortBy place xs = sortBy place ys := by
  have hperm : (sortBy place xs).Perm (sortBy place ys) :=
    ((sortBy_perm place xs).trans h).trans (sortBy_perm place ys).symm
  refine hperm.eq_of_pairwise (fun a b ha hb hab hba => ?_) (pairwise_sortBy place xs) (pairwise_sortBy place ys)
  have hkey : key a = key b := htells a b (le_antisymm hab hba)
  exact List.inj_on_of_nodup_map hkeys (mem_sortBy.1 ha) (h.mem_iff.2 (mem_sortBy.1 hb)) hkey

theorem nodup_eraseDups [DecidableEq α] (xs : List α) : xs.eraseDups.Nodup := by
  match xs with
  | [] => rw [List.eraseDups_nil]; exact List.nodup_nil
  | a :: xs =>
    rw [List.eraseDups_cons, List.nodup_cons]
    exact ⟨fun h => by simp [List.mem_eraseDups] at h, nodup_eraseDups _⟩
termination_by xs.length
decreasing_by exact Nat.lt_succ_of_le (List.length_filter_le _ _)

theorem distinct_perm [DecidableEq α] (h : xs.Perm ys) : distinct xs = distinct ys := by
  refine List.Perm.length_eq ((List.perm_ext_iff_of_nodup (nodup_eraseDups xs) (nodup_eraseDups ys)).2 fun a => ?_)
  rw [List.mem_eraseDups, List.mem_eraseDups, h.mem_iff]

end

theorem total_perm {cs ds : List Capacity} (h : cs.Perm ds) : Capacity.total cs = Capacity.total ds := by
  unfold Capacity.total
  refine h.foldr_eq' (fun a _ b _ c => ?_) _
  have hcomm (x y z : UInt64) : y + (x + z) = x + (y + z) := by ac_rfl
  simp only [Capacity.add, hcomm]

/-- Two countries are counted in either order. -/
theorem countCountry_comm (a b : String) (table : List (String × UInt64)) :
    countCountry a (countCountry b table) = countCountry b (countCountry a table) := by
  by_cases h : a = b
  · rw [h]
  · have hab (before : UInt64) := Json.find?_putMember_of_ne (Ne.symm h) before table
    have hba (before : UInt64) := Json.find?_putMember_of_ne h before table
    simp only [countCountry, hab, hba]
    exact Json.putMember_comm h _ _ table

private theorem distribution_perm {ns ms : List NodeRecord} (h : ns.Perm ms) (table : List (String × UInt64)) :
    ns.foldl (fun table n => countCountry n.country table) table =
      ms.foldl (fun table n => countCountry n.country table) table :=
  h.foldl_eq' (fun a _ b _ table => countCountry_comm b.country a.country table) table

/-! ### Tables with the same rows -/

/-- The tables of two grids hold the same rows. -/
structure SameRows (g g' : Grid) : Prop where
  nodes : g.nodes.Perm g'.nodes
  farms : g.farms.Perm g'.farms
  twins : g.twins.Perm g'.twins
  nodeContracts : g.nodeContracts.Perm g'.nodeContracts
  rentContracts : g.rentContracts.Perm g'.rentContracts
  nameContracts : g.nameContracts.Perm g'.nameContracts

/-- The rows of a table differ in their keys, as do the contracts of all tables, and no node is rented twice. -/
structure IsKeyed (g : Grid) : Prop where
  nodes : (g.nodes.map (·.nodeId)).Nodup
  farms : (g.farms.map (·.farmId)).Nodup
  twins : (g.twins.map (·.twinId)).Nodup
  contracts : (g.contracts.map (·.contractId)).Nodup
  rents : ∀ n ∈ g.nodes, g.rentContracts.countP (fun r => r.nodeId = n.nodeId && ContractState.isActive r.state) ≤ 1

/-- The same rows with every table turned around. -/
def reversed (g : Grid) : Grid where
  nodes := g.nodes.reverse
  farms := g.farms.reverse
  twins := g.twins.reverse
  nodeContracts := g.nodeContracts.reverse
  rentContracts := g.rentContracts.reverse
  nameContracts := g.nameContracts.reverse

private theorem sameRows_reversed (g : Grid) : g.SameRows g.reversed :=
  ⟨(List.reverse_perm _).symm, (List.reverse_perm _).symm, (List.reverse_perm _).symm, (List.reverse_perm _).symm,
    (List.reverse_perm _).symm, (List.reverse_perm _).symm⟩

/-- The place of a node in a listing tells its number. -/
private theorem nodeRank_inj {f : NodeFilter} {a b : Node} (h : nodeRank f a = nodeRank f b) : a.nodeId = b.nodeId := by
  have ha : a.nodeId.toNat < UInt32.size := a.nodeId.toNat_lt
  have hb : b.nodeId.toNat < UInt32.size := b.nodeId.toNat_lt
  rw [← UInt32.toNat_inj]
  rw [nodeRank_eq, nodeRank_eq] at h
  split_ifs at h <;> omega

namespace SameRows

variable {g g' : Grid} (h : g.SameRows g') (hkeys : g.IsKeyed)

include h

theorem contracts : g.contracts.Perm g'.contracts :=
  ((h.nodeContracts.map _).append (h.rentContracts.map _)).append (h.nameContracts.map _)

theorem deploymentsOn (nodeId : UInt32) : (g.deploymentsOn nodeId).Perm (g'.deploymentsOn nodeId) :=
  h.nodeContracts.filter _

theorem usedOn (n : NodeRecord) : g.usedOn n = g'.usedOn n := by
  rw [Grid.usedOn, Grid.usedOn, deployed, deployed, total_perm ((h.deploymentsOn n.nodeId).map _)]

theorem freeOn (n : NodeRecord) : g.freeOn n = g'.freeOn n := by
  rw [Grid.freeOn, Grid.freeOn, h.usedOn]

include hkeys

theorem farmOf? (farmId : UInt32) : g.farmOf? farmId = g'.farmOf? farmId :=
  find?_eq_of_perm h.farms (countP_key_le_one hkeys.farms farmId)

theorem rentOf? {n : NodeRecord} (hn : n ∈ g.nodes) : g.rentOf? n.nodeId = g'.rentOf? n.nodeId :=
  find?_eq_of_perm h.rentContracts (hkeys.rents n hn)

theorem isDedicated (n : NodeRecord) : g.isDedicated n = g'.isDedicated n := by
  rw [Grid.isDedicated, Grid.isDedicated, h.farmOf? hkeys]

theorem freeIpsAt (n : NodeRecord) : g.freeIpsAt n = g'.freeIpsAt n := by
  rw [Grid.freeIpsAt, Grid.freeIpsAt, h.farmOf? hkeys]

theorem isRentable {n : NodeRecord} (hn : n ∈ g.nodes) : g.isRentable n = g'.isRentable n := by
  rw [Grid.isRentable, Grid.isRentable, h.isDedicated hkeys, (h.deploymentsOn n.nodeId).isEmpty_eq, h.rentOf? hkeys hn]

theorem isAvailableFor {n : NodeRecord} (hn : n ∈ g.nodes) : g.isAvailableFor n = g'.isAvailableFor n := by
  funext twin
  rw [Grid.isAvailableFor, Grid.isAvailableFor, h.rentOf? hkeys hn, h.isDedicated hkeys]

theorem serve (now : UInt64) {n : NodeRecord} (hn : n ∈ g.nodes) : g.serve now n = g'.serve now n := by
  rw [Grid.serve, Grid.serve, h.usedOn, h.isDedicated hkeys, h.rentOf? hkeys hn]

theorem nodeMatches (now : UInt64) (status : Option Status) (f : NodeFilter) {n : NodeRecord} (hn : n ∈ g.nodes) :
    g.nodeMatches now status f n = g'.nodeMatches now status f n := by
  simp only [Grid.nodeMatches, h.freeOn n, h.farmOf? hkeys, h.rentOf? hkeys hn, h.freeIpsAt hkeys n,
    h.isDedicated hkeys n, h.isRentable hkeys hn, h.isAvailableFor hkeys hn]

theorem matchingNodes (now : UInt64) (status : Option Status) (f : NodeFilter) :
    g.matchingNodes now status f = g'.matchingNodes now status f := by
  have hserved : ((g.nodes.filter (g.nodeMatches now status f)).map (g.serve now)).Perm
      ((g'.nodes.filter (g'.nodeMatches now status f)).map (g'.serve now)) := by
    rw [List.filter_congr fun n hn => h.nodeMatches hkeys now status f hn,
      List.map_congr_left fun n hn => h.serve hkeys now (List.mem_of_mem_filter hn)]
    exact (h.nodes.filter _).map _
  have hids : (((g.nodes.filter (g.nodeMatches now status f)).map (g.serve now)).map (·.nodeId)).Nodup := by
    rw [List.map_map]
    exact hkeys.nodes.sublist (List.filter_sublist.map _)
  exact sortBy_eq_of_perm hserved hids fun _ _ => nodeRank_inj

theorem matchingFarms (f : FarmFilter) : g.matchingFarms f = g'.matchingFarms f := by
  have hids : (((g.farms.map (·.serve)).filter (farmMatches f)).map (·.farmId)).Nodup := by
    refine List.Nodup.sublist (List.filter_sublist.map _) ?_
    rw [List.map_map]
    exact hkeys.farms
  exact sortBy_eq_of_perm ((h.farms.map _).filter _) hids fun _ _ => UInt32.toNat_inj.1

theorem matchingTwins (f : TwinFilter) : g.matchingTwins f = g'.matchingTwins f :=
  sortBy_eq_of_perm (h.twins.filter _) (hkeys.twins.sublist (List.filter_sublist.map _)) fun _ _ => UInt32.toNat_inj.1

theorem matchingContracts (state : Option ContractState) (kind : Option ContractKind) (f : ContractFilter) :
    g.matchingContracts state kind f = g'.matchingContracts state kind f :=
  sortBy_eq_of_perm (h.contracts.filter _) (hkeys.contracts.sublist (List.filter_sublist.map _)) fun _ _ =>
    UInt64.toNat_inj.1

theorem findNode (now : UInt64) (nodeId : UInt32) : g.findNode now nodeId = g'.findNode now nodeId := by
  have hfind : g.nodes.find? (·.nodeId = nodeId) = g'.nodes.find? (·.nodeId = nodeId) :=
    find?_eq_of_perm h.nodes (countP_key_le_one hkeys.nodes nodeId)
  rw [Grid.findNode, Grid.findNode, ← hfind]
  cases hn : g.nodes.find? (·.nodeId = nodeId) with
  | none => rfl
  | some n => exact congrArg Except.ok (h.serve hkeys now (List.mem_of_find?_eq_some hn))

theorem findFarm (farmId : UInt32) : g.findFarm farmId = g'.findFarm farmId := by
  rw [Grid.findFarm, Grid.findFarm, h.farmOf? hkeys]

theorem listNodes (now : UInt64) (f : NodeFilter) (limit : Limit) :
    g.listNodes now f limit = g'.listNodes now f limit := by
  rw [Grid.listNodes, Grid.listNodes, h.nodes.isEmpty_eq]
  simp only [h.matchingNodes hkeys]

theorem listContracts (f : ContractFilter) (limit : Limit) : g.listContracts f limit = g'.listContracts f limit := by
  rw [Grid.listContracts, Grid.listContracts]
  simp only [h.matchingContracts hkeys]

omit hkeys in
theorem figures (now : UInt64) : g.figures now = g'.figures now := by
  funext status
  have hnodes := h.nodes.filter fun n => equals (Status.atTime n.updatedAt now) status
  rw [Grid.figures, Grid.figures, h.twins.length_eq, (h.farms.flatMap_right _).length_eq, h.nodeContracts.length_eq,
    h.rentContracts.length_eq, h.nameContracts.length_eq, hnodes.length_eq, distinct_perm (hnodes.map _),
    distinct_perm (hnodes.map _), hnodes.countP_eq, hnodes.countP_eq, total_perm (hnodes.map _),
    distribution_perm hnodes]

/-- The inventories of two grids with the same rows differ in the order in which telemetry is fetched, if at all. -/
theorem inventory_eq : inventory g' = { inventory g with fetchTargets := (inventory g').fetchTargets } := by
  simp only [inventory, h.listNodes hkeys, h.findNode hkeys, h.matchingFarms hkeys, h.findFarm hkeys,
    h.matchingTwins hkeys, h.listContracts hkeys, h.figures]

end SameRows

/-- Two grids with the same rows answer alike, whatever the order of the rows is: every question of theirs but the one
for the nodes whose telemetry is due, and every request, with a bus or without one. -/
theorem rows_in_any_order {β : Type} {g g' : Grid} (hrows : g.SameRows g') (hkeys : g.IsKeyed) :
    ((∀ now f limit, (inventory g).nodes now f limit = (inventory g').nodes now f limit) ∧
      (∀ now nodeId, (inventory g).node now nodeId = (inventory g').node now nodeId) ∧
      (∀ f limit, (inventory g).farms f limit = (inventory g').farms f limit) ∧
      (∀ farmId, (inventory g).farm farmId = (inventory g').farm farmId) ∧
      (∀ f limit, (inventory g).twins f limit = (inventory g').twins f limit) ∧
      (∀ f limit, (inventory g).contracts f limit = (inventory g').contracts f limit) ∧
      ∀ now f, (inventory g).counters now f = (inventory g').counters now f) ∧
    ∀ (bus : Option (Bus β)) (version : String) (timeout : Nat) (now : UInt64) (request : Http.Request)
      (state : Records × β),
      (g.gateway bus version timeout).serve now request state =
        (g'.gateway bus version timeout).serve now request state := by
  have hinventory := hrows.inventory_eq hkeys
  constructor
  · rw [hinventory]
    exact ⟨fun _ _ _ => rfl, fun _ _ => rfl, fun _ _ => rfl, fun _ => rfl, fun _ _ => rfl, fun _ _ => rfl,
      fun _ _ => rfl⟩
  · -- no request fetches telemetry for nodes that are due
    intro bus version timeout now request state
    rw [gateway, gateway, hinventory]
    rfl

/-- Two farms and two nodes of one of them, one of which is rented, and a contract of every kind. -/
def rentedSite : Grid where
  nodes := [{ nodeId := 1, farmId := 1, country := "Egypt" }, { nodeId := 2, farmId := 1, country := "Belgium" }]
  farms := [{ farmId := 1, name := "one" }, { farmId := 2, name := "two" }]
  twins := [{ twinId := 1 }, { twinId := 2 }]
  nodeContracts := [{ contractId := 1, nodeId := 1, state := "Created", resources := { sru := 5 } },
    { contractId := 2, nodeId := 1, state := "GracePeriod", resources := { sru := 7 } }]
  rentContracts := [{ contractId := 3, nodeId := 2, twinId := 2, state := "Created" },
    { contractId := 4, nodeId := 2, twinId := 1, state := "Deleted" }]
  nameContracts := [{ contractId := 5, name := "a" }]

/-- The site and the site turned around list the nodes for a twin alike, and answer a request for contracts alike. -/
theorem rows_of_rentedSite :
    rentedSite.SameRows rentedSite.reversed ∧ rentedSite.IsKeyed ∧
    (inventory rentedSite).nodes 9 { availableFor := some 2 } {} =
      (inventory rentedSite.reversed).nodes 9 { availableFor := some 2 } {} ∧
    (rentedSite.gateway none "1.0" 9).serve 9 { target := ⟨"/contracts", "state=created"⟩ } (([] : Records), ()) =
      (rentedSite.reversed.gateway none "1.0" 9).serve 9 { target := ⟨"/contracts", "state=created"⟩ } ([], ()) := by
  have hkeyed : rentedSite.IsKeyed := ⟨by decide, by decide, by decide, by decide, by decide⟩
  obtain ⟨hquestions, hrequests⟩ := rows_in_any_order (β := Unit) rentedSite.sameRows_reversed hkeyed
  exact ⟨rentedSite.sameRows_reversed, hkeyed, hquestions.1 9 _ _, hrequests none "1.0" 9 9 _ _⟩

end Grid

end GridGateway
