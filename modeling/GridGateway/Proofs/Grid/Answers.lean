import GridGateway.Grid.Inventory
import GridGateway.Proofs.Entity.ReadBack
import GridGateway.Proofs.Keys

/-!
# What a grid answers with

The entities in the answers of a grid: nodes come without coordinates, pages tell a number of matches only when it
is asked for, and the distribution of the statistics is in ascending order.
-/

namespace GridGateway.Grid

open Json Query

variable (g : Grid) (now : UInt64)

/-- What stands on a page stands in the list. -/
theorem mem_cut {α : Type} {limit : Limit} {xs : List α} {x : α} (h : x ∈ (cut limit xs).1) : x ∈ xs :=
  List.mem_of_mem_drop (List.mem_of_mem_take h)

/-- Without a wish for it, no number of matches is told. -/
theorem count_cut {α : Type} {limit : Limit} (xs : List α) (h : limit.retCount = false) : (cut limit xs).2 = 0 := by
  simp [cut, Limit.shownCount, h]

@[simp]
theorem mem_sortBy {α : Type} {key : α → Nat} {xs : List α} {x : α} : x ∈ sortBy key xs ↔ x ∈ xs :=
  List.mem_mergeSort

private theorem serve_unmapped (n : NodeRecord) : (g.serve now n).location.IsUnmapped := ⟨rfl, rfl⟩

/-- When the status of a filter can be read, a page of the nodes that match is listed. -/
theorem listNodes_of_status {f : NodeFilter} {status : Option Status} (h : f.wantedStatus = .ok status)
    (limit : Limit) :
    g.listNodes now f limit = .ok (cut limit (g.matchingNodes now status f)) := by
  rw [listNodes, h]
  split
  · next hempty =>
    -- without nodes the status does not matter
    have hnodes : g.nodes = [] := List.isEmpty_iff.mp hempty
    simp only [matchingNodes, hnodes]
    rfl
  · rfl

/-- A page of nodes is cut from the nodes that match, with some status. -/
theorem listNodes_eq_ok {f : NodeFilter} {limit : Limit} {page : List Node × UInt64}
    (h : g.listNodes now f limit = .ok page) : ∃ status, page = cut limit (g.matchingNodes now status f) := by
  rw [listNodes] at h
  split at h
  · exact ⟨none, (Except.ok.inj h).symm⟩
  · cases hstatus : f.wantedStatus with
    | error e => rw [hstatus] at h; cases h
    | ok status => rw [hstatus] at h; exact ⟨status, (Except.ok.inj h).symm⟩

/-- The nodes that match are served from records that match. -/
theorem mem_matchingNodes {status : Option Status} {f : NodeFilter} {n : Node} :
    n ∈ g.matchingNodes now status f ↔ ∃ r ∈ g.nodes, g.nodeMatches now status f r = true ∧ g.serve now r = n := by
  simp [matchingNodes, and_assoc]

/-- The nodes of a page come without coordinates. -/
theorem unmapped_of_listNodes {f : NodeFilter} {limit : Limit} {page : List Node × UInt64}
    (h : g.listNodes now f limit = .ok page) {n : Node} (hn : n ∈ page.1) : n.location.IsUnmapped := by
  obtain ⟨status, rfl⟩ := g.listNodes_eq_ok now h
  obtain ⟨r, -, -, rfl⟩ := (g.mem_matchingNodes now).mp (mem_cut hn)
  exact g.serve_unmapped now r

/-- A node that is found has the number asked for, and comes without coordinates. -/
theorem nodeId_of_findNode {nodeId : UInt32} {n : Node} (h : g.findNode now nodeId = .ok n) :
    n.nodeId = nodeId ∧ n.location.IsUnmapped := by
  rw [findNode] at h
  cases hfind : g.nodes.find? (·.nodeId = nodeId) with
  | none => rw [hfind] at h; cases h
  | some r =>
    rw [hfind] at h
    cases h
    have hid := List.find?_some hfind
    exact ⟨of_decide_eq_true hid, g.serve_unmapped now r⟩

theorem exists_findNode {nodeId : UInt32} (h : ∃ n ∈ g.nodes, n.nodeId = nodeId) :
    ∃ node, g.findNode now nodeId = .ok node := by
  rw [findNode]
  cases hfind : g.nodes.find? (·.nodeId = nodeId) with
  | some n => exact ⟨_, rfl⟩
  | none =>
    obtain ⟨n, hn, hid⟩ := h
    exact absurd (decide_eq_true hid) (List.find?_eq_none.1 hfind n hn)

/-- Where numbers differ, a node is found under its number. -/
theorem findNode_of_mem {g : Grid} (hids : (g.nodes.map (·.nodeId)).Nodup) (now : UInt64) {n : NodeRecord}
    (hn : n ∈ g.nodes) : g.findNode now n.nodeId = .ok (g.serve now n) := by
  rw [findNode, find?_key_of_mem hids hn]

theorem findNode_of_missing {nodeId : UInt32} (h : ∀ n ∈ g.nodes, n.nodeId ≠ nodeId) :
    g.findNode now nodeId = .error .nodeNotFound := by
  have hfind : g.nodes.find? (·.nodeId = nodeId) = none := List.find?_eq_none.2 (by simpa using h)
  rw [findNode, hfind]

/-- The table that counts the countries of a list. -/
def distribution (countries : List String) : List (String × UInt64) :=
  countries.foldl (fun table country => countCountry country table) []

theorem distribution_append_singleton (countries : List String) (country : String) :
    distribution (countries ++ [country]) = countCountry country (distribution countries) := by
  rw [distribution, List.foldl_append]
  rfl

/-- A table has its countries in ascending order. -/
theorem distribution_ascending (countries : List String) : Ascending (distribution countries) := by
  induction countries using List.reverseRecOn with
  | nil => exact .nil
  | append_singleton countries last ih =>
    rw [distribution_append_singleton]
    exact ih.putMember _ _

/-- The nodes that the figures for a status are about. -/
def chosen (status : Option Status) : List NodeRecord :=
  g.nodes.filter fun n => equals (Status.atTime n.updatedAt now) status

theorem figures_distribution (status : Option Status) :
    (g.figures now status).nodesDistribution = distribution ((g.chosen now status).map (·.country)) := by
  rw [distribution, List.foldl_map]
  rfl

/-- The distribution counts countries in ascending order. -/
private theorem figures_ascending (status : Option Status) : Ascending (g.figures now status).nodesDistribution := by
  rw [figures_distribution]
  exact distribution_ascending _

/-- The statistics that a grid gives have their distribution in ascending order. -/
theorem ascending_of_counters {f : StatsFilter} {c : Counters} {records : Telemetry.Records}
    (h : (((inventory g).counters now f).run records).1 = .ok c) : Ascending c.nodesDistribution := by
  change (checked f.wantedStatus).map (g.figures now) = .ok c at h
  cases hstatus : f.wantedStatus with
  | error e => rw [hstatus] at h; cases h
  | ok status =>
    rw [hstatus] at h
    cases h
    exact g.figures_ascending now status

/-- When the state and the kind of a filter can be read, a page of the contracts that match is listed. -/
theorem listContracts_of_valid {f : ContractFilter} {state : Option ContractState} {kind : Option ContractKind}
    (hstate : f.wantedState = .ok state) (hkind : f.wantedKind = .ok kind) (limit : Limit) :
    g.listContracts f limit = .ok (cut limit (g.matchingContracts state kind f)) := by
  rw [listContracts, hstate, hkind]
  rfl

/-- A page of contracts tells a number of matches only when it is asked for. -/
theorem count_listContracts {f : ContractFilter} {limit : Limit} {page : List Contract × UInt64}
    (h : g.listContracts f limit = .ok page) (hret : limit.retCount = false) : page.2 = 0 := by
  rw [listContracts] at h
  cases hstate : f.wantedState with
  | error e => rw [hstate] at h; cases h
  | ok state =>
    cases hkind : f.wantedKind with
    | error e => rw [hstate, hkind] at h; cases h
    | ok kind =>
      rw [hstate, hkind] at h
      cases h
      exact count_cut _ hret

end GridGateway.Grid
