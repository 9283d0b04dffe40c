import GridGateway.Proofs.Grid.Matching
import GridGateway.Proofs.Grid.Statistics

/-!
# Capacity in use

What is used of a node is what its active deployments use and what is reserved for its system (`toNat_usedOn`), as long
as the sums fit a word.  The answers about nodes are made from the nodes, the farms, the active deployments and the
active rents alone (`unaffected_of_sameAccount`), so a contract that is not active changes none of them, wherever it
stands in its table.  An active deployment is added to what is used of its own node, and nothing else is served
differently (`serve_withDeployment`).

Nodes in answers are served from records (`IsServed.exists_record`), so what holds of these holds of every answer.
-/

namespace GridGateway

open Query Telemetry

/-- The resources of a node. -/
inductive Resource where
  | cru
  | sru
  | hru
  | mru
  deriving DecidableEq, Repr

namespace Capacity

/-- The amount of a resource. -/
def amount (c : Capacity) : Resource → UInt64
  | .cru => c.cru
  | .sru => c.sru
  | .hru => c.hru
  | .mru => c.mru

private theorem ext_amount {a b : Capacity} (h : ∀ r, a.amount r = b.amount r) : a = b := by
  obtain ⟨_, _, _, _⟩ := a
  obtain ⟨_, _, _, _⟩ := b
  exact (Capacity.mk.injEq ..).mpr ⟨h .cru, h .sru, h .hru, h .mru⟩

@[simp]
theorem amount_add (a b : Capacity) (r : Resource) : (a + b).amount r = a.amount r + b.amount r := by
  cases r <;> rfl

/-- A capacity on top of a sum may as well be added to it. -/
private theorem add_add_eq (a b c : Capacity) : a + b + c = b + c + a := by
  refine ext_amount fun r => ?_
  simp only [amount_add]
  ac_rfl

end Capacity

namespace Grid

/-! ### The sum of what is used -/

/-- What the active deployments on a node use of a resource and what is reserved of it, as a number. -/
def useOf (g : Grid) (n : NodeRecord) (r : Resource) : Nat :=
  ((g.deploymentsOn n.nodeId).map fun c => (c.resources.amount r).toNat).sum + (n.reserved.amount r).toNat

/-- What is used of the nodes fits a word. -/
def UseFits (g : Grid) : Prop := ∀ n ∈ g.nodes, ∀ r, g.useOf n r < UInt64.size

theorem toNat_usedOn {g : Grid} {n : NodeRecord} {r : Resource} (h : g.useOf n r < UInt64.size) :
    ((g.usedOn n).amount r).toNat = g.useOf n r := by
  unfold useOf at h ⊢
  have hdeployed : ((g.deployed n.nodeId).amount r).toNat =
      ((g.deploymentsOn n.nodeId).map fun c => (c.resources.amount r).toNat).sum := by
    rw [deployed, Capacity.toNat_total (r := (·.amount r)), List.map_map]
    · rfl
    · cases r <;> rfl
    · exact fun a b => Capacity.amount_add a b r
    · rw [List.map_map]
      exact Nat.lt_of_le_of_lt (Nat.le_add_right _ _) h
  rw [usedOn, Capacity.amount_add, UInt64.toNat_add, hdeployed]
  exact Nat.mod_eq_of_lt h

/-- A tenth of the memory is reserved, and at least 2 GiB. -/
private theorem toNat_reservedMru (total : UInt64) :
    (Sql.reservedMru total).toNat = max (total.toNat / 10) (2 * 1024 * 1024 * 1024) := by
  have hmax (a b : UInt64) : (max a b).toNat = max a.toNat b.toNat := by
    rw [Nat.max_def]
    change (if a ≤ b then b else a).toNat = _
    split <;> rename_i h <;> rw [UInt64.le_iff_toNat_le] at h
    · rw [if_pos h]
    · rw [if_neg h]
  rw [Sql.reservedMru, hmax, UInt64.toNat_div]
  rfl

private theorem usedOn_of_vacant {g : Grid} {now : UInt64} {n : NodeRecord} (h : g.IsVacant (g.serve now n)) :
    g.usedOn n = n.reserved := by
  have hnone : g.deploymentsOn n.nodeId = [] := List.isEmpty_iff.mp ((g.deploymentsOn_isEmpty_iff now n).mpr h)
  refine Capacity.ext_amount fun r => ?_
  rw [usedOn, deployed, hnone, Capacity.amount_add]
  cases r <;> exact UInt64.zero_add _

/-! ### Grids with the same accounts -/

/-- What the answers about a node are made from besides its record is the same in two grids. -/
structure SameAccount (g g' : Grid) (n : NodeRecord) : Prop where
  farms : g'.farms = g.farms
  deployments : g'.deploymentsOn n.nodeId = g.deploymentsOn n.nodeId
  rent : g'.rentOf? n.nodeId = g.rentOf? n.nodeId

namespace SameAccount

variable {g g' : Grid} {n : NodeRecord} (h : g.SameAccount g' n)

include h

theorem usedOn : g'.usedOn n = g.usedOn n := by
  rw [Grid.usedOn, Grid.usedOn, deployed, deployed, h.deployments]

theorem freeOn : g'.freeOn n = g.freeOn n := by
  rw [Grid.freeOn, Grid.freeOn, h.usedOn]

theorem serve (now : UInt64) : g'.serve now n = g.serve now n := by
  simp only [Grid.serve, isDedicated, farmOf?, h.farms, h.usedOn, h.rent]

theorem isAvailableFor : g'.isAvailableFor n = g.isAvailableFor n := by
  funext twin
  simp only [Grid.isAvailableFor, isDedicated, farmOf?, h.farms, h.rent]

theorem nodeMatches (now : UInt64) (status : Option Status) (f : NodeFilter) :
    g'.nodeMatches now status f n = g.nodeMatches now status f n := by
  simp only [Grid.nodeMatches, freeIpsAt, isDedicated, isRentable, farmOf?, h.farms, h.freeOn, h.rent, h.deployments,
    h.isAvailableFor]

end SameAccount

/-- Two grids answer alike, but for the list and the number of contracts: every listing and every look-up of nodes,
farms and twins, the capacity that is used of a record and left of it, and the figures. -/
structure Unaffected (g g' : Grid) : Prop where
  nodes : ∀ now f limit, (inventory g').nodes now f limit = (inventory g).nodes now f limit
  node : ∀ now nodeId, (inventory g').node now nodeId = (inventory g).node now nodeId
  farms : ∀ f limit, (inventory g').farms f limit = (inventory g).farms f limit
  farm : ∀ farmId, (inventory g').farm farmId = (inventory g).farm farmId
  twins : ∀ f limit, (inventory g').twins f limit = (inventory g).twins f limit
  used : ∀ n, g'.usedOn n = g.usedOn n
  free : ∀ n, g'.freeOn n = g.freeOn n
  figures : ∀ now status,
    g'.figures now status = { g.figures now status with contracts := (g'.figures now status).contracts }

theorem unaffected_of_sameAccount {g g' : Grid} (hnodes : g'.nodes = g.nodes) (htwins : g'.twins = g.twins)
    (h : ∀ n, g.SameAccount g' n) : g.Unaffected g' := by
  have hfarms : g'.farms = g.farms := (h {}).farms
  have hserve (now : UInt64) : g'.serve now = g.serve now := funext fun n => (h n).serve now
  have hmatches (now : UInt64) (status : Option Status) (f : NodeFilter) :
      g'.nodeMatches now status f = g.nodeMatches now status f := funext fun n => (h n).nodeMatches now status f
  exact {
    nodes := fun now f limit => by simp only [inventory, listNodes, matchingNodes, hnodes, hserve, hmatches]
    node := fun now nodeId => by simp only [inventory, findNode, hnodes, hserve]
    farms := fun f limit => by simp only [inventory, matchingFarms, hfarms]
    farm := fun farmId => by simp only [inventory, findFarm, farmOf?, hfarms]
    twins := fun f limit => by simp only [inventory, matchingTwins, htwins]
    used := fun n => (h n).usedOn
    free := fun n => (h n).freeOn
    figures := fun now status => by simp only [figures, hnodes, hfarms, htwins] }

/-! ### One contract more -/

/-- The grid with a deployment added behind the first `k` ones. -/
def withDeployment (g : Grid) (k : Nat) (c : NodeContract) : Grid :=
  { g with nodeContracts := g.nodeContracts.take k ++ c :: g.nodeContracts.drop k }

/-- The grid with a rent added behind the first `k` ones. -/
def withRent (g : Grid) (k : Nat) (c : RentContract) : Grid :=
  { g with rentContracts := g.rentContracts.take k ++ c :: g.rentContracts.drop k }

private theorem isActive_iff {state : String} :
    ContractState.isActive state = true ↔ state = "Created" ∨ state = "GracePeriod" := by
  rw [ContractState.isActive, List.any_eq_true]
  constructor
  · rintro ⟨s, hs, hlabel⟩
    have hstate : s.label = state := of_decide_eq_true hlabel
    cases s with
    | created => exact .inl hstate.symm
    | gracePeriod => exact .inr hstate.symm
    | deleted => simp [ContractState.active] at hs
  · rintro (rfl | rfl)
    · exact ⟨.created, by simp [ContractState.active], rfl⟩
    · exact ⟨.gracePeriod, by simp [ContractState.active], rfl⟩

/-- An element that is not kept may be put anywhere. -/
private theorem filter_insert {α : Type} {p : α → Bool} {a : α} (h : p a = false) (k : Nat) (xs : List α) :
    (xs.take k ++ a :: xs.drop k).filter p = xs.filter p := by
  rw [List.filter_append, List.filter_cons_of_neg (by rw [h]; exact Bool.false_ne_true), ← List.filter_append,
    List.take_append_drop]

section

variable (g : Grid) (k : Nat)

private theorem deploymentsOn_withDeployment_of_not {c : NodeContract} {nodeId : UInt32}
    (h : ¬ (c.nodeId = nodeId ∧ ContractState.isActive c.state = true)) :
    (g.withDeployment k c).deploymentsOn nodeId = g.deploymentsOn nodeId :=
  filter_insert (by simpa using h) k g.nodeContracts

private theorem deploymentsOn_withDeployment {c : NodeContract} (h : ContractState.isActive c.state = true) :
    ((g.withDeployment k c).deploymentsOn c.nodeId).Perm (c :: g.deploymentsOn c.nodeId) := by
  have htable : (g.withDeployment k c).nodeContracts.Perm (c :: g.nodeContracts) := by
    have hmiddle : (g.nodeContracts.take k ++ c :: g.nodeContracts.drop k).Perm
        (c :: (g.nodeContracts.take k ++ g.nodeContracts.drop k)) := List.perm_middle
    rwa [List.take_append_drop] at hmiddle
  refine (htable.filter _).trans ?_
  rw [List.filter_cons_of_pos (by simpa using h)]
  rfl

private theorem sameAccount_withDeployment {c : NodeContract} {n : NodeRecord}
    (h : ¬ (c.nodeId = n.nodeId ∧ ContractState.isActive c.state = true)) :
    g.SameAccount (g.withDeployment k c) n :=
  ⟨rfl, g.deploymentsOn_withDeployment_of_not k h, rfl⟩

private theorem sameAccount_withRent {c : RentContract} (h : ContractState.isActive c.state = false) (n : NodeRecord) :
    g.SameAccount (g.withRent k c) n where
  farms := rfl
  deployments := rfl
  rent := by
    rw [rentOf?, rentOf?, ← List.head?_filter, ← List.head?_filter]
    exact congrArg List.head? (filter_insert (by simp [h]) k g.rentContracts)

/-- What is used of a node grows by the resources of a deployment on it. -/
private theorem usedOn_withDeployment {c : NodeContract} (h : ContractState.isActive c.state = true) {n : NodeRecord}
    (hn : n.nodeId = c.nodeId) : (g.withDeployment k c).usedOn n = g.usedOn n + c.resources := by
  have hdeployed : (g.withDeployment k c).deployed c.nodeId = c.resources + g.deployed c.nodeId := by
    rw [deployed, total_perm ((g.deploymentsOn_withDeployment k h).map _)]
    rfl
  rw [usedOn, usedOn, hn, hdeployed, Capacity.add_add_eq]

private theorem useOf_withDeployment {c : NodeContract} (h : ContractState.isActive c.state = true) {n : NodeRecord}
    (hn : n.nodeId = c.nodeId) (r : Resource) :
    (g.withDeployment k c).useOf n r = g.useOf n r + (c.resources.amount r).toNat := by
  rw [useOf, useOf, hn, ((g.deploymentsOn_withDeployment k h).map _).sum_eq, List.map_cons, List.sum_cons]
  omega

end

/-- A served node with the resources of a deployment on top of what is used of it, if the deployment is on this node. -/
def NodeContract.charge (c : NodeContract) (node : Node) : Node :=
  if node.nodeId = c.nodeId then { node with usedResources := node.usedResources + c.resources } else node

theorem serve_withDeployment (g : Grid) (k : Nat) {c : NodeContract} (h : ContractState.isActive c.state = true)
    (now : UInt64) (n : NodeRecord) : (g.withDeployment k c).serve now n = c.charge (g.serve now n) := by
  by_cases hn : n.nodeId = c.nodeId
  · rw [NodeContract.charge, if_pos (show (g.serve now n).nodeId = c.nodeId from hn), serve,
      usedOn_withDeployment g k h hn]
    rfl
  · rw [NodeContract.charge, if_neg (show ¬ (g.serve now n).nodeId = c.nodeId from hn)]
    exact (g.sameAccount_withDeployment k fun hc => hn hc.1.symm).serve now

/-! ### Nodes in answers -/

/-- A node that stands in an answer of a grid: in a look-up, or on a page of a listing. -/
inductive IsServed (g : Grid) (now : UInt64) : Node → Prop where
  | found {nodeId : UInt32} {node : Node} (h : g.findNode now nodeId = .ok node) : IsServed g now node
  | listed {f : NodeFilter} {limit : Limit} {page : List Node × UInt64} {node : Node}
      (h : g.listNodes now f limit = .ok page) (hmem : node ∈ page.1) : IsServed g now node

theorem IsServed.exists_record {g : Grid} {now : UInt64} {node : Node} (h : g.IsServed now node) :
    ∃ n ∈ g.nodes, g.serve now n = node := by
  cases h with
  | @found nodeId _ h =>
    rw [findNode] at h
    cases hfind : g.nodes.find? (·.nodeId = nodeId) with
    | none => rw [hfind] at h; cases h
    | some n =>
      rw [hfind] at h
      exact ⟨n, List.mem_of_find?_eq_some hfind, Except.ok.inj h⟩
  | listed h hmem =>
    obtain ⟨status, rfl⟩ := g.listNodes_eq_ok now h
    obtain ⟨n, hn, -, hserve⟩ := (g.mem_matchingNodes now).mp (mem_cut hmem)
    exact ⟨n, hn, hserve⟩

/-- A page of nodes is cut once the status is read. -/
private theorem listNodes_eq_map (g : Grid) (now : UInt64) (f : NodeFilter) (limit : Limit) :
    g.listNodes now f limit =
      (if g.nodes.isEmpty then pure none else checked f.wantedStatus).map fun status =>
        cut limit (g.matchingNodes now status f) := by
  rw [listNodes]
  split
  · rfl
  · cases checked f.wantedStatus <;> rfl

/-! ### One deployment more -/

/-- The second grid serves its nodes as the first one does, with the resources of a deployment on top of what is used of
the node that it is on.  Listings of the other nodes are the same. -/
structure Charged (g g' : Grid) (c : NodeContract) : Prop where
  node : ∀ now nodeId, g'.findNode now nodeId = (g.findNode now nodeId).map c.charge
  served : ∀ now node', g'.IsServed now node' →
    ∃ node, g.findNode now node'.nodeId = .ok node ∧ node' = c.charge node
  others : ∀ now f (limit : Limit), limit.page = 1 → g.nodes.length ≤ limit.size.toNat →
    (g'.listNodes now f limit).map (fun page => page.1.filter (·.nodeId ≠ c.nodeId)) =
      (g.listNodes now f limit).map (fun page => page.1.filter (·.nodeId ≠ c.nodeId))
  amounts : ∀ now node, g.IsServed now node → node.nodeId = c.nodeId → ∀ r,
    ((c.charge node).usedResources.amount r).toNat =
      (node.usedResources.amount r).toNat + (c.resources.amount r).toNat

section

variable (g : Grid) (k : Nat) {c : NodeContract}

/-- The nodes that a deployment is not on match as before. -/
private theorem filter_matchingNodes_withDeployment (now : UInt64) (status : Option Status) (f : NodeFilter) :
    ((g.withDeployment k c).matchingNodes now status f).filter (·.nodeId ≠ c.nodeId) =
      (g.matchingNodes now status f).filter (·.nodeId ≠ c.nodeId) := by
  have hsame {n : NodeRecord} (hn : n.nodeId ≠ c.nodeId) : g.SameAccount (g.withDeployment k c) n :=
    g.sameAccount_withDeployment k fun hc => hn hc.1.symm
  -- the number of a node is that of its record, so the other nodes are kept before they are served
  have hkept (g : Grid) : (g.matchingNodes now status f).filter (·.nodeId ≠ c.nodeId) =
      sortBy (nodeRank f) ((g.nodes.filter fun n => n.nodeId ≠ c.nodeId && g.nodeMatches now status f n).map
        (g.serve now)) := by
    rw [matchingNodes, filter_sortBy, List.filter_map, List.filter_filter]
    rfl
  rw [hkept, hkept]
  congr 1
  have hfilter : ((g.withDeployment k c).nodes.filter fun n =>
        n.nodeId ≠ c.nodeId && (g.withDeployment k c).nodeMatches now status f n) =
      g.nodes.filter fun n => n.nodeId ≠ c.nodeId && g.nodeMatches now status f n := by
    refine List.filter_congr fun n _ => ?_
    by_cases hn : n.nodeId = c.nodeId
    · simp [hn]
    · rw [(hsame hn).nodeMatches]
  rw [hfilter]
  refine List.map_congr_left fun n hn => (hsame ?_).serve now
  have hkeep := (List.mem_filter.mp hn).2
  rw [Bool.and_eq_true] at hkeep
  exact of_decide_eq_true hkeep.1

private theorem charged_withDeployment (h : ContractState.isActive c.state = true)
    (hids : (g.nodes.map (·.nodeId)).Nodup)
    (hfits : (g.withDeployment k c).UseFits) : g.Charged (g.withDeployment k c) c where
  node now nodeId := by
    have hnodes : (g.withDeployment k c).nodes = g.nodes := rfl
    rw [findNode, findNode, hnodes]
    cases g.nodes.find? (·.nodeId = nodeId) with
    | none => rfl
    | some n => exact congrArg Except.ok (g.serve_withDeployment k h now n)
  served now node' hserved := by
    obtain ⟨n, hn, rfl⟩ := hserved.exists_record
    exact ⟨g.serve now n, findNode_of_mem hids now hn, g.serve_withDeployment k h now n⟩
  others now f limit hpage hsize := by
    -- the status is read alike, and a page with room for all nodes is the whole list
    have hroom (g : Grid) (hsize : g.nodes.length ≤ limit.size.toNat) (status : Option Status) :
        (cut limit (g.matchingNodes now status f)).1 = g.matchingNodes now status f :=
      cut_eq_self hpage (Nat.le_trans (g.length_matchingNodes_le now status f) hsize)
    rw [listNodes_eq_map, listNodes_eq_map]
    change Except.map _ (Except.map _ (if g.nodes.isEmpty then _ else _)) = _
    cases (if g.nodes.isEmpty then pure none else checked f.wantedStatus : Except InventoryError (Option Status)) with
    | error e => rfl
    | ok status =>
      simp only [Except.map, hroom g hsize, hroom (g.withDeployment k c) hsize,
        g.filter_matchingNodes_withDeployment k]
  amounts now node hserved hid r := by
    obtain ⟨n, hn, rfl⟩ := hserved.exists_record
    have hid' : n.nodeId = c.nodeId := hid
    have hafter := hfits n hn r
    have hbefore := hafter
    rw [useOf_withDeployment g k h hid'] at hbefore
    rw [← g.serve_withDeployment k h]
    change (((g.withDeployment k c).usedOn n).amount r).toNat = ((g.usedOn n).amount r).toNat + _
    rw [toNat_usedOn hafter, toNat_usedOn (by omega), useOf_withDeployment g k h hid']

end

/-! ### What is reserved -/

/-- What is reserved of a node is part of what is used of it. -/
private theorem reserved_le_usedOn {g : Grid} {n : NodeRecord} {r : Resource} (h : g.useOf n r < UInt64.size) :
    (n.reserved.amount r).toNat ≤ ((g.usedOn n).amount r).toNat := by
  rw [toNat_usedOn h]
  exact Nat.le_add_left _ _

/-- Contracts that are not active are no matter to the nodes, the farms and the twins, wherever they stand.  A
deployment that is active is added to what is used of its own node, resource by resource, and to nothing else.  What is
reserved is always used: a tenth of the memory, at least 2 GiB of it, and 100 GiB of storage; and nothing but this is
used of a node without active deployments. -/
theorem capacity_is_accounted (g : Grid) (k : Nat) :
    (∀ c : NodeContract, c.state ≠ "Created" → c.state ≠ "GracePeriod" → g.Unaffected (g.withDeployment k c)) ∧
    (∀ c : NodeContract, c.state = "Created" ∨ c.state = "GracePeriod" → (g.nodes.map (·.nodeId)).Nodup →
      (g.withDeployment k c).UseFits → g.Charged (g.withDeployment k c) c) ∧
    (∀ c : RentContract, c.state ≠ "Created" → c.state ≠ "GracePeriod" → g.Unaffected (g.withRent k c)) ∧
    (g.UseFits → ∀ now node, g.IsServed now node →
      max (node.totalResources.mru.toNat / 10) (2 * 1024 * 1024 * 1024) ≤ node.usedResources.mru.toNat ∧
      100 * 1024 * 1024 * 1024 ≤ node.usedResources.sru.toNat) ∧
    (∀ now node, g.IsServed now node → g.IsVacant node → node.usedResources =
      { cru := 0, sru := 100 * 1024 * 1024 * 1024, hru := 0,
        mru := max (node.totalResources.mru / 10) (2 * 1024 * 1024 * 1024) }) := by
  have hinactive {state : String} (hcreated : state ≠ "Created") (hgrace : state ≠ "GracePeriod") :
      ContractState.isActive state = false := by
    rw [← Bool.not_eq_true, isActive_iff]
    exact not_or.mpr ⟨hcreated, hgrace⟩
  refine ⟨fun c hcreated hgrace => ?_, fun c hactive hids hfits => ?_, fun c hcreated hgrace => ?_, ?_, ?_⟩
  · refine unaffected_of_sameAccount rfl rfl fun n => g.sameAccount_withDeployment k fun hc => ?_
    rw [hinactive hcreated hgrace] at hc
    exact Bool.false_ne_true hc.2
  · exact g.charged_withDeployment k (isActive_iff.mpr hactive) hids hfits
  · exact unaffected_of_sameAccount rfl rfl (g.sameAccount_withRent k (hinactive hcreated hgrace))
  · intro hfits now node hserved
    obtain ⟨n, hn, rfl⟩ := hserved.exists_record
    have hmru := reserved_le_usedOn (hfits n hn .mru)
    have hsru := reserved_le_usedOn (hfits n hn .sru)
    change (Sql.reservedMru n.total.mru).toNat ≤ _ at hmru
    rw [toNat_reservedMru] at hmru
    exact ⟨hmru, hsru⟩
  · intro now node hserved hvacant
    obtain ⟨n, -, rfl⟩ := hserved.exists_record
    exact usedOn_of_vacant hvacant

/-- A node of a farm, with a deployment that is deleted and one in its period of grace, and a node without any. -/
def workedSite : Grid where
  nodes := [{ nodeId := 1, farmId := 1, total := { cru := 8, sru := 900, mru := 68719476736 } }, { nodeId := 2 }]
  farms := [{ farmId := 1, name := "one" }]
  nodeContracts := [{ contractId := 1, nodeId := 1, state := "Deleted", resources := { cru := 100 } },
    { contractId := 2, nodeId := 1, state := "GracePeriod", resources := { cru := 3, sru := 40 } }]

/-- A deployment put between the two others of this site is charged to the first node if it is active, and changes
nothing if it is deleted; neither does a rent that is over. -/
theorem workedSite_is_accounted :
    let deployment : NodeContract := { nodeId := 1, state := "Created", resources := { cru := 2, mru := 5 } }
    let deleted : NodeContract := { deployment with state := "Deleted" }
    let rent : RentContract := { contractId := 7, twinId := 5, nodeId := 1, state := "Deleted" }
    (workedSite.nodes.map (·.nodeId)).Nodup ∧ (workedSite.withDeployment 1 deployment).UseFits ∧
    workedSite.Charged (workedSite.withDeployment 1 deployment) deployment ∧
    workedSite.Unaffected (workedSite.withDeployment 1 deleted) ∧
    workedSite.Unaffected (workedSite.withRent 1 rent) ∧
    workedSite.UseFits ∧
    (∃ node, workedSite.findNode 9 1 = .ok node ∧ 68719476736 / 10 ≤ node.usedResources.mru.toNat) ∧
    ∃ node, workedSite.findNode 9 2 = .ok node ∧ workedSite.IsVacant node ∧
      node.usedResources = { sru := 100 * 1024 * 1024 * 1024, mru := 2 * 1024 * 1024 * 1024 } := by
  intro deployment deleted rent
  obtain ⟨hdeleted, hactive, hrent, hreserved, hvacant⟩ := capacity_is_accounted workedSite 1
  have hids : (workedSite.nodes.map (·.nodeId)).Nodup := by decide
  have hfits : workedSite.UseFits := by
    simp only [UseFits, workedSite, List.forall_mem_cons]
    refine ⟨fun r => ?_, fun r => ?_, fun n hn => nomatch hn⟩ <;> cases r <;> decide
  have hfits' : (workedSite.withDeployment 1 deployment).UseFits := by
    simp only [UseFits, withDeployment, workedSite, List.forall_mem_cons]
    refine ⟨fun r => ?_, fun r => ?_, fun n hn => nomatch hn⟩ <;> cases r <;> decide
  refine ⟨hids, hfits', hactive deployment (.inl rfl) hids hfits', hdeleted deleted (by decide) (by decide),
    hrent rent (by decide) (by decide), hfits, ?_, ?_⟩
  · obtain ⟨node, hnode, htotal⟩ : ∃ node, workedSite.findNode 9 1 = .ok node ∧
        node.totalResources.mru.toNat = 68719476736 := ⟨_, rfl, rfl⟩
    have hfloor := (hreserved hfits 9 node (.found hnode)).1
    rw [htotal] at hfloor
    exact ⟨node, hnode, Nat.le_trans (by decide) hfloor⟩
  · obtain ⟨node, hnode, hid, htotal⟩ : ∃ node, workedSite.findNode 9 2 = .ok node ∧ node.nodeId = 2 ∧
        node.totalResources.mru = 0 := ⟨_, rfl, rfl, rfl⟩
    have hempty : workedSite.IsVacant node := by
      rw [IsVacant, hid]
      decide
    refine ⟨node, hnode, hempty, ?_⟩
    rw [hvacant 9 node (.found hnode) hempty, htotal]
    decide

end Grid

end GridGateway
