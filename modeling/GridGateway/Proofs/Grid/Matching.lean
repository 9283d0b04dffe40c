import GridGateway.Grid.Inventory
import GridGateway.Proofs.Grid.Answers
import Mathlib.Tactic.MkIffOfInductiveProp

/-!
# Filters against served nodes

A filter is decided on the records of a grid, while whoever asks sees the nodes that are served. The two agree: a
node is listed exactly when what is served of it satisfies every constraint of the filter (`Grid.Satisfies`).

The link between the two sides is made constraint by constraint: free capacity is what the served total leaves over
the served used capacity (`le_satSub_iff`), and a node is rented exactly when a rent contract is served with it,
since contract numbers are not zero (`rentOf?_eq_none_iff`).
-/

namespace GridGateway

open Query

/-! ### Texts and numbers -/

/-- A text occurs in another exactly when it is a run of its characters. -/
private theorem Text.occursIn_iff {part whole : List Char} : Text.occursIn part whole = true ↔ part <:+: whole := by
  induction whole with
  | nil => rw [Text.occursIn, List.isEmpty_iff, List.infix_nil]
  | cons c cs ih => rw [Text.occursIn, Bool.or_eq_true, ih, List.infix_cons_iff, List.isPrefixOf_iff_prefix]

/-- Free capacity is what is left of the total, or nothing. -/
theorem le_satSub_iff {w total used : UInt64} :
    w ≤ satSub total used ↔ (w.toNat : Int) ≤ max 0 ((total.toNat : Int) - used.toNat) := by
  rw [satSub, UInt64.le_iff_toNat_le]
  split
  · next h =>
    have hle : used.toNat ≤ total.toNat := UInt64.le_iff_toNat_le.mp h
    rw [UInt64.toNat_sub_of_le _ _ h]
    omega
  · next h =>
    have hlt : ¬ used.toNat ≤ total.toNat := fun hle => h (UInt64.le_iff_toNat_le.mpr hle)
    change w.toNat ≤ 0 ↔ _
    omega

private theorem toUInt64_eq_iff {n : UInt32} {w : UInt64} : n.toUInt64 = w ↔ n.toNat = w.toNat := by
  rw [← UInt64.toNat_inj, UInt32.toNat_toUInt64]

namespace Grid

/-! ### Single constraints -/

theorem equals_iff {α : Type} [DecidableEq α] {value : α} {wanted : Option α} :
    equals value wanted = true ↔ ∀ w ∈ wanted, value = w := by
  cases wanted <;> simp [equals]

private theorem atLeast_iff {value : UInt64} {wanted : Option UInt64} :
    atLeast value wanted = true ↔ ∀ w ∈ wanted, w ≤ value := by
  cases wanted <;> simp [atLeast]

theorem sameText_iff {value : String} {wanted : Option String} :
    sameText value wanted = true ↔ ∀ w ∈ wanted, Text.lower value = Text.lower w := by
  cases wanted <;> simp [sameText]

theorem containsText_iff {value : String} {wanted : Option String} :
    containsText value wanted = true ↔
      ∀ w ∈ wanted, (Text.lower w).toList <:+: (Text.lower value).toList := by
  cases wanted <;> simp [containsText, Text.contains, Text.occursIn_iff]

/-! ### What a filter asks of a served node -/

/-- The name of the farm that a node belongs to, which is empty when no such farm is recorded. -/
def farmNameOf (g : Grid) (n : Node) : String := ((g.farmOf? n.farmId).map (·.name)).getD ""

/-- The number of free addresses of the farm that a node belongs to. -/
def freeAddressesOf (g : Grid) (n : Node) : Nat :=
  ((g.farmOf? n.farmId).map fun farm => farm.publicIps.countP (·.contractId = 0)).getD 0

/-- No active contract is about a deployment on the node. -/
def IsVacant (g : Grid) (n : Node) : Prop :=
  ∀ c ∈ g.nodeContracts, c.nodeId = n.nodeId → ContractState.isActive c.state = false

/-- A served node satisfies every constraint that a filter has. Amounts are compared as numbers, texts without
regard to case. -/
@[mk_iff]
structure Satisfies (g : Grid) (f : NodeFilter) (n : Node) : Prop where
  status : ∀ w ∈ f.status, n.status.name = w
  freeMru : ∀ w ∈ f.freeMru, (w.toNat : Int) ≤ max 0 ((n.totalResources.mru.toNat : Int) - n.usedResources.mru.toNat)
  freeHru : ∀ w ∈ f.freeHru, (w.toNat : Int) ≤ max 0 ((n.totalResources.hru.toNat : Int) - n.usedResources.hru.toNat)
  freeSru : ∀ w ∈ f.freeSru, (w.toNat : Int) ≤ max 0 ((n.totalResources.sru.toNat : Int) - n.usedResources.sru.toNat)
  totalCru : ∀ w ∈ f.totalCru, w.toNat ≤ n.totalResources.cru.toNat
  totalMru : ∀ w ∈ f.totalMru, w.toNat ≤ n.totalResources.mru.toNat
  totalHru : ∀ w ∈ f.totalHru, w.toNat ≤ n.totalResources.hru.toNat
  totalSru : ∀ w ∈ f.totalSru, w.toNat ≤ n.totalResources.sru.toNat
  country : ∀ w ∈ f.country, Text.lower n.country = Text.lower w
  countryContains : ∀ w ∈ f.countryContains, (Text.lower w).toList <:+: (Text.lower n.country).toList
  city : ∀ w ∈ f.city, Text.lower n.city = Text.lower w
  cityContains : ∀ w ∈ f.cityContains, (Text.lower w).toList <:+: (Text.lower n.city).toList
  nodeId : ∀ w ∈ f.nodeId, n.nodeId.toNat = w.toNat
  twinId : ∀ w ∈ f.twinId, n.twinId.toNat = w.toNat
  farmIds : f.farmIds ≠ [] → ∃ w ∈ f.farmIds, n.farmId.toNat = w.toNat
  farmName : ∀ w ∈ f.farmName, Text.lower (g.farmNameOf n) = Text.lower w
  farmNameContains : ∀ w ∈ f.farmNameContains, (Text.lower w).toList <:+: (Text.lower (g.farmNameOf n)).toList
  freeIps : ∀ w ∈ f.freeIps, w.toNat ≤ g.freeAddressesOf n
  ipv4 : ∀ b ∈ f.ipv4, b = true ↔ n.publicConfig.ipv4 ≠ ""
  ipv6 : ∀ b ∈ f.ipv6, b = true ↔ n.publicConfig.ipv6 ≠ ""
  domain : ∀ b ∈ f.domain, b = true ↔ n.publicConfig.domain ≠ ""
  dedicated : ∀ b ∈ f.dedicated, n.dedicated = b
  rentable : ∀ b ∈ f.rentable, b = true ↔ (n.dedicated = true ∨ g.IsVacant n) ∧ n.rentContractId = 0
  rented : ∀ b ∈ f.rented, b = true ↔ n.rentContractId ≠ 0
  rentedBy : ∀ w ∈ f.rentedBy, n.rentedByTwinId.toNat = w.toNat
  availableFor : ∀ w ∈ f.availableFor,
    if n.rentContractId = 0 then n.dedicated = false else n.rentedByTwinId.toNat = w.toNat
  certificationType : ∀ w ∈ f.certificationType, Text.lower n.certificationType = Text.lower w

/-! ### The two sides, constraint by constraint -/

private theorem flag_iff {value : Bool} {wanted : Option Bool} {p : Prop} (h : value = true ↔ p) :
    equals value wanted = true ↔ ∀ b ∈ wanted, b = true ↔ p := by
  rw [equals_iff]
  refine forall₂_congr fun b _ => ?_
  rw [← h]
  cases value <;> cases b <;> simp

theorem number_iff {value : UInt32} {wanted : Option UInt64} :
    equals value.toUInt64 wanted = true ↔ ∀ w ∈ wanted, value.toNat = w.toNat := by
  rw [equals_iff]
  exact forall₂_congr fun w _ => toUInt64_eq_iff

theorem total_iff {value : UInt64} {wanted : Option UInt64} :
    atLeast value wanted = true ↔ ∀ w ∈ wanted, w.toNat ≤ value.toNat := by
  rw [atLeast_iff]
  exact forall₂_congr fun w _ => UInt64.le_iff_toNat_le

private theorem free_iff {total used : UInt64} {wanted : Option UInt64} :
    atLeast (satSub total used) wanted = true ↔
      ∀ w ∈ wanted, (w.toNat : Int) ≤ max 0 ((total.toNat : Int) - used.toNat) := by
  rw [atLeast_iff]
  exact forall₂_congr fun w _ => le_satSub_iff

/-- The status that was read from a filter is the status that the filter names. -/
private theorem status_iff {f : NodeFilter} {status : Option Status} (h : f.wantedStatus = .ok status) (s : Status) :
    equals s status = true ↔ ∀ w ∈ f.status, s.name = w := by
  rw [equals_iff]
  change statusChoice f.status = _ at h
  cases hf : f.status with
  | none =>
    rw [hf] at h
    cases h
    simp
  | some word =>
    rw [hf, statusChoice, choice] at h
    cases hword : Status.ofName? word with
    | none => rw [hword] at h; cases h
    | some wanted =>
      rw [hword] at h
      cases h
      have hname : wanted.name = word := by
        rw [Status.ofName?] at hword
        split at hword
        · next e => cases hword; exact e.symm
        · split at hword
          · next e => cases hword; exact e.symm
          · cases hword
      rw [← hname]
      cases s <;> cases wanted <;> simp [Status.name]

private theorem farmIds_iff {farmId : UInt32} {wanted : List UInt64} :
    (wanted.isEmpty || wanted.contains farmId.toUInt64) = true ↔
      (wanted ≠ [] → ∃ w ∈ wanted, farmId.toNat = w.toNat) := by
  have hmem : farmId.toUInt64 ∈ wanted ↔ ∃ w ∈ wanted, farmId.toNat = w.toNat := by
    constructor
    · exact fun h => ⟨_, h, toUInt64_eq_iff.mp rfl⟩
    · rintro ⟨w, hw, e⟩
      rwa [toUInt64_eq_iff.mpr e]
  rw [Bool.or_eq_true, List.isEmpty_iff, List.contains_iff_mem, hmem]
  by_cases h : wanted = [] <;> simp [h]

private theorem isSet_iff {s : String} : (!s.isEmpty) = true ↔ s ≠ "" := by
  rw [Bool.not_eq_true', ← Bool.not_eq_true, String.isEmpty_iff]

variable (g : Grid) (now : UInt64) (r : NodeRecord)

/-- Free capacity is what the served total leaves over the served used capacity. -/
private theorem freeOn_eq : g.freeOn r =
    { sru := satSub (g.serve now r).totalResources.sru (g.serve now r).usedResources.sru
      hru := satSub (g.serve now r).totalResources.hru (g.serve now r).usedResources.hru
      mru := satSub (g.serve now r).totalResources.mru (g.serve now r).usedResources.mru } := by
  rw [freeOn, serve]

/-- The number of free addresses fits a word as long as the number of addresses does. -/
private theorem freeIps_iff (haddresses : ∀ farm ∈ g.farms, farm.publicIps.length < UInt64.size)
    {wanted : Option UInt64} :
    atLeast (.ofNat (g.freeIpsAt r)) wanted = true ↔ ∀ w ∈ wanted, w.toNat ≤ g.freeAddressesOf (g.serve now r) := by
  have hcount : g.freeIpsAt r = g.freeAddressesOf (g.serve now r) := rfl
  have hfits : g.freeIpsAt r < UInt64.size := by
    rw [freeIpsAt]
    cases hfarm : g.farmOf? r.farmId with
    | none => decide
    | some farm =>
      exact Nat.lt_of_le_of_lt List.countP_le_length (haddresses farm (List.mem_of_find?_eq_some hfarm))
  rw [total_iff, UInt64.toNat_ofNat_of_lt' hfits, hcount]

/-- A node without active deployments is vacant. -/
theorem deploymentsOn_isEmpty_iff : (g.deploymentsOn r.nodeId).isEmpty = true ↔ g.IsVacant (g.serve now r) := by
  rw [List.isEmpty_iff, deploymentsOn, List.filter_eq_nil_iff, IsVacant]
  refine forall₂_congr fun c _ => ?_
  change _ ↔ (c.nodeId = r.nodeId → _)
  simp

private theorem rentable_iff : g.isRentable r = true ↔
    ((g.serve now r).dedicated = true ∨ g.IsVacant (g.serve now r)) ∧ (g.serve now r).rentContractId = 0 := by
  rw [isRentable, Bool.and_eq_true, Bool.or_eq_true, g.deploymentsOn_isEmpty_iff now r, beq_iff_eq]
  rfl

/-- Rent contracts with a number tell whether a node is rented. -/
theorem rentOf?_eq_none_iff (hrents : ∀ c ∈ g.rentContracts, c.contractId ≠ 0) :
    g.rentOf? r.nodeId = none ↔ (g.serve now r).rentContractId = 0 := by
  change _ ↔ ((g.rentOf? r.nodeId).map (·.contractId)).getD 0 = 0
  cases hrent : g.rentOf? r.nodeId with
  | none => simp
  | some c => simpa using hrents c (List.mem_of_find?_eq_some hrent)

private theorem isAvailableFor_iff (hrents : ∀ c ∈ g.rentContracts, c.contractId ≠ 0) (w : UInt64) :
    g.isAvailableFor r w = true ↔
      if (g.serve now r).rentContractId = 0 then (g.serve now r).dedicated = false
      else (g.serve now r).rentedByTwinId.toNat = w.toNat := by
  rw [isAvailableFor]
  cases hrent : g.rentOf? r.nodeId with
  | none =>
    rw [if_pos ((g.rentOf?_eq_none_iff now r hrents).mp hrent), Bool.not_eq_true']
    rfl
  | some c =>
    have hne : ¬ (g.serve now r).rentContractId = 0 := by
      rw [← g.rentOf?_eq_none_iff now r hrents, hrent]
      exact fun h => nomatch h
    have htwin : (g.serve now r).rentedByTwinId = c.twinId := by
      change ((g.rentOf? r.nodeId).map (·.twinId)).getD 0 = c.twinId
      rw [hrent]
      rfl
    rw [if_neg hne, htwin, beq_iff_eq, toUInt64_eq_iff]

/-- A record matches a filter exactly when the node that it is served as satisfies the filter. -/
private theorem nodeMatches_iff {f : NodeFilter} {status : Option Status} (hstatus : f.wantedStatus = .ok status)
    (hrents : ∀ c ∈ g.rentContracts, c.contractId ≠ 0)
    (haddresses : ∀ farm ∈ g.farms, farm.publicIps.length < UInt64.size) :
    g.nodeMatches now status f r = true ↔ g.Satisfies f (g.serve now r) := by
  rw [satisfies_iff]
  simp only [nodeMatches, g.freeOn_eq now r, Bool.and_eq_true, and_assoc]
  refine and_congr (status_iff hstatus _) ?_
  refine and_congr free_iff (and_congr free_iff (and_congr free_iff ?_))
  refine and_congr total_iff (and_congr total_iff (and_congr total_iff (and_congr total_iff ?_)))
  refine and_congr sameText_iff (and_congr containsText_iff ?_)
  refine and_congr sameText_iff (and_congr containsText_iff ?_)
  refine and_congr number_iff (and_congr number_iff (and_congr farmIds_iff ?_))
  refine and_congr sameText_iff (and_congr containsText_iff ?_)
  refine and_congr (g.freeIps_iff now r haddresses) ?_
  refine and_congr (flag_iff isSet_iff) (and_congr (flag_iff isSet_iff) (and_congr (flag_iff isSet_iff) ?_))
  refine and_congr equals_iff (and_congr (flag_iff (g.rentable_iff now r)) (and_congr (flag_iff bne_iff_ne) ?_))
  refine and_congr number_iff (and_congr ?_ sameText_iff)
  cases f.availableFor <;> simp [g.isAvailableFor_iff now r hrents]

/-! ### Listings -/

/-- A page that begins with the first row and has room for all rows is the whole list. -/
theorem cut_eq_self {α : Type} {limit : Limit} {xs : List α} (hpage : limit.page = 1)
    (hsize : xs.length ≤ limit.size.toNat) : (cut limit xs).1 = xs := by
  have hoffset : limit.offset.toNat = 0 := by
    have hzero : satSub limit.page 1 = 0 := by rw [hpage]; rfl
    rw [Limit.offset, hzero, UInt64.toNat_zero, Nat.zero_mul]
    rfl
  rw [cut, hoffset, List.drop_zero, List.take_of_length_le hsize]

/-- A node is listed exactly when it satisfies the filter: for any status that a filter may name, and for a page with
room for all nodes, the listing succeeds and holds the node of a record if and only if what is served of the record
satisfies every constraint. -/
theorem listed_iff_satisfies {f : NodeFilter}
    (hstatus : f.status = none ∨ f.status = some "up" ∨ f.status = some "down")
    (hrents : ∀ c ∈ g.rentContracts, c.contractId ≠ 0)
    (haddresses : ∀ farm ∈ g.farms, farm.publicIps.length < UInt64.size)
    {limit : Limit} (hpage : limit.page = 1) (hsize : g.nodes.length ≤ limit.size.toNat) (hr : r ∈ g.nodes) :
    ∃ page, g.listNodes now f limit = .ok page ∧ (g.serve now r ∈ page.1 ↔ g.Satisfies f (g.serve now r)) := by
  obtain ⟨status, hread⟩ : ∃ status, f.wantedStatus = .ok status := by
    rw [NodeFilter.wantedStatus]
    rcases hstatus with h | h | h
    · exact ⟨none, by rw [h]; rfl⟩
    · exact ⟨some .up, by rw [h]; rfl⟩
    · exact ⟨some .down, by rw [h]; rfl⟩
  refine ⟨_, g.listNodes_of_status now hread limit, ?_⟩
  have hlength : (g.matchingNodes now status f).length ≤ limit.size.toNat := by
    rw [matchingNodes, sortBy, List.length_mergeSort, List.length_map]
    exact Nat.le_trans (List.length_filter_le _ _) hsize
  rw [cut_eq_self hpage hlength, mem_matchingNodes]
  constructor
  · -- another record that is served alike satisfies the same constraints
    rintro ⟨r', -, hmatch, hserve⟩
    rw [← hserve]
    exact (g.nodeMatches_iff now r' hread hrents haddresses).mp hmatch
  · intro h
    exact ⟨r, hr, (g.nodeMatches_iff now r hread hrents haddresses).mpr h, rfl⟩

/-- A dedicated node that is rented, asked for by the twin that rents it. -/
theorem rented_node_listed_iff_satisfies :
    let node : NodeRecord := { nodeId := 1, farmId := 2, updatedAt := 100, total := { mru := 8589934592 } }
    let farm : FarmRecord := { farmId := 2, name := "Alpha", dedicated := true, publicIps := [{ ip := "10.0.0.1/24" }] }
    let rent : RentContract := { contractId := 5, twinId := 9, nodeId := 1, state := "Created" }
    let g : Grid := { nodes := [node], farms := [farm], rentContracts := [rent] }
    let f : NodeFilter := { status := some "up", freeMru := some 6000000000, freeIps := some 1, availableFor := some 9 }
    (f.status = none ∨ f.status = some "up" ∨ f.status = some "down") ∧
    (∀ c ∈ g.rentContracts, c.contractId ≠ 0) ∧
    (∀ farm ∈ g.farms, farm.publicIps.length < UInt64.size) ∧
    g.nodes.length ≤ ({} : Limit).size.toNat ∧ node ∈ g.nodes ∧
    ∃ page, g.listNodes 200 f {} = .ok page ∧ (g.serve 200 node ∈ page.1 ↔ g.Satisfies f (g.serve 200 node)) := by
  intro node farm rent g f
  have hstatus : f.status = none ∨ f.status = some "up" ∨ f.status = some "down" := .inr (.inl rfl)
  have hrents : ∀ c ∈ g.rentContracts, c.contractId ≠ 0 := by decide
  have haddresses : ∀ farm ∈ g.farms, farm.publicIps.length < UInt64.size := by decide
  have hsize : g.nodes.length ≤ ({} : Limit).size.toNat := by decide
  have hr : node ∈ g.nodes := by decide
  exact ⟨hstatus, hrents, haddresses, hsize, hr,
    listed_iff_satisfies g 200 node hstatus hrents haddresses rfl hsize hr⟩

end Grid

end GridGateway
