import GridGateway.Proofs.Grid.RowOrder
import GridGateway.Proofs.Http.Gateways
import Mathlib.Algebra.BigOperators.Group.Finset.Basic
import Mathlib.Algebra.Order.BigOperators.Group.List

/-!
# Statistics

The figures of a grid are counted over the nodes with a wanted status (`chosen`), which are up or down.  So those over
all nodes are the sums of those over the nodes that are up and those that are down, except for the numbers of different
farms and countries (`figures_split`); they also fit one another, the table of countries and the listing of the nodes
with the same status (`figures_tally`).

* `toNat_total`, `distinct_eq_card`: sums and numbers of different values.
* `toNat_countOf_distribution`, `length_distribution`, `sum_distribution`: the table of countries.
-/

namespace GridGateway

open Query Telemetry

/-! ### Sums -/

/-- A resource of a total is the sum of the resource, as long as the sum fits a word. -/
theorem Capacity.toNat_total {r : Capacity → UInt64} (hzero : r {} = 0) (hadd : ∀ a b, r (a.add b) = r a + r b)
    {cs : List Capacity} (h : (cs.map fun c => (r c).toNat).sum < UInt64.size) :
    (r (total cs)).toNat = (cs.map fun c => (r c).toNat).sum := by
  induction cs with
  | nil => exact congrArg UInt64.toNat hzero
  | cons c cs ih =>
    rw [List.map_cons, List.sum_cons] at h ⊢
    have hrest := ih (by omega)
    change (r (c.add (total cs))).toNat = _
    rw [hadd, UInt64.toNat_add, hrest]
    exact Nat.mod_eq_of_lt h

namespace Grid

/-! ### Gateways -/

/-- A node with a domain and an address of the fourth version is counted as a gateway. -/
private theorem NodeRecord.isGateway_of_listed (n : NodeRecord)
    (h : (!n.publicConfig.domain.isEmpty && !n.publicConfig.ipv4.isEmpty) = true) : n.isGateway = true := by
  rw [Bool.and_eq_true] at h
  rw [NodeRecord.isGateway, NodeRecord.isAccess, h.1, h.2]
  rfl

/-- A node that is counted as a gateway has a public address. -/
private theorem NodeRecord.isAccess_of_isGateway (n : NodeRecord) (h : n.isGateway = true) : n.isAccess = true := by
  rw [NodeRecord.isGateway, Bool.and_eq_true] at h
  exact h.1

/-! ### Numbers of different values -/

section

variable {α : Type} [DecidableEq α]

theorem distinct_eq_card (xs : List α) : distinct xs = xs.toFinset.card := by
  have hsame : xs.toFinset = xs.eraseDups.toFinset := by
    ext a
    rw [List.mem_toFinset, List.mem_toFinset, List.mem_eraseDups]
  rw [distinct, hsame, List.toFinset_card_of_nodup (nodup_eraseDups xs)]

private theorem distinct_le_length (xs : List α) : distinct xs ≤ xs.length := by
  rw [distinct_eq_card]
  exact xs.toFinset_card_le

/-- Of two lists together there are at least as many different values as of each, and at most as many as of both. -/
private theorem distinct_append (xs ys : List α) :
    max (distinct xs) (distinct ys) ≤ distinct (xs ++ ys) ∧ distinct (xs ++ ys) ≤ distinct xs + distinct ys := by
  simp only [distinct_eq_card, List.toFinset_append]
  refine ⟨max_le (Finset.card_le_card Finset.subset_union_left) (Finset.card_le_card Finset.subset_union_right), ?_⟩
  exact Finset.card_union_le _ _

end

/-! ### The table of countries -/

/-- What a table says about a country, which is zero when it says nothing. -/
def countOf (country : String) (table : List (String × UInt64)) : UInt64 :=
  ((table.find? (·.1 = country)).map (·.2)).getD 0

private theorem countOf_countCountry (a b : String) (table : List (String × UInt64)) :
    countOf b (countCountry a table) = if a = b then countOf b table + 1 else countOf b table := by
  split
  · next h =>
    subst h
    rw [countOf, countCountry, Json.find?_putMember_self]
    rfl
  · next h => rw [countOf, countCountry, Json.find?_putMember_of_ne h, countOf]

/-- A table counts a country as often as it stands in the list. -/
private theorem countOf_distribution (country : String) (countries : List String) :
    countOf country (distribution countries) = .ofNat (countries.count country) := by
  induction countries using List.reverseRecOn with
  | nil => rfl
  | append_singleton countries last ih =>
    rw [distribution_append_singleton, countOf_countCountry, ih, List.count_append, List.count_singleton]
    by_cases h : last = country
    · rw [if_pos h, if_pos (beq_iff_eq.mpr h), UInt64.ofNat_add]
      rfl
    · rw [if_neg h, if_neg (by simpa using h), Nat.add_zero]

theorem toNat_countOf_distribution {countries : List String} (h : countries.length < UInt64.size) (country : String) :
    (countOf country (distribution countries)).toNat = countries.count country := by
  rw [countOf_distribution, UInt64.toNat_ofNat_of_lt' (Nat.lt_of_le_of_lt List.count_le_length h)]

/-- The countries of a table are those of the list. -/
private theorem mem_distribution {country : String} {countries : List String} :
    country ∈ (distribution countries).map (·.1) ↔ country ∈ countries := by
  have hput (name : String) (value : UInt64) (ms : List (String × UInt64)) :
      country ∈ (Json.putMember name value ms).map (·.1) ↔ country = name ∨ country ∈ ms.map (·.1) := by
    induction ms with
    | nil => simp [Json.putMember]
    | cons m ms ih => grind [Json.putMember]
  induction countries using List.reverseRecOn with
  | nil => rfl
  | append_singleton countries last ih =>
    rw [distribution_append_singleton, countCountry, List.mem_append, List.mem_singleton]
    exact (hput ..).trans ((or_congr_right ih).trans or_comm)

private theorem distribution_nodup (countries : List String) : ((distribution countries).map (·.1)).Nodup :=
  List.pairwise_map.mpr ((distribution_ascending countries).imp fun h => ne_of_lt h)

/-- A table has one entry for each country of the list. -/
theorem length_distribution (countries : List String) : (distribution countries).length = distinct countries := by
  have hsame : ((distribution countries).map (·.1)).toFinset = countries.toFinset := by
    ext country
    rw [List.mem_toFinset, List.mem_toFinset, mem_distribution]
  rw [distinct_eq_card, ← hsame, List.toFinset_card_of_nodup (distribution_nodup countries), List.length_map]

/-- An entry of a table is what the table says about its country. -/
private theorem countOf_of_mem {table : List (String × UInt64)} (hnodup : (table.map (·.1)).Nodup) {e : String × UInt64}
    (he : e ∈ table) : countOf e.1 table = e.2 := by
  induction table with
  | nil => cases he
  | cons e' table ih =>
    rw [List.map_cons, List.nodup_cons] at hnodup
    rcases List.mem_cons.mp he with rfl | he
    · simp [countOf]
    · have hne : e'.1 ≠ e.1 := fun heq => hnodup.1 (heq ▸ List.mem_map_of_mem he)
      rw [countOf, List.find?_cons_of_neg (by simpa using hne)]
      exact ih hnodup.2 he

/-- The entries of a table add up to the length of the list. -/
theorem sum_distribution {countries : List String} (h : countries.length < UInt64.size) :
    ((distribution countries).map (·.2.toNat)).sum = countries.length := by
  have hnodup := distribution_nodup countries
  calc ((distribution countries).map (·.2.toNat)).sum
      = (((distribution countries).map (·.1)).map fun country => countries.count country).sum := by
        rw [List.map_map]
        refine congrArg List.sum (List.map_congr_left fun e he => ?_)
        rw [← countOf_of_mem hnodup he, Function.comp_apply, toNat_countOf_distribution h]
    _ = ∑ country ∈ countries.toFinset, countries.count country := by
        rw [← List.sum_toFinset _ hnodup]
        refine Finset.sum_congr (Finset.ext fun country => ?_) fun _ _ => rfl
        rw [List.mem_toFinset, List.mem_toFinset, mem_distribution]
    _ = countries.length := List.sum_toFinset_count_eq_length countries

/-! ### Nodes that are up and nodes that are down -/

/-- The nodes and the sums of their resources fit a word. -/
structure SumsFit (g : Grid) : Prop where
  nodes : g.nodes.length < UInt64.size
  cru : (g.nodes.map (·.total.cru.toNat)).sum < UInt64.size
  sru : (g.nodes.map (·.total.sru.toNat)).sum < UInt64.size
  hru : (g.nodes.map (·.total.hru.toNat)).sum < UInt64.size
  mru : (g.nodes.map (·.total.mru.toNat)).sum < UInt64.size

variable (g : Grid) (now : UInt64)

/-- Every node is either up or down. -/
private theorem chosen_perm : (g.chosen now none).Perm (g.chosen now (some .up) ++ g.chosen now (some .down)) := by
  have hall : g.chosen now none = g.nodes := List.filter_eq_self.mpr fun _ _ => rfl
  have hdown : g.chosen now (some .down) =
      g.nodes.filter fun n => !equals (Status.atTime n.updatedAt now) (some .up) := by
    refine List.filter_congr fun n _ => ?_
    cases Status.atTime n.updatedAt now <;> rfl
  rw [hall, hdown]
  exact (List.filter_append_perm _ _).symm

private theorem length_chosen_le (status : Option Status) : (g.chosen now status).length ≤ g.nodes.length :=
  List.length_filter_le _ _

/-- A resource over the chosen nodes is the sum of the resource. -/
private theorem toNat_total_chosen {r : Capacity → UInt64} (hzero : r {} = 0) (hadd : ∀ a b, r (a.add b) = r a + r b)
    (h : (g.nodes.map fun n => (r n.total).toNat).sum < UInt64.size) (status : Option Status) :
    (r (.total ((g.chosen now status).map (·.total)))).toNat =
      ((g.chosen now status).map fun n => (r n.total).toNat).sum := by
  have hle : ((g.chosen now status).map fun n => (r n.total).toNat).sum ≤
      (g.nodes.map fun n => (r n.total).toNat).sum :=
    (List.filter_sublist.map _).sum_le_sum fun _ _ => Nat.zero_le _
  rw [Capacity.toNat_total hzero hadd, List.map_map]
  · rfl
  · rw [List.map_map]
    exact Nat.lt_of_le_of_lt hle h

/-- The figures of a status as numbers. -/
structure Figures (g : Grid) (now : UInt64) (status : Option Status) (c : Counters) : Prop where
  nodes : c.nodes.toNat = (g.chosen now status).length
  farms : c.farms.toNat = distinct ((g.chosen now status).map (·.farmId))
  countries : c.countries.toNat = distinct ((g.chosen now status).map (·.country))
  accessNodes : c.accessNodes.toNat = (g.chosen now status).countP (·.isAccess)
  gateways : c.gateways.toNat = (g.chosen now status).countP (·.isGateway)
  totalCru : c.totalCru.toNat = ((g.chosen now status).map (·.total.cru.toNat)).sum
  totalSru : c.totalSru.toNat = ((g.chosen now status).map (·.total.sru.toNat)).sum
  totalHru : c.totalHru.toNat = ((g.chosen now status).map (·.total.hru.toNat)).sum
  totalMru : c.totalMru.toNat = ((g.chosen now status).map (·.total.mru.toNat)).sum
  distribution : c.nodesDistribution = distribution ((g.chosen now status).map (·.country))

private theorem figures_eq (hfit : g.SumsFit) (status : Option Status) :
    g.Figures now status (g.figures now status) := by
  have hlength := Nat.lt_of_le_of_lt (g.length_chosen_le now status) hfit.nodes
  have hfits {n : Nat} (hn : n ≤ (g.chosen now status).length) : (UInt64.ofNat n).toNat = n :=
    UInt64.toNat_ofNat_of_lt' (Nat.lt_of_le_of_lt hn hlength)
  have hdistinct {α : Type} [DecidableEq α] (key : NodeRecord → α) :
      (UInt64.ofNat (distinct ((g.chosen now status).map key))).toNat =
        distinct ((g.chosen now status).map key) :=
    hfits (by simpa using distinct_le_length ((g.chosen now status).map key))
  exact {
    nodes := hfits (Nat.le_refl _)
    farms := hdistinct _
    countries := hdistinct _
    accessNodes := hfits List.countP_le_length
    gateways := hfits List.countP_le_length
    totalCru := g.toNat_total_chosen now rfl (fun _ _ => rfl) hfit.cru status
    totalSru := g.toNat_total_chosen now rfl (fun _ _ => rfl) hfit.sru status
    totalHru := g.toNat_total_chosen now rfl (fun _ _ => rfl) hfit.hru status
    totalMru := g.toNat_total_chosen now rfl (fun _ _ => rfl) hfit.mru status
    distribution := g.figures_distribution now status }

private theorem toNat_countOf_figures (hfit : g.SumsFit) (status : Option Status) (country : String) :
    (countOf country (g.figures now status).nodesDistribution).toNat =
      (g.chosen now status).countP (·.country = country) := by
  have hlength := Nat.lt_of_le_of_lt (g.length_chosen_le now status) hfit.nodes
  rw [g.figures_distribution, toNat_countOf_distribution (by simpa using hlength), List.count_eq_countP,
    List.countP_map]
  rfl

/-- What the figures over all nodes have to do with those over the nodes that are up and those that are down. -/
structure Splits (all up down : Counters) : Prop where
  nodes : all.nodes.toNat = up.nodes.toNat + down.nodes.toNat
  accessNodes : all.accessNodes.toNat = up.accessNodes.toNat + down.accessNodes.toNat
  gateways : all.gateways.toNat = up.gateways.toNat + down.gateways.toNat
  totalCru : all.totalCru.toNat = up.totalCru.toNat + down.totalCru.toNat
  totalSru : all.totalSru.toNat = up.totalSru.toNat + down.totalSru.toNat
  totalHru : all.totalHru.toNat = up.totalHru.toNat + down.totalHru.toNat
  totalMru : all.totalMru.toNat = up.totalMru.toNat + down.totalMru.toNat
  distribution : ∀ country, (countOf country all.nodesDistribution).toNat =
    (countOf country up.nodesDistribution).toNat + (countOf country down.nodesDistribution).toNat
  farms : max up.farms.toNat down.farms.toNat ≤ all.farms.toNat ∧
    all.farms.toNat ≤ up.farms.toNat + down.farms.toNat
  countries : max up.countries.toNat down.countries.toNat ≤ all.countries.toNat ∧
    all.countries.toNat ≤ up.countries.toNat + down.countries.toNat
  twins : up.twins = all.twins ∧ down.twins = all.twins
  publicIps : up.publicIps = all.publicIps ∧ down.publicIps = all.publicIps
  contracts : up.contracts = all.contracts ∧ down.contracts = all.contracts

theorem figures_split (hfit : g.SumsFit) :
    Splits (g.figures now none) (g.figures now (some .up)) (g.figures now (some .down)) := by
  have hall := g.figures_eq now hfit none
  have hup := g.figures_eq now hfit (some .up)
  have hdown := g.figures_eq now hfit (some .down)
  have hperm := g.chosen_perm now
  have hcount (p : NodeRecord → Bool) : (g.chosen now none).countP p =
      (g.chosen now (some .up)).countP p + (g.chosen now (some .down)).countP p := by
    rw [hperm.countP_eq, List.countP_append]
  have hsum (r : NodeRecord → Nat) : ((g.chosen now none).map r).sum =
      ((g.chosen now (some .up)).map r).sum + ((g.chosen now (some .down)).map r).sum := by
    rw [(hperm.map r).sum_eq, List.map_append, List.sum_append]
  have hdistinct {α : Type} [DecidableEq α] (key : NodeRecord → α) : distinct ((g.chosen now none).map key) =
      distinct ((g.chosen now (some .up)).map key ++ (g.chosen now (some .down)).map key) := by
    rw [distinct_perm (hperm.map key), List.map_append]
  have hdistribution := g.toNat_countOf_figures now hfit
  exact {
    nodes := by rw [hall.nodes, hup.nodes, hdown.nodes, hperm.length_eq, List.length_append]
    accessNodes := by rw [hall.accessNodes, hup.accessNodes, hdown.accessNodes, hcount]
    gateways := by rw [hall.gateways, hup.gateways, hdown.gateways, hcount]
    totalCru := by rw [hall.totalCru, hup.totalCru, hdown.totalCru, hsum]
    totalSru := by rw [hall.totalSru, hup.totalSru, hdown.totalSru, hsum]
    totalHru := by rw [hall.totalHru, hup.totalHru, hdown.totalHru, hsum]
    totalMru := by rw [hall.totalMru, hup.totalMru, hdown.totalMru, hsum]
    distribution := fun country => by rw [hdistribution, hdistribution, hdistribution, hcount]
    farms := by
      rw [hall.farms, hup.farms, hdown.farms, hdistinct]
      exact distinct_append _ _
    countries := by
      rw [hall.countries, hup.countries, hdown.countries, hdistinct]
      exact distinct_append _ _
    twins := ⟨rfl, rfl⟩
    publicIps := ⟨rfl, rfl⟩
    contracts := ⟨rfl, rfl⟩ }

/-! ### Figures and listings -/

/-- The filter for nodes with a status and nothing else. -/
def statusFilter (status : Option Status) : NodeFilter := { status := status.map (·.name) }

/-- The filter for gateways with a status. -/
def gatewayFilter (status : Option Status) : NodeFilter :=
  { statusFilter status with domain := some true, ipv4 := some true }

private theorem wantedStatus_statusFilter (status : Option Status) :
    (statusFilter status).wantedStatus = .ok status := by
  cases status with
  | none => rfl
  | some s => cases s <;> rfl

/-- A filter for a status alone picks the nodes that the figures are about. -/
private theorem matchingNodes_statusFilter (status : Option Status) :
    (g.matchingNodes now status (statusFilter status)).Perm ((g.chosen now status).map (g.serve now)) := by
  have hmatches : g.nodes.filter (g.nodeMatches now status (statusFilter status)) = g.chosen now status := by
    refine List.filter_congr fun n _ => ?_
    simp [nodeMatches, statusFilter, equals, atLeast, sameText, containsText]
  rw [matchingNodes, hmatches]
  exact sortBy_perm _ _

/-- The filter for gateways picks the nodes among them that have a domain and an address of the fourth version. -/
private theorem matchingNodes_gatewayFilter (status : Option Status) :
    (g.matchingNodes now status (gatewayFilter status)).length =
      (g.chosen now status).countP fun n => !n.publicConfig.domain.isEmpty && !n.publicConfig.ipv4.isEmpty := by
  have hnodes := (g.matchingNodes_statusFilter now status).countP_eq fun n =>
    !n.publicConfig.domain.isEmpty && !n.publicConfig.ipv4.isEmpty
  rw [gatewayFilter, matchingNodes_gateways, ← List.countP_eq_length_filter]
  refine hnodes.trans ?_
  rw [List.countP_map]
  rfl

/-- How the figures of a status fit one another, and the listings of nodes and gateways with the status. -/
structure Tallies (g : Grid) (now : UInt64) (records : Records) (status : Option Status) (c : Counters) : Prop where
  listed : ∀ limit : Limit, limit.retCount = true →
    ∃ page, asked records ((inventory g).nodes now (statusFilter status) limit) = .ok page ∧ page.2 = c.nodes
  keys : (c.nodesDistribution.map (·.1)).Nodup
  countries : c.nodesDistribution.length = c.countries.toNat
  values : (c.nodesDistribution.map (·.2.toNat)).sum = c.nodes.toNat
  country : ∀ limit : Limit, limit.page = 1 → g.nodes.length ≤ limit.size.toNat →
    ∃ page, asked records ((inventory g).nodes now (statusFilter status) limit) = .ok page ∧
      ∀ country, (countOf country c.nodesDistribution).toNat = page.1.countP (·.country = country)
  gateways : ∀ limit : Limit, limit.retCount = true →
    ∃ page, asked records ((inventory g).nodes now (gatewayFilter status) limit) = .ok page ∧
      page.2 ≤ c.gateways ∧ c.gateways ≤ c.accessNodes ∧ c.accessNodes ≤ c.nodes

theorem figures_tally (hfit : g.SumsFit) (records : Records) (status : Option Status) :
    g.Tallies now records status (g.figures now status) := by
  have hfigures := g.figures_eq now hfit status
  have hlength := Nat.lt_of_le_of_lt (g.length_chosen_le now status) hfit.nodes
  have hperm := g.matchingNodes_statusFilter now status
  have hlisted (limit : Limit) := g.listNodes_of_status now (wantedStatus_statusFilter status) limit
  have hgateways (limit : Limit) : g.listNodes now (gatewayFilter status) limit =
      .ok (cut limit (g.matchingNodes now status (gatewayFilter status))) :=
    g.listNodes_of_status now (f := gatewayFilter status) (wantedStatus_statusFilter status) limit
  have hcountries : (((g.chosen now status).map (·.country))).length < UInt64.size := by simpa using hlength
  exact {
    listed := fun limit hret => by
      refine ⟨_, hlisted limit, ?_⟩
      rw [cut, Limit.shownCount, if_pos hret, hperm.length_eq, List.length_map]
      rfl
    keys := by
      rw [hfigures.distribution]
      exact distribution_nodup _
    countries := by rw [hfigures.distribution, length_distribution, hfigures.countries]
    values := by rw [hfigures.distribution, sum_distribution hcountries, hfigures.nodes, List.length_map]
    country := fun limit hpage hsize => by
      have hroom : (g.matchingNodes now status (statusFilter status)).length ≤ limit.size.toNat := by
        rw [hperm.length_eq, List.length_map]
        exact Nat.le_trans (g.length_chosen_le now status) hsize
      refine ⟨_, hlisted limit, fun country => ?_⟩
      rw [g.toNat_countOf_figures now hfit, cut_eq_self hpage hroom, hperm.countP_eq, List.countP_map]
      rfl
    gateways := fun limit hret => by
      refine ⟨_, hgateways limit, ?_, ?_, ?_⟩
      · rw [cut, Limit.shownCount, if_pos hret, UInt64.le_iff_toNat_le, hfigures.gateways,
          matchingNodes_gatewayFilter, UInt64.toNat_ofNat_of_lt' (Nat.lt_of_le_of_lt List.countP_le_length hlength)]
        exact List.countP_mono_left fun n _ h => n.isGateway_of_listed h
      · rw [UInt64.le_iff_toNat_le, hfigures.gateways, hfigures.accessNodes]
        exact List.countP_mono_left fun n _ h => n.isAccess_of_isGateway h
      · rw [UInt64.le_iff_toNat_le, hfigures.accessNodes, hfigures.nodes]
        exact List.countP_le_length }

/-- The statistics over all nodes are the sums of those over the nodes that are up and those over the nodes that are
down, the numbers of different farms and countries excepted, which overlap.  For each status the figures fit one another,
and the listings of nodes and of gateways with this status. -/
theorem statistics_add_up (hfit : g.SumsFit) (records : Records) :
    ∃ all up down : Counters,
      asked records ((inventory g).counters now {}) = .ok all ∧
      asked records ((inventory g).counters now { status := some "up" }) = .ok up ∧
      asked records ((inventory g).counters now { status := some "down" }) = .ok down ∧
      Splits all up down ∧
      g.Tallies now records none all ∧ g.Tallies now records (some .up) up ∧ g.Tallies now records (some .down) down :=
  ⟨_, _, _, rfl, rfl, rfl, g.figures_split now hfit, g.figures_tally now hfit records none,
    g.figures_tally now hfit records (some .up), g.figures_tally now hfit records (some .down)⟩

/-- A grid in which a farm and a country have both a node that is up and one that is down. -/
def mixedGrid : Grid where
  nodes := [
    { nodeId := 1, farmId := 1, country := "BE", updatedAt := 90000, total := { cru := 4, mru := 8 },
      publicConfig := { ipv4 := "10.0.0.1/24", domain := "a.example" } },
    { nodeId := 2, farmId := 1, country := "BE", total := { cru := 2 }, publicConfig := { ipv6 := "2001::1/64" } },
    { nodeId := 3, farmId := 2, country := "EG", updatedAt := 95000, total := { cru := 1 } }]

/-- The statistics of this grid. -/
theorem mixedGrid_adds_up :
    mixedGrid.SumsFit ∧
    ∃ all up down : Counters,
      asked [] ((inventory mixedGrid).counters 100000 {}) = .ok all ∧
      asked [] ((inventory mixedGrid).counters 100000 { status := some "up" }) = .ok up ∧
      asked [] ((inventory mixedGrid).counters 100000 { status := some "down" }) = .ok down ∧
      Splits all up down ∧
      mixedGrid.Tallies 100000 [] none all ∧ mixedGrid.Tallies 100000 [] (some .up) up ∧
      mixedGrid.Tallies 100000 [] (some .down) down := by
  have hfit : mixedGrid.SumsFit := ⟨by decide, by decide, by decide, by decide, by decide⟩
  exact ⟨hfit, statistics_add_up mixedGrid 100000 hfit []⟩

end Grid

end GridGateway
