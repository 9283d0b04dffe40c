import GridGateway.Proofs.Grid.Matching
import GridGateway.Proofs.Http.OverGrid

/-!
# Constraints that a grid does not read

A database narrows a listing of farms, twins or contracts down by every constraint of the filter.  A grid reads some of
the constraints only: of a farm it leaves out the stellar address, the pricing policy and the certification, of a twin
the relay and the public key, and of a contract all that depends on its kind.  So it lists what satisfies the
constraints that it reads (`lists_farms`, `lists_twins`, `lists_contracts`), and this is what the filter asks for
just when the others hold of it anyway (`listings_miss_unread`).
-/

namespace GridGateway

open Query

/-! ### What a filter asks of an entity -/

namespace ContractDetails

/-- The node that a contract is about; a name is about none. -/
def nodeNumber : ContractDetails → UInt32
  | node d => d.nodeId
  | name _ => 0
  | rent id => id

/-- The name that a contract is about. -/
def nameText : ContractDetails → String
  | name n => n
  | _ => ""

/-- What a contract says about a deployment, which is nothing for other kinds. -/
def deployment : ContractDetails → NodeDetails
  | node d => d
  | _ => {}

end ContractDetails

namespace Grid

/-- A farm satisfies every constraint that a filter has. -/
@[mk_iff]
structure FarmSatisfies (f : FarmFilter) (farm : Farm) : Prop where
  freeIps : ∀ w ∈ f.freeIps, w.toNat ≤ farm.freeIps
  totalIps : ∀ w ∈ f.totalIps, w.toNat ≤ farm.publicIps.length
  stellarAddress : ∀ w ∈ f.stellarAddress, farm.stellarAddress = w
  pricingPolicyId : ∀ w ∈ f.pricingPolicyId, farm.pricingPolicyId.toNat = w.toNat
  farmId : ∀ w ∈ f.farmId, farm.farmId.toNat = w.toNat
  twinId : ∀ w ∈ f.twinId, farm.twinId.toNat = w.toNat
  name : ∀ w ∈ f.name, Text.lower farm.name = Text.lower w
  nameContains : ∀ w ∈ f.nameContains, (Text.lower w).toList <:+: (Text.lower farm.name).toList
  certificationType : ∀ w ∈ f.certificationType, Text.lower farm.certificationType = Text.lower w
  dedicated : ∀ b ∈ f.dedicated, farm.dedicated = b

/-- A twin satisfies every constraint that a filter has; a text that is absent is none that is wanted. -/
@[mk_iff]
structure TwinSatisfies (f : TwinFilter) (t : Twin) : Prop where
  twinId : ∀ w ∈ f.twinId, t.twinId.toNat = w.toNat
  accountId : ∀ w ∈ f.accountId, t.accountId = w
  relay : ∀ w ∈ f.relay, t.relay = some w
  publicKey : ∀ w ∈ f.publicKey, t.publicKey = some w

/-- A contract satisfies every constraint that a filter has. -/
@[mk_iff]
structure ContractSatisfies (f : ContractFilter) (c : Contract) : Prop where
  contractId : ∀ w ∈ f.contractId, c.contractId = w
  twinId : ∀ w ∈ f.twinId, c.twinId.toNat = w.toNat
  nodeId : ∀ w ∈ f.nodeId, c.details.nodeNumber.toNat = w.toNat
  kind : ∀ w ∈ f.kind, Text.sameIgnoringAsciiCase c.kind.label w = true
  state : ∀ w ∈ f.state, Text.sameIgnoringAsciiCase c.state w = true
  name : ∀ w ∈ f.name, c.details.nameText = w
  numberOfPublicIps : ∀ w ∈ f.numberOfPublicIps, w.toNat ≤ c.details.deployment.numberOfPublicIps.toNat
  deploymentData : ∀ w ∈ f.deploymentData, c.details.deployment.deploymentData = w
  deploymentHash : ∀ w ∈ f.deploymentHash, c.details.deployment.deploymentHash = w

/-! ### What a grid reads of a filter -/

/-- The constraints on farms that a grid reads. -/
def readOfFarms (f : FarmFilter) : FarmFilter :=
  { f with stellarAddress := none, pricingPolicyId := none, certificationType := none }

/-- The constraints on twins that a grid reads. -/
def readOfTwins (f : TwinFilter) : TwinFilter := { f with relay := none, publicKey := none }

/-- The constraints on contracts that a grid reads. -/
def readOfContracts (f : ContractFilter) : ContractFilter :=
  { f with
    nodeId := none, name := none, numberOfPublicIps := none, deploymentData := none, deploymentHash := none }

theorem FarmSatisfies.read {f : FarmFilter} {farm : Farm} (h : FarmSatisfies f farm) :
    FarmSatisfies (readOfFarms f) farm :=
  { h with
    stellarAddress := fun _ hw => nomatch hw
    pricingPolicyId := fun _ hw => nomatch hw
    certificationType := fun _ hw => nomatch hw }

theorem TwinSatisfies.read {f : TwinFilter} {t : Twin} (h : TwinSatisfies f t) : TwinSatisfies (readOfTwins f) t :=
  { h with
    relay := fun _ hw => nomatch hw
    publicKey := fun _ hw => nomatch hw }

theorem ContractSatisfies.read {f : ContractFilter} {c : Contract} (h : ContractSatisfies f c) :
    ContractSatisfies (readOfContracts f) c :=
  { h with
    nodeId := fun _ hw => nomatch hw
    name := fun _ hw => nomatch hw
    numberOfPublicIps := fun _ hw => nomatch hw
    deploymentData := fun _ hw => nomatch hw
    deploymentHash := fun _ hw => nomatch hw }

/-- A farm matches when it satisfies what is read of the filter. -/
private theorem farmMatches_iff {f : FarmFilter} {farm : Farm} (haddresses : farm.publicIps.length < UInt64.size) :
    farmMatches f farm = true ↔ FarmSatisfies (readOfFarms f) farm := by
  have hfree : farm.freeIps < UInt64.size := Nat.lt_of_le_of_lt List.countP_le_length haddresses
  have hcount {n : Nat} (hn : n < UInt64.size) {wanted : Option UInt64} :
      atLeast (.ofNat n) wanted = true ↔ ∀ w ∈ wanted, w.toNat ≤ n := by
    rw [total_iff, UInt64.toNat_ofNat_of_lt' hn]
  rw [farmSatisfies_iff]
  simp only [farmMatches, readOfFarms, Bool.and_eq_true, and_assoc, Option.not_mem_none, false_imp_iff, implies_true,
    true_and]
  refine and_congr (hcount hfree) (and_congr (hcount haddresses) ?_)
  refine and_congr number_iff (and_congr number_iff (and_congr sameText_iff ?_))
  exact and_congr containsText_iff equals_iff

/-- A twin matches when it satisfies what is read of the filter. -/
private theorem twinMatches_iff {f : TwinFilter} {t : Twin} :
    twinMatches f t = true ↔ TwinSatisfies (readOfTwins f) t := by
  rw [twinSatisfies_iff]
  simp only [twinMatches, readOfTwins, Bool.and_eq_true, Option.not_mem_none, false_imp_iff, implies_true, and_true]
  exact and_congr number_iff equals_iff

/-- A word that was read from a filter is one that the filter names. -/
private theorem word_of_choice {α : Type} {key expected : String} {words : List α} {label : α → String}
    {named : Option String} {wanted : Option α}
    (h : choice key expected (fun s => words.find? fun a => Text.sameIgnoringAsciiCase (label a) s) named =
      .ok wanted) :
    (named = none ∧ wanted = none) ∨
      ∃ word a, named = some word ∧ wanted = some a ∧ Text.lowerAscii (label a) = Text.lowerAscii word := by
  cases named with
  | none =>
    cases h
    exact .inl ⟨rfl, rfl⟩
  | some word =>
    rw [choice] at h
    cases hfind : words.find? fun a => Text.sameIgnoringAsciiCase (label a) word with
    | none =>
      simp only [hfind] at h
      cases h
    | some a =>
      simp only [hfind] at h
      cases h
      have hsame := List.find?_some hfind
      exact .inr ⟨word, a, rfl, rfl, eq_of_beq hsame⟩

/-- The kind that was read from a filter is the kind that the filter names. -/
private theorem kind_iff {f : ContractFilter} {kind : Option ContractKind} (h : f.wantedKind = .ok kind)
    (k : ContractKind) :
    equals k kind = true ↔ ∀ w ∈ f.kind, Text.sameIgnoringAsciiCase k.label w = true := by
  rw [equals_iff]
  rcases word_of_choice h with ⟨hword, rfl⟩ | ⟨word, a, hword, rfl, hlabel⟩
  · simp [hword]
  · have hlabels : k = a ↔ Text.lowerAscii k.label = Text.lowerAscii a.label := by
      cases k <;> cases a <;> decide
    simp [hword, Text.sameIgnoringAsciiCase, ← hlabel, hlabels]

/-- The state that was read from a filter is the state that the filter names. -/
private theorem state_iff {f : ContractFilter} {state : Option ContractState} (h : f.wantedState = .ok state)
    (recorded : String) : (state.all fun s => Text.sameIgnoringAsciiCase recorded s.label) = true ↔
      ∀ w ∈ f.state, Text.sameIgnoringAsciiCase recorded w = true := by
  rcases word_of_choice h with ⟨hword, rfl⟩ | ⟨word, a, hword, rfl, hlabel⟩
  · simp [hword]
  · simp [hword, Text.sameIgnoringAsciiCase, ← hlabel]

/-- A contract matches when it satisfies what is read of the filter. -/
private theorem contractMatches_iff {f : ContractFilter} {state : Option ContractState} {kind : Option ContractKind}
    (hstate : f.wantedState = .ok state) (hkind : f.wantedKind = .ok kind) {c : Contract} :
    contractMatches state kind f c = true ↔ ContractSatisfies (readOfContracts f) c := by
  rw [contractSatisfies_iff]
  simp only [contractMatches, readOfContracts, Bool.and_eq_true, and_assoc, Option.not_mem_none, false_imp_iff,
    implies_true, and_true, true_and]
  exact and_congr equals_iff (and_congr number_iff (and_congr (kind_iff hkind _) (state_iff hstate _)))

/-! ### Listings -/

/-- The page holds the served entities with a property, and no others. -/
def Lists {α : Type} (page served : List α) (p : α → Prop) : Prop := ∀ x, x ∈ page ↔ x ∈ served ∧ p x

/-- A page that lists too much for a stronger property lists it just if the weaker one implies it. -/
private theorem Lists.iff_of_imp {α : Type} {page served : List α} {p q : α → Prop} (h : Lists page served p)
    (hqp : ∀ x, q x → p x) : Lists page served q ↔ ∀ x ∈ served, p x → q x := by
  constructor
  · exact fun hq x hx hpx => ((hq x).mp ((h x).mpr ⟨hx, hpx⟩)).2
  · exact fun hpq x => (h x).trans (and_congr_right fun hx => ⟨hpq x hx, hqp x⟩)

/-- A page with room for all entities lists those that pass a test. -/
private theorem lists_of_test {α : Type} {served : List α} {key : α → Nat} {test : α → Bool} {p : α → Prop}
    {limit : Limit}
    (hpage : limit.page = 1) (hsize : served.length ≤ limit.size.toNat) (htest : ∀ x ∈ served, test x = true ↔ p x) :
    Lists (cut limit (sortBy key (served.filter test))).1 served p := by
  have hroom : (sortBy key (served.filter test)).length ≤ limit.size.toNat := by
    rw [sortBy, List.length_mergeSort]
    exact Nat.le_trans (List.length_filter_le _ _) hsize
  intro x
  rw [cut_eq_self hpage hroom, mem_sortBy, List.mem_filter]
  exact and_congr_right (htest x)

variable (g : Grid) {limit : Limit}

/-- The farms on a page with room for all are those that satisfy what is read of the filter. -/
theorem lists_farms (haddresses : ∀ farm ∈ g.farms, farm.publicIps.length < UInt64.size)
    (hpage : limit.page = 1)
    (hsize : g.farms.length ≤ limit.size.toNat) (f : FarmFilter) :
    Lists (cut limit (g.matchingFarms f)).1 (g.farms.map (·.serve)) (FarmSatisfies (readOfFarms f)) := by
  refine lists_of_test hpage (by rwa [List.length_map]) fun farm hfarm => farmMatches_iff ?_
  obtain ⟨r, hr, rfl⟩ := List.mem_map.mp hfarm
  exact haddresses r hr

/-- The twins on a page with room for all are those that satisfy what is read of the filter. -/
theorem lists_twins (hpage : limit.page = 1) (hsize : g.twins.length ≤ limit.size.toNat) (f : TwinFilter) :
    Lists (cut limit (g.matchingTwins f)).1 g.twins (TwinSatisfies (readOfTwins f)) :=
  lists_of_test hpage hsize fun _ _ => twinMatches_iff

/-- The contracts on a page with room for all are those that satisfy what is read of the filter. -/
theorem lists_contracts (hpage : limit.page = 1) (hsize : g.contracts.length ≤ limit.size.toNat)
    {f : ContractFilter}
    {state : Option ContractState} {kind : Option ContractKind} (hstate : f.wantedState = .ok state)
    (hkind : f.wantedKind = .ok kind) :
    Lists (cut limit (g.matchingContracts state kind f)).1 g.contracts (ContractSatisfies (readOfContracts f)) :=
  lists_of_test hpage hsize fun _ _ => contractMatches_iff hstate hkind

/-- A page with room for all lists the farms, twins or contracts that satisfy what a grid reads of the filter.  It lists
those that satisfy the filter just if all that satisfy what is read satisfy the rest as well. -/
theorem listings_miss_unread (records : Telemetry.Records) (hpage : limit.page = 1) :
    (∀ f : FarmFilter, (∀ farm ∈ g.farms, farm.publicIps.length < UInt64.size) →
      g.farms.length ≤ limit.size.toNat →
      ∃ page, asked records ((inventory g).farms f limit) = .ok page ∧
        Lists page.1 (g.farms.map (·.serve)) (FarmSatisfies (readOfFarms f)) ∧
        (Lists page.1 (g.farms.map (·.serve)) (FarmSatisfies f) ↔
          ∀ farm ∈ g.farms.map (·.serve), FarmSatisfies (readOfFarms f) farm → FarmSatisfies f farm)) ∧
    (∀ f : TwinFilter, g.twins.length ≤ limit.size.toNat →
      ∃ page, asked records ((inventory g).twins f limit) = .ok page ∧
        Lists page.1 g.twins (TwinSatisfies (readOfTwins f)) ∧
        (Lists page.1 g.twins (TwinSatisfies f) ↔
          ∀ t ∈ g.twins, TwinSatisfies (readOfTwins f) t → TwinSatisfies f t)) ∧
    ∀ (f : ContractFilter) (state : Option ContractState) (kind : Option ContractKind),
      f.wantedState = .ok state → f.wantedKind = .ok kind → g.contracts.length ≤ limit.size.toNat →
      ∃ page, asked records ((inventory g).contracts f limit) = .ok page ∧
        Lists page.1 g.contracts (ContractSatisfies (readOfContracts f)) ∧
        (Lists page.1 g.contracts (ContractSatisfies f) ↔
          ∀ c ∈ g.contracts, ContractSatisfies (readOfContracts f) c → ContractSatisfies f c) := by
  refine ⟨fun f haddresses hsize => ?_, fun f hsize => ?_, fun f state kind hstate hkind hsize => ?_⟩
  · have hlists := g.lists_farms haddresses hpage hsize f
    exact ⟨_, rfl, hlists, hlists.iff_of_imp fun _ => FarmSatisfies.read⟩
  · have hlists := g.lists_twins hpage hsize f
    exact ⟨_, rfl, hlists, hlists.iff_of_imp fun _ => TwinSatisfies.read⟩
  · have hlists := g.lists_contracts hpage hsize hstate hkind
    exact ⟨_, g.listContracts_of_valid hstate hkind limit, hlists, hlists.iff_of_imp fun _ => ContractSatisfies.read⟩

/-- A farm, a twin and a contract of a name. -/
def oneOfEach : Grid where
  farms := [{ farmId := 1, name := "f", twinId := 1 }]
  twins := [{ twinId := 1, accountId := "a", relay := some "r1", publicKey := some "k1" }]
  nameContracts := [{ contractId := 5, twinId := 1, name := "web", state := "Created" }]

/-- The name and the twin of the farm are read, and so is the account of the twin; of a filter for contracts in some
state, which names a node too, the state alone is read. -/
theorem oneOfEach_listed :
    (∃ page, asked [] ((inventory oneOfEach).farms { name := some "F" } {}) = .ok page ∧
      Lists page.1 (oneOfEach.farms.map (·.serve)) (FarmSatisfies { name := some "F" })) ∧
    (∃ page, asked [] ((inventory oneOfEach).twins { accountId := some "b" } {}) = .ok page ∧
      Lists page.1 oneOfEach.twins (TwinSatisfies { accountId := some "b" })) ∧
    ∃ page, asked [] ((inventory oneOfEach).contracts { state := some "created", nodeId := some 4 } {}) = .ok page ∧
      Lists page.1 oneOfEach.contracts (ContractSatisfies { state := some "created" }) := by
  obtain ⟨hfarms, htwins, hcontracts⟩ := @listings_miss_unread oneOfEach {} [] rfl
  obtain ⟨farms, hasked, hlists, -⟩ := hfarms { name := some "F" } (by decide) (by decide)
  obtain ⟨twins, hasked', hlists', -⟩ := htwins { accountId := some "b" } (by decide)
  obtain ⟨contracts, hasked'', hlists'', -⟩ :=
    hcontracts { state := some "created", nodeId := some 4 } (some .created) none (by rfl) rfl (by decide)
  exact ⟨⟨farms, hasked, hlists⟩, ⟨twins, hasked', hlists'⟩, ⟨contracts, hasked'', hlists''⟩⟩

/-- The twin is listed for the relay of another one, the farm for an address that it does not have, and the contract for
another name. -/
theorem oneOfEach_listed_too_often :
    (∃ page, asked [] ((inventory oneOfEach).twins { relay := some "r2" } {}) = .ok page ∧
      ¬ Lists page.1 oneOfEach.twins (TwinSatisfies { relay := some "r2" })) ∧
    (∃ page, asked [] ((inventory oneOfEach).farms { stellarAddress := some "x" } {}) = .ok page ∧
      ¬ Lists page.1 (oneOfEach.farms.map (·.serve)) (FarmSatisfies { stellarAddress := some "x" })) ∧
    ∃ page, asked [] ((inventory oneOfEach).contracts { name := some "db" } {}) = .ok page ∧
      ¬ Lists page.1 oneOfEach.contracts (ContractSatisfies { name := some "db" }) := by
  refine ⟨⟨_, rfl, fun h => ?_⟩, ⟨_, rfl, fun h => ?_⟩,
    ⟨_, @listContracts_of_valid oneOfEach { name := some "db" } none none rfl rfl {}, fun h => ?_⟩⟩
  · have hlisted : ⟨1, "a", some "r1", some "k1"⟩ ∈ (cut {} (oneOfEach.matchingTwins { relay := some "r2" })).1 := by
      decide +kernel
    exact absurd (((h _).mp hlisted).2.relay "r2" rfl) (by decide)
  · have hlisted : FarmRecord.serve { farmId := 1, name := "f", twinId := 1 } ∈
        (cut {} (oneOfEach.matchingFarms { stellarAddress := some "x" })).1 := by decide +kernel
    exact absurd (((h _).mp hlisted).2.stellarAddress "x" rfl) (by decide)
  · have hlisted : ⟨5, 1, "Created", 0, .name "web", []⟩ ∈
        (cut {} (oneOfEach.matchingContracts none none { name := some "db" })).1 := by decide +kernel
    exact absurd (((h _).mp hlisted).2.name "db" rfl) (by decide)

end Grid

end GridGateway
