import GridGateway.Proofs.Entity.ReadBack
import GridGateway.Proofs.Sql.Phrases
import GridGateway.Proofs.Sql.Questions

/-!
# Reading filters off statements

No constraint is lost on the way to the database: from the text of a statement and its values, the filter it was
written for can be read off.  A node or farm filter is a list of conditions whose phrases are prefix free, so each
condition can be found in the text, and its value tells the constraint as long as numbers fit the database's integers.
-/

namespace GridGateway.Sql

open Query

/-! ### Numbers -/

/-- The numbers in a slot fit the integers of the database. -/
def SlotFits {F : Type} (f : F) : Slot F → Prop
  | .number _ get _ => ∀ n ∈ get f, (n.toNat : Int) ≤ maxBigint
  | .numbers _ get _ => ∀ n ∈ get f, (n.toNat : Int) ≤ maxBigint
  | .text .. => True
  | .flag .. => True

/-- All numbers of a filter fit the integers of the database. -/
def Fits {F : Type} (slots : List (Slot F)) (f : F) : Prop := ∀ slot ∈ slots, SlotFits f slot

/-- Numbers that fit are bound as they are. -/
private theorem bigintOf_inj {m n : UInt64} (hm : (m.toNat : Int) ≤ maxBigint) (hn : (n.toNat : Int) ≤ maxBigint)
    (h : bigintOf m = bigintOf n) : m = n := by
  rw [bigintOf, bigintOf, Int.min_eq_left hm, Int.min_eq_left hn] at h
  exact UInt64.toNat_inj.1 (Int.ofNat_inj.1 h)

private theorem number_inj {a b : Option UInt64}
    (hfits : (∀ n ∈ a, (n.toNat : Int) ≤ maxBigint) ∧ ∀ n ∈ b, (n.toNat : Int) ≤ maxBigint)
    (h : number a = number b) : a = b := by
  cases a with
  | none =>
    cases b with
    | none => rfl
    | some n => cases h
  | some m =>
    cases b with
    | none => cases h
    | some n => rw [bigintOf_inj (hfits.1 m rfl) (hfits.2 n rfl) (Param.bigint.inj (Option.some.inj h))]

private theorem numbers_inj {ms ns : List UInt64}
    (hfits : (∀ n ∈ ms, (n.toNat : Int) ≤ maxBigint) ∧ ∀ n ∈ ns, (n.toNat : Int) ≤ maxBigint)
    (h : ms.map bigintOf = ns.map bigintOf) : ms = ns := by
  induction ms generalizing ns with
  | nil => exact (List.map_eq_nil_iff.1 h.symm).symm
  | cons m ms ih =>
    obtain ⟨n, ns, rfl, hn, hns⟩ := List.map_eq_cons_iff.1 h.symm
    simp only [List.forall_mem_cons] at hfits
    rw [bigintOf_inj hfits.1.1 hfits.2.1 hn.symm, ih ⟨hfits.1.2, hfits.2.2⟩ hns.symm]

private theorem truth_inj {a b : Option Bool} (h : truth a = truth b) : a = b :=
  Option.map_injective (fun _ _ => Param.bool.inj) h

private theorem word_inj {a b : Option String} (h : word a = word b) : a = b :=
  Option.map_injective (fun _ _ h => Option.some.inj (Param.text.inj h)) h

/-! ### Nodes -/

private theorem tokens_statusCondition (now : UInt64) (s : Status) :
    (statusCondition now (some s)).tokens = " AND ".toList.map some ++ (statusClause s).toList.map clauseToken := by
  have htokens := tokens_template (statusClause s).toList (thresholdParam now)
  rwa [String.ofList_toList] at htokens

private theorem faithful_statusCondition (now : UInt64) (a b : Option Status) :
    Faithful [" AND ".toList.map some ++ (statusClause .up).toList.map clauseToken,
        " AND ".toList.map some ++ (statusClause .down).toList.map clauseToken]
      (statusCondition now a) (statusCondition now b) (a = b) := by
  refine .choice (statusCondition now) rfl (fun s => ?_) (by decide +kernel) (fun s s' heq => ?_) a b
  · rw [tokens_statusCondition]
    cases s with
    | up => exact List.mem_cons_self ..
    | down => exact List.mem_cons_of_mem _ (List.mem_singleton_self _)
  · rw [tokens_statusCondition, tokens_statusCondition] at heq
    have hclause : (statusClause .up).toList.map clauseToken ≠ (statusClause .down).toList.map clauseToken := by
      decide +kernel
    cases s with
    | up =>
      cases s' with
      | up => rfl
      | down => exact absurd (List.append_cancel_left heq) hclause
    | down =>
      cases s' with
      | up => exact absurd (List.append_cancel_left heq).symm hclause
      | down => rfl

/-- A status is asked for by its name. -/
private theorem eq_name_of_ofName? {word : String} {s : Status} (h : Status.ofName? word = some s) : word = s.name := by
  unfold Status.ofName? at h
  split at h
  · next hup =>
    cases h
    exact hup
  · split at h
    · next hdown =>
      cases h
      exact hdown
    · cases h

/-- A status that was read from a word tells the word. -/
private theorem statusChoice_inj {a b : Option String} {status : Option Status} (ha : statusChoice a = .ok status)
    (hb : statusChoice b = .ok status) : a = b := by
  have hword (a : Option String) (ha : statusChoice a = .ok status) : a = status.map Status.name := by
    cases a with
    | none =>
      cases ha
      rfl
    | some word =>
      simp only [statusChoice, choice] at ha
      split at ha
      · next s hs =>
        cases ha
        rw [eq_name_of_ofName? hs, Option.map_some]
      · cases ha
  rw [hword a ha, hword b hb]

set_option maxRecDepth 20000 in
/-- A node filter can be read off its conditions. -/
private theorem nodeFilter_of_conditions {f g : NodeFilter} (hf : Fits NodeFilter.slots f)
    (hg : Fits NodeFilter.slots g) {now : UInt64} {status status' : Option Status} (hs : f.wantedStatus = .ok status)
    (hs' : g.wantedStatus = .ok status') {front : Fragment}
    (h : (front ++ (statusCondition now status ++ nodeConditions f)).statement =
      (front ++ (statusCondition now status' ++ nodeConditions g)).statement) : f = g := by
  have hread := Faithful.of_statement_eq h
    ((faithful_statusCondition now status status').append
      (faithful_compare _ _ _ _
        |>.append (faithful_compare _ _ _ _)
        |>.append (faithful_compare _ _ _ _)
        |>.append (faithful_compare _ _ _ _)
        |>.append (faithful_compare _ _ _ _)
        |>.append (faithful_compare _ _ _ _)
        |>.append (faithful_compare _ _ _ _)
        |>.append (faithful_equalsIgnoringCase _ _ _)
        |>.append (faithful_containsIgnoringCase _ _ _)
        |>.append (faithful_equalsIgnoringCase _ _ _)
        |>.append (faithful_containsIgnoringCase _ _ _)
        |>.append (faithful_compare _ _ _ _)
        |>.append (faithful_compare _ _ _ _)
        |>.append (faithful_anyOf _ _ _)
        |>.append (faithful_equalsIgnoringCase _ _ _)
        |>.append (faithful_containsIgnoringCase _ _ _)
        |>.append (faithful_template rfl (by decide +kernel) _ _)
        |>.append (faithful_choose (by decide) _ _)
        |>.append (faithful_choose (by decide) _ _)
        |>.append (faithful_choose (by decide) _ _)
        |>.append (faithful_compare _ _ _ _)
        |>.append (faithful_template String.ofList_append.symm (by decide +kernel) _ _)
        |>.append (faithful_template rfl (by decide +kernel) _ _)
        |>.append (faithful_compare _ _ _ _)
        |>.append (faithful_template String.ofList_append.symm (by decide +kernel) _ _)
        |>.append (faithful_equalsIgnoringCase _ _ _)))
    (by decide +kernel) (by decide +kernel)
  simp only [and_assoc] at hread
  obtain ⟨rfl, hfreeMru, hfreeHru, hfreeSru, htotalCru, htotalMru, htotalHru, htotalSru, hcountry, hcountryContains,
    hcity, hcityContains, hnodeId, htwinId, hfarmIds, hfarmName, hfarmNameContains, hfreeIps, hipv4, hipv6, hdomain,
    hdedicated, hrentable, hrented, hrentedBy, havailableFor, hcertificationType⟩ := hread
  have hfits : ∀ slot ∈ NodeFilter.slots, SlotFits f slot ∧ SlotFits g slot := fun slot h => ⟨hf slot h, hg slot h⟩
  simp only [NodeFilter.slots, List.forall_mem_cons, SlotFits, and_true, true_and, List.not_mem_nil, false_imp_iff,
    implies_true] at hfits
  obtain ⟨fMru, fHru, fSru, tMru, tHru, tSru, tCru, fFarms, fIps, fRentedBy, fAvailable, fNode, fTwin⟩ := hfits
  cases f
  cases g
  simp only [NodeFilter.mk.injEq]
  exact ⟨statusChoice_inj hs hs', number_inj fMru hfreeMru, number_inj fHru hfreeHru, number_inj fSru hfreeSru,
    number_inj tMru htotalMru, number_inj tHru htotalHru, number_inj tSru htotalSru, number_inj tCru htotalCru,
    hcountry, hcountryContains, hcity, hcityContains, hfarmName, hfarmNameContains, numbers_inj fFarms hfarmIds,
    number_inj fIps hfreeIps, hipv4, hipv6, hdomain, truth_inj hdedicated, truth_inj hrentable, truth_inj hrented,
    number_inj fRentedBy hrentedBy, number_inj fAvailable havailableFor, number_inj fNode hnodeId,
    number_inj fTwin htwinId, hcertificationType⟩

private theorem nodeFilter_of_statement {f g : NodeFilter} (hf : Fits NodeFilter.slots f) (hg : Fits NodeFilter.slots g)
    {resources : Resources} {now : UInt64} {p q : Fragment} (hp : nodeSource? resources f now = .ok p)
    (hq : nodeSource? resources g now = .ok q) {columns : String}
    (h : (select columns p).statement = (select columns q).statement) : f = g := by
  obtain ⟨status, hs, rfl⟩ := nodeSource_eq_ok hp
  obtain ⟨status', hs', rfl⟩ := nodeSource_eq_ok hq
  rw [select_nodeSource, select_nodeSource] at h
  exact nodeFilter_of_conditions hf hg hs hs' h

/-! ### Farms, twins and contracts -/

/-- The conditions of a statement stand behind its fixed part. -/
private theorem select_where (columns table : String) (p : Fragment) :
    select columns ([.sql table] ++ (whereTrue ++ p)) = select columns ([.sql table] ++ whereTrue) ++ p := rfl

set_option maxRecDepth 20000 in
private theorem farmFilter_of_statement {f g : FarmFilter} (hf : Fits FarmFilter.slots f) (hg : Fits FarmFilter.slots g)
    {columns : String}
    (h : (select columns (farmSource f)).statement = (select columns (farmSource g)).statement) : f = g := by
  simp only [farmSource, List.append_assoc, select_where] at h
  have hread := Faithful.of_statement_eq h
    ((faithful_template rfl (by decide +kernel) _ _).append <|
      (faithful_template rfl (by decide +kernel) _ _).append <|
      (faithful_compare _ _ _ _).append <|
      (faithful_compare _ _ _ _).append <|
      (faithful_compare _ _ _ _).append <|
      (faithful_compare _ _ _ _).append <|
      (faithful_equalsIgnoringCase _ _ _).append <|
      (faithful_containsIgnoringCase _ _ _).append <|
      (faithful_equalsIgnoringCase _ _ _).append <|
      faithful_compare _ _ _ _)
    (by decide +kernel) (by decide +kernel)
  obtain ⟨hfreeIps, htotalIps, hstellarAddress, hpricingPolicyId, hfarmId, htwinId, hname, hnameContains,
    hcertificationType, hdedicated⟩ := hread
  have hfits : ∀ slot ∈ FarmFilter.slots, SlotFits f slot ∧ SlotFits g slot := fun slot h => ⟨hf slot h, hg slot h⟩
  simp only [FarmFilter.slots, List.forall_mem_cons, SlotFits, and_true, true_and, List.not_mem_nil, false_imp_iff,
    implies_true] at hfits
  obtain ⟨fFreeIps, fTotalIps, fPolicy, fFarm, fTwin⟩ := hfits
  cases f
  cases g
  simp only [FarmFilter.mk.injEq]
  exact ⟨number_inj fFreeIps hfreeIps, number_inj fTotalIps htotalIps, word_inj hstellarAddress,
    number_inj fPolicy hpricingPolicyId, number_inj fFarm hfarmId, number_inj fTwin htwinId, hname, hnameContains,
    hcertificationType, truth_inj hdedicated⟩

private theorem twinFilter_of_statement {f g : TwinFilter} (hf : Fits TwinFilter.slots f) (hg : Fits TwinFilter.slots g)
    {columns : String}
    (h : (select columns (twinSource f)).statement = (select columns (twinSource g)).statement) : f = g := by
  simp only [twinSource, List.append_assoc, select_where] at h
  have hread := Faithful.of_statement_eq h
    ((faithful_compare _ _ _ _).append <|
      (faithful_compare _ _ _ _).append <|
      (faithful_compare _ _ _ _).append <|
      faithful_compare _ _ _ _)
    (by decide +kernel) (by decide +kernel)
  obtain ⟨htwinId, haccountId, hrelay, hpublicKey⟩ := hread
  have htwin : SlotFits f (.number "twin_id" _ _) ∧ SlotFits g (.number "twin_id" _ _) :=
    ⟨hf _ (List.mem_cons_self ..), hg _ (List.mem_cons_self ..)⟩
  cases f
  cases g
  simp only [TwinFilter.mk.injEq]
  exact ⟨number_inj htwin htwinId, word_inj haccountId, word_inj hrelay, word_inj hpublicKey⟩

private theorem contractKind_label_injective : Function.Injective ContractKind.label := by
  intro a b h
  have hfound := congrArg ContractKind.ofLabel? h
  rwa [ContractKind.ofLabel?_label, ContractKind.ofLabel?_label, Option.some.injEq] at hfound

/-- A state is found by its word. -/
private theorem contractState_ofWord?_label (s : ContractState) : ContractState.ofWord? s.label = some s := by
  cases s <;> rfl

private theorem contractState_label_injective : Function.Injective ContractState.label := by
  intro a b h
  have hfound := congrArg ContractState.ofWord? h
  rwa [contractState_ofWord?_label, contractState_ofWord?_label, Option.some.injEq] at hfound

set_option maxRecDepth 20000 in
/-- The words for state and kind come back as what they were read as. -/
private theorem contractFilter_of_statement {f g : ContractFilter} (hf : Fits ContractFilter.slots f)
    (hg : Fits ContractFilter.slots g) {p q : Fragment} (hp : contractSource? f = .ok p)
    (hq : contractSource? g = .ok q) {columns : String}
    (h : (select columns p).statement = (select columns q).statement) :
    f.wantedState = g.wantedState ∧ f.wantedKind = g.wantedKind ∧
      { f with state := none, kind := none } = { g with state := none, kind := none } := by
  obtain ⟨state, kind, hs, hk, rfl⟩ := contractSource_eq_ok hp
  obtain ⟨state', kind', hs', hk', rfl⟩ := contractSource_eq_ok hq
  simp only [contractConditions, List.append_assoc, select_where] at h
  have hread := Faithful.of_statement_eq h
    ((faithful_compare _ _ _ _).append <|
      (faithful_compare _ _ _ _).append <|
      (faithful_compare _ _ _ _).append <|
      (faithful_compare _ _ _ _).append <|
      (faithful_equalsIgnoringCase _ _ _).append <|
      (faithful_compare _ _ _ _).append <|
      (faithful_compare _ _ _ _).append <|
      (faithful_compare _ _ _ _).append <|
      faithful_compare _ _ _ _)
    (by decide +kernel) (by decide +kernel)
  obtain ⟨hcontractId, htwinId, hnodeId, hkind, hstate, hname, hnumberOfPublicIps, hdata, hhash⟩ := hread
  have hfits : ∀ slot ∈ ContractFilter.slots, SlotFits f slot ∧ SlotFits g slot :=
    fun slot h => ⟨hf slot h, hg slot h⟩
  simp only [ContractFilter.slots, List.forall_mem_cons, SlotFits, and_true, true_and, List.not_mem_nil,
    false_imp_iff, implies_true] at hfits
  obtain ⟨fContract, fTwin, fNode, fIps⟩ := hfits
  obtain rfl : state = state' := Option.map_injective contractState_label_injective hstate
  obtain rfl : kind = kind' := Option.map_injective contractKind_label_injective (word_inj hkind)
  refine ⟨hs.trans hs'.symm, hk.trans hk'.symm, ?_⟩
  simp only [ContractFilter.mk.injEq, true_and]
  exact ⟨number_inj fContract hcontractId, number_inj fTwin htwinId, number_inj fNode hnodeId, word_inj hname,
    number_inj fIps hnumberOfPublicIps, word_inj hdata, word_inj hhash⟩

/-! ### All filters -/

/-- Two filters whose statement is the same, text and values, are the same; contract filters may differ in how they
spell the state and the kind they agree on. -/
theorem filter_determined_by_statement :
    (∀ (columns : String) (resources : Resources) (now : UInt64) (f g : NodeFilter) (p q : Fragment),
      Fits NodeFilter.slots f → Fits NodeFilter.slots g →
      nodeSource? resources f now = .ok p → nodeSource? resources g now = .ok q →
      (select columns p).statement = (select columns q).statement → f = g) ∧
    (∀ (columns : String) (f g : FarmFilter), Fits FarmFilter.slots f → Fits FarmFilter.slots g →
      (select columns (farmSource f)).statement = (select columns (farmSource g)).statement → f = g) ∧
    (∀ (columns : String) (f g : TwinFilter), Fits TwinFilter.slots f → Fits TwinFilter.slots g →
      (select columns (twinSource f)).statement = (select columns (twinSource g)).statement → f = g) ∧
    (∀ (columns : String) (f g : ContractFilter) (p q : Fragment),
      Fits ContractFilter.slots f → Fits ContractFilter.slots g →
      contractSource? f = .ok p → contractSource? g = .ok q →
      (select columns p).statement = (select columns q).statement →
      f.wantedState = g.wantedState ∧ f.wantedKind = g.wantedKind ∧
        { f with state := none, kind := none } = { g with state := none, kind := none }) := by
  refine ⟨fun columns resources now f g p q hf hg hp hq h => ?_, fun columns f g hf hg h => ?_,
    fun columns f g hf hg h => ?_, fun columns f g p q hf hg hp hq h => ?_⟩
  · exact nodeFilter_of_statement hf hg hp hq h
  · exact farmFilter_of_statement hf hg h
  · exact twinFilter_of_statement hf hg h
  · exact contractFilter_of_statement hf hg hp hq h

/-- The rent contracts of a twin, in two spellings. -/
theorem spellings_of_rent_determined :
    ∃ p q : Fragment,
      contractSource? { twinId := some 7, kind := some "RENT", state := some "created" } = .ok p ∧
      contractSource? { twinId := some 7, kind := some "rent", state := some "Created" } = .ok q ∧
      (select contractColumns p).statement = (select contractColumns q).statement ∧
      ({ twinId := some 7, kind := some "RENT", state := some "created" } : ContractFilter).wantedKind =
        ({ twinId := some 7, kind := some "rent", state := some "Created" } : ContractFilter).wantedKind := by
  have hfits (kind state : String) :
      Fits ContractFilter.slots { twinId := some 7, kind := some kind, state := some state } := by
    simp [Fits, ContractFilter.slots, SlotFits, maxBigint]
  refine ⟨_, _, rfl, rfl, rfl, ?_⟩
  exact (filter_determined_by_statement.2.2.2 contractColumns _ _ _ _ (hfits "RENT" "created")
    (hfits "rent" "Created") rfl rfl rfl).2.1

end GridGateway.Sql
