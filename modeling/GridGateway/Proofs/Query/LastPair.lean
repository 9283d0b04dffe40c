import GridGateway.Proofs.Query.LimitPairs
import GridGateway.Proofs.Query.Meaning
import GridGateway.Proofs.Runs
import Mathlib.Data.List.Nodup
import Mathlib.Data.List.Pairwise

/-!
# The last pair of a key decides

The slots of a filter are fields apart from each other (`Slot.Fields`), and each text overwrites its slot.  So a list of
pairs without a fault is read as the filter whose slots hold what the last texts with their keys say
(`Slot.Fields.ofPairs_eq_ok_iff`), whatever other pairs stand between, and a list with a fault is refused for the first
pair that has one.  One pair changes at most the field of its key, and nothing at all if it is refused or has a foreign
key (`Params.ChangesAtMost`).  All of this is told by the fields of a filter, each under its key
(`Params.ReadsFields`).
-/

namespace GridGateway.Query

variable {F : Type}

/-! ### Slots as fields -/

namespace Slot

/-- What a text is read as for a slot; without a text the slot is absent. -/
def said (raw? : Option String) : Slot F → Content
  | number .. => .number (raw?.bind Text.uint64?)
  | text .. => .text raw?
  | flag .. => .flag (raw?.bind readFlag)
  | numbers key _ _ => .numbers ((raw?.bind fun raw => (readNumbers key raw).toOption).getD [])

/-- Without a text the field of a slot holds nothing. -/
private theorem isAbsent_content_iff {s : Slot F} {f : F} : (s.content f).IsAbsent ↔ s.content f = s.said none := by
  cases s <;> simp [content, said, Content.IsAbsent]

/-- A text without a fault is read as what it says. -/
private theorem says_content_iff {s : Slot F} {f : F} {raw : String} (h : s.fault? raw = none) :
    (s.content f).Says raw ↔ s.content f = s.said (some raw) := by
  cases s with
  | number key get put =>
    obtain ⟨n, hn⟩ := numberFault?_eq_none_iff.1 h
    simp [content, said, Content.Says, ← Text.uint64?_eq_some_iff, hn]
  | text key get put => simp [content, said, Content.Says]
  | flag key get put =>
    rw [content, said, Content.Says, ← readFlag_eq_iff, eq_comm]
    simp
  | numbers key get put =>
    obtain ⟨ns, hns⟩ : ∃ ns, readNumbers key raw = .ok ns := by
      have hrefusal : refusal? (readNumbers key raw) = none := (refusal?_readNumbers key raw).trans h
      cases hread : readNumbers key raw with
      | error e => rw [hread] at hrefusal; cases hrefusal
      | ok ns => exact ⟨ns, rfl⟩
    have hread : readNumbers key raw = .ok (get f) ↔ Content.Says raw (.numbers (get f)) := readNumbers_eq_ok_iff
    refine hread.symm.trans ?_
    simp [content, said, hns, Except.toOption, eq_comm]

/-- A slot holds what it was filled with. -/
def Fills : Slot F → Prop
  | number _ get put => ∀ f v, get (put f v) = v
  | text _ get put => ∀ f v, get (put f v) = v
  | flag _ get put => ∀ f v, get (put f v) = v
  | numbers _ get put => ∀ f v, get (put f v) = v

/-- The slots of a table are fields apart from each other, all of them absent from the unset filter. -/
structure Fields (unset : F) (slots : List (Slot F)) : Prop where
  absent : ∀ s ∈ slots, s.content unset = s.said none
  fills : ∀ s ∈ slots, s.Fills
  apart : slots.Pairwise fun s t => s.Spares (t.content ·) ∧ t.Spares (s.content ·)

private theorem content_of_assign {s : Slot F} (h : s.Fills) {f g : F} {raw : String} (hg : s.assign f raw = .ok g) :
    s.content g = s.said (some raw) := by
  cases s with
  | number key get put =>
    rw [assign, readNumber] at hg
    cases hn : Text.uint64? raw with
    | none => rw [hn] at hg; cases hg
    | some n =>
      rw [hn] at hg
      cases hg
      rw [content, said, h f _, Option.bind_some, hn]
  | text key get put =>
    cases hg
    rw [content, said, h f _]
  | flag key get put =>
    cases hg
    rw [content, said, h f _, Option.bind_some]
  | numbers key get put =>
    rw [assign] at hg
    cases hns : readNumbers key raw with
    | error e => rw [hns] at hg; cases hg
    | ok ns =>
      rw [hns] at hg
      cases hg
      rw [content, said, h f _, Option.bind_some, hns]
      rfl

/-- Filters with the same content in every slot of a table are the same. -/
private theorem Table.eq_of_content {unset : F} {slots : List (Slot F)} (ht : Table unset slots) {f g : F}
    (h : ∀ s ∈ slots, s.content f = s.content g) : f = g := by
  have hcopy (base : F) (s : Slot F) (hs : s ∈ slots) : s.copy f base = s.copy g base := by
    have hsame := h s hs
    cases s with
    | number => rw [copy, copy, Content.number.inj hsame]
    | text => rw [copy, copy, Content.text.inj hsame]
    | flag => rw [copy, copy, Content.flag.inj hsame]
    | numbers => rw [copy, copy, Content.numbers.inj hsame]
  calc f = slots.foldl (fun base s => s.copy f base) unset := (ht.foldl_copy f).symm
    _ = slots.foldl (fun base s => s.copy g base) unset := List.foldl_ext _ _ _ hcopy
    _ = g := ht.foldl_copy g

variable {unset : F} {slots : List (Slot F)}

/-- The slots of a table are fields, which texts overwrite. -/
theorem Fields.field (hn : (slots.map (·.key)).Nodup) (h : Fields unset slots) {s : Slot F} (hs : s ∈ slots) :
    @Params.Field F Content (.ofSlots unset slots) s.key (s.content ·) fun raw _ => s.said (some raw) := by
  let _ : Params F := .ofSlots unset slots
  constructor
  case own =>
    intro f g raw hg
    rcases step_ofSlots_cases hg with ⟨hforeign, -⟩ | ⟨t, ht, hkey, hassign⟩
    · exact absurd (List.mem_map_of_mem hs) hforeign
    · obtain rfl : t = s := List.inj_on_of_nodup_map hn ht hs hkey
      exact content_of_assign (h.fills t ht) hassign
  case kept =>
    intro f g pair hne hg
    rcases step_ofSlots_cases hg with ⟨-, rfl⟩ | ⟨t, ht, hkey, hassign⟩
    · rfl
    · have hts : t ≠ s := fun e => hne (e ▸ hkey.symm)
      have hsym : Std.Symm fun s t : Slot F => s.Spares (t.content ·) ∧ t.Spares (s.content ·) := ⟨fun _ _ h => h.symm⟩
      exact (h.apart.forall ht hs hts).1.of_assign hassign

/-- Pairs without a fault are read as the filter whose slots hold what the last texts with their keys say. -/
theorem Fields.ofPairs_eq_ok_iff (ht : Table unset slots) (h : Fields unset slots) (ps : List (String × String))
    (f : F) :
    @Params.ofPairs F (.ofSlots unset slots) ps = .ok f ↔
      (∀ pair ∈ ps, faultIn? slots pair = none) ∧ ∀ s ∈ slots, s.content f = s.said (lastText? s.key ps) := by
  let _ : Params F := .ofSlots unset slots
  have hread : (∃ g : F, Params.ofPairs ps = .ok g) ↔ ∀ pair ∈ ps, faultIn? slots pair = none :=
    (judges_ofSlots unset slots).exists_ofPairs_iff
  have hsaid {g : F} (hg : Params.ofPairs ps = .ok g) (s : Slot F) (hs : s ∈ slots) :
      s.content g = s.said (lastText? s.key ps) := by
    refine ((h.field ht.nodup hs).eq_last hg).trans ?_
    cases lastText? s.key ps with
    | none => exact h.absent s hs
    | some raw => rfl
  constructor
  · exact fun hf => ⟨hread.1 ⟨f, hf⟩, hsaid hf⟩
  · rintro ⟨hfault, hf⟩
    obtain ⟨g, hg⟩ := hread.2 hfault
    rw [hg, ht.eq_of_content fun s hs => (hsaid hg s hs).trans (hf s hs).symm]

end Slot

/-- Limits that are the same in all fields but the one of a key. -/
structure Limit.SameBeside (key : String) (l l' : Limit) : Prop where
  page : key ≠ "page" → l'.page = l.page
  size : key ≠ "size" → l'.size = l.size
  retCount : key ≠ "ret_count" → l'.retCount = l.retCount
  randomize : key ≠ "randomize" → l'.randomize = l.randomize

/-! ### Pairs entered one after the other -/

namespace Params

section

variable [Params F]

/-- Enters pairs one after the other into the value at hand, until one is refused. -/
def enterAll (ps : List (String × String)) : ExceptT QueryError (StateM F) Unit :=
  ps.forM fun pair => do
    let _ ← enter pair.1 pair.2

/-- What entering a pair comes to: it is refused, or its key is foreign, or it is taken in. -/
private theorem enter_cases (f : F) (pair : String × String) :
    (∃ e, step f pair = .error e ∧ (enter pair.1 pair.2).run f = (.error e, f)) ∨
    (step f pair = .ok f ∧ (enter pair.1 pair.2).run f = (.ok false, f)) ∨
    (∃ g, step f pair = .ok g ∧ (enter pair.1 pair.2).run f = (.ok true, g)) := by
  have hget : (get : ExceptT QueryError (StateM F) F).run f = (.ok f, f) := rfl
  rw [show (enter pair.1 pair.2).run f = _ from run_bind_of_ok hget, step]
  cases assign f pair.1 pair.2 with
  | error e => exact .inl ⟨e, rfl, rfl⟩
  | ok next =>
    cases next with
    | none => exact .inr (.inl ⟨rfl, rfl⟩)
    | some g => exact .inr (.inr ⟨g, rfl, rfl⟩)

/-- Pairs that are read are entered one after the other. -/
private theorem foldlM_step_eq_enterAll (ps : List (String × String)) (f : F) :
    ps.foldlM step f = ((enterAll ps).run f).1.map fun _ => ((enterAll ps).run f).2 := by
  induction ps generalizing f with
  | nil => rfl
  | cons pair ps ih =>
    have hcons : (enterAll (pair :: ps) : ExceptT QueryError (StateM F) Unit) =
        (do let _ ← enter pair.1 pair.2; enterAll ps) := by
      simp only [enterAll, List.forM_eq_forM, List.forM_cons, bind_assoc, pure_bind]
    rw [List.foldlM_cons, hcons]
    rcases enter_cases f pair with ⟨e, hstep, hrun⟩ | ⟨hstep, hrun⟩ | ⟨g, hstep, hrun⟩
    · rw [hstep, run_bind_of_error hrun]; rfl
    · rw [hstep, run_bind_of_ok hrun]; exact ih f
    · rw [hstep, run_bind_of_ok hrun]; exact ih g

/-- Entering a pair changes nothing unless the pair is taken in, and then nothing that is the same beside its key. -/
def ChangesAtMost (sameBeside : String → F → F → Prop) : Prop :=
  ∀ (f g : F) (key raw : String) (r : Except QueryError Bool), (enter key raw).run f = (r, g) →
    (r ≠ .ok true → g = f) ∧ sameBeside key f g

private theorem changesAtMost_of_step {sameBeside : String → F → F → Prop} (hrefl : ∀ key f, sameBeside key f f)
    (hstep : ∀ f g pair, step f pair = .ok g → sameBeside pair.1 f g) : ChangesAtMost sameBeside := by
  intro f g key raw r hrun
  rcases enter_cases f (key, raw) with ⟨e, -, h⟩ | ⟨-, h⟩ | ⟨next, htaken, h⟩
  · cases hrun.symm.trans h
    exact ⟨fun _ => rfl, hrefl key f⟩
  · cases hrun.symm.trans h
    exact ⟨fun _ => rfl, hrefl key f⟩
  · cases hrun.symm.trans h
    exact ⟨fun hr => absurd rfl hr, hstep f _ _ htaken⟩

variable (fields : F → List (String × Content))

/-- A pair is refused because of a part of its text, with an error that names its key and this part. -/
def Refused (pair : String × String) (e : QueryError) : Prop :=
  ∃ content part, (pair.1, content) ∈ fields unset ∧ content.Refuses pair.2 part ∧ e = .invalidInteger pair.1 part

/-- Values that hold the same in all fields but the one of a key. -/
def SameBeside (key : String) (f g : F) : Prop :=
  (fields g).filter (·.1 ≠ key) = (fields f).filter (·.1 ≠ key)

/-- How values with the given fields, each under its key, are read from pairs. -/
structure ReadsFields : Prop where
  /-- Pairs are entered one after the other into the unset value. -/
  inTurn : ∀ ps, (ofPairs ps : Except QueryError F) =
    ((enterAll ps).run (unset : F)).1.map fun _ => ((enterAll ps).run (unset : F)).2
  /-- They fail with the error of the first one that is refused. -/
  refused : ∀ ps e, (ofPairs ps : Except QueryError F) = .error e ↔
    ∃ before pair after, ps = before ++ pair :: after ∧ (∀ earlier ∈ before, ∀ e', ¬ Refused fields earlier e') ∧
      Refused fields pair e
  /-- If none is refused, each field holds what the last text with its key says, and nothing if there is none. -/
  decided : ∀ ps (f : F), ofPairs ps = .ok f ↔
    (∀ pair ∈ ps, ∀ e, ¬ Refused fields pair e) ∧
      ∀ field ∈ fields f, match lastText? field.1 ps with
        | none => field.2.IsAbsent
        | some raw => field.2.Says raw
  /-- Nothing but the texts of each key and their order counts. -/
  told : ∀ ps qs (f : F), ofPairs ps = .ok f →
    (∀ field ∈ fields f, textsOf field.1 qs = textsOf field.1 ps) → ofPairs qs = .ok f
  /-- One pair changes at most the field of its key. -/
  entered : ChangesAtMost (SameBeside fields)

end

end Params

variable {unset : F} {slots : List (Slot F)}

/-- The fields of a filter are the contents of its slots, under their keys. -/
def Slot.fieldsOf (slots : List (Slot F)) (f : F) : List (String × Content) := slots.map fun s => (s.key, s.content f)

/-- A pair has a fault if it is refused. -/
private theorem Slot.faultIn?_eq_some_iff (hn : (slots.map (·.key)).Nodup) {pair : String × String} {e : QueryError} :
    faultIn? slots pair = some e ↔ @Params.Refused F (.ofSlots unset slots) (fieldsOf slots) pair e := by
  obtain ⟨key, raw⟩ := pair
  constructor
  · intro h
    obtain ⟨s, hfind, hfault⟩ := Option.bind_eq_some_iff.1 h
    obtain ⟨hs, rfl⟩ := of_find? hfind
    obtain ⟨part, hpart, he⟩ := (fault?_eq_some_iff unset).1 hfault
    exact ⟨s.content unset, part, List.mem_map.2 ⟨s, hs, rfl⟩, hpart, he⟩
  · rintro ⟨content, part, hmem, hpart, he⟩
    obtain ⟨s, hs, heq⟩ := List.mem_map.1 hmem
    obtain rfl : s.key = key := congrArg Prod.fst heq
    obtain rfl : s.content unset = content := congrArg Prod.snd heq
    change (slots.find? (·.key = s.key)).bind (·.fault? raw) = some e
    rw [find?_key_of_mem hn hs]
    exact (fault?_eq_some_iff unset).2 ⟨part, hpart, he⟩

private theorem Slot.faultIn?_eq_none_iff (hn : (slots.map (·.key)).Nodup) {pair : String × String} :
    faultIn? slots pair = none ↔ ∀ e, ¬ @Params.Refused F (.ofSlots unset slots) (fieldsOf slots) pair e := by
  rw [Option.eq_none_iff_forall_ne_some]
  exact forall_congr' fun e => not_congr (faultIn?_eq_some_iff hn)

/-- The fault of a pair is told by the texts of its key. -/
private theorem Slot.faultIn?_eq_none_of_told {ps qs : List (String × String)}
    (h : ∀ s ∈ slots, textsOf s.key qs = textsOf s.key ps) (hps : ∀ pair ∈ ps, faultIn? slots pair = none) :
    ∀ pair ∈ qs, faultIn? slots pair = none := by
  intro pair hpair
  cases hfind : slots.find? (·.key = pair.1) with
  | none => rw [faultIn?, hfind]; rfl
  | some s =>
    obtain ⟨hs, hkey⟩ := of_find? hfind
    have htext : pair.2 ∈ textsOf s.key qs := mem_textsOf.2 (hkey ▸ hpair)
    have hmem : pair ∈ ps := by
      rw [h s hs, mem_textsOf, hkey] at htext
      exact htext
    exact hps pair hmem

/-- The last text with the key of a slot has no fault if no pair has one. -/
private theorem Slot.fault?_lastText? (hn : (slots.map (·.key)).Nodup) {ps : List (String × String)} {s : Slot F}
    {raw : String}
    (hs : s ∈ slots) (hraw : lastText? s.key ps = some raw) (h : ∀ pair ∈ ps, faultIn? slots pair = none) :
    s.fault? raw = none := by
  rw [lastText?_eq_getLast?] at hraw
  have hpair : (s.key, raw) ∈ ps := mem_textsOf.1 (List.mem_of_getLast? hraw)
  have hnone := h _ hpair
  rwa [faultIn?, find?_key_of_mem hn hs] at hnone

private theorem Slot.Fields.readsFields (ht : Table unset slots) (h : Fields unset slots) :
    @Params.ReadsFields F (.ofSlots unset slots) (fieldsOf slots) := by
  let _ : Params F := .ofSlots unset slots
  have hok := h.ofPairs_eq_ok_iff ht
  have hsome {pair : String × String} {e : QueryError} :
      faultIn? slots pair = some e ↔ Params.Refused (fieldsOf slots) pair e := faultIn?_eq_some_iff ht.nodup
  have hnone {pair : String × String} :
      faultIn? slots pair = none ↔ ∀ e, ¬ Params.Refused (fieldsOf slots) pair e := faultIn?_eq_none_iff ht.nodup
  refine
    { inTurn := fun ps => Params.foldlM_step_eq_enterAll ps _
      refused := fun ps e => ?refused
      decided := fun ps f => ?decided
      told := fun ps qs f hf htold => ?told
      entered := ?entered }
  case refused =>
    rw [← refusal?_eq_some_iff, (judges_ofSlots unset slots).refusal?_ofPairs, List.findSome?_eq_some_iff]
    simp only [hnone, hsome]
    exact exists₃_congr fun _ _ _ => and_congr_right' and_comm
  case decided =>
    rw [hok]
    simp only [← hnone, fieldsOf, List.forall_mem_map]
    refine and_congr_right fun hfault => forall₂_congr fun s hs => ?_
    cases hraw : lastText? s.key ps with
    | none => exact isAbsent_content_iff.symm
    | some raw => exact (says_content_iff (fault?_lastText? ht.nodup hs hraw hfault)).symm
  case told =>
    have htold' : ∀ s ∈ slots, textsOf s.key qs = textsOf s.key ps :=
      fun s hs => htold (s.key, s.content f) (List.mem_map.2 ⟨s, hs, rfl⟩)
    obtain ⟨hfault, hcontent⟩ := (hok ps f).1 hf
    refine (hok qs f).2 ⟨faultIn?_eq_none_of_told htold' hfault, fun s hs => ?_⟩
    rw [hcontent s hs, lastText?_eq_getLast?, lastText?_eq_getLast?, htold' s hs]
  case entered =>
    refine Params.changesAtMost_of_step (fun _ _ => rfl) fun f g pair hg => ?_
    rw [Params.SameBeside, fieldsOf, fieldsOf, List.filter_map, List.filter_map]
    refine List.map_congr_left fun s hs => ?_
    obtain ⟨hs, hne⟩ := List.mem_filter.1 hs
    have hkey : pair.1 ≠ s.key := fun heq => by simp [heq] at hne
    rw [(h.field ht.nodup hs).kept f g pair hkey hg]

theorem NodeFilter.fields : Slot.Fields {} NodeFilter.slots where
  absent := by simp [slots, Slot.content, Slot.said]
  fills := by simp [slots, Slot.Fills]
  apart := by
    simp only [slots, Slot.Spares, Slot.content, List.pairwise_cons, List.forall_mem_cons, List.not_mem_nil,
      false_imp_iff, implies_true, and_self, List.Pairwise.nil]

theorem FarmFilter.fields : Slot.Fields {} FarmFilter.slots where
  absent := by simp [slots, Slot.content, Slot.said]
  fills := by simp [slots, Slot.Fills]
  apart := by simp [slots, Slot.Spares, Slot.content]

theorem TwinFilter.fields : Slot.Fields {} TwinFilter.slots where
  absent := by simp [slots, Slot.content, Slot.said]
  fills := by simp [slots, Slot.Fills]
  apart := by simp [slots, Slot.Spares, Slot.content]

theorem ContractFilter.fields : Slot.Fields {} ContractFilter.slots where
  absent := by simp [slots, Slot.content, Slot.said]
  fills := by simp [slots, Slot.Fills]
  apart := by simp [slots, Slot.Spares, Slot.content]

theorem StatsFilter.fields : Slot.Fields {} StatsFilter.slots where
  absent := by simp [slots, Slot.content, Slot.said]
  fills := by simp [slots, Slot.Fills]
  apart := by simp [slots, Slot.Spares, Slot.content]

private theorem Limit.changesAtMost : Params.ChangesAtMost Limit.SameBeside := by
  refine Params.changesAtMost_of_step (fun _ _ => ⟨fun _ => rfl, fun _ => rfl, fun _ => rfl, fun _ => rfl⟩) ?_
  intro l l' pair h
  exact ⟨fun hne => page_field.kept l l' pair hne h, fun hne => size_field.kept l l' pair hne h,
    fun hne => retCount_field.kept l l' pair hne h, fun hne => randomize_field.kept l l' pair hne h⟩

/-- The fields of a node filter, each under the key of its query parameter. -/
def NodeFilter.fieldsByKey (f : NodeFilter) : List (String × Content) :=
  [("status", .text f.status), ("free_mru", .number f.freeMru), ("free_hru", .number f.freeHru),
    ("free_sru", .number f.freeSru), ("total_mru", .number f.totalMru), ("total_hru", .number f.totalHru),
    ("total_sru", .number f.totalSru), ("total_cru", .number f.totalCru), ("country", .text f.country),
    ("country_contains", .text f.countryContains), ("city", .text f.city), ("city_contains", .text f.cityContains),
    ("farm_name", .text f.farmName), ("farm_name_contains", .text f.farmNameContains),
    ("farm_ids", .numbers f.farmIds), ("free_ips", .number f.freeIps), ("ipv4", .flag f.ipv4), ("ipv6", .flag f.ipv6),
    ("domain", .flag f.domain), ("dedicated", .flag f.dedicated), ("rentable", .flag f.rentable),
    ("rented", .flag f.rented), ("rented_by", .number f.rentedBy), ("available_for", .number f.availableFor),
    ("node_id", .number f.nodeId), ("twin_id", .number f.twinId), ("certification_type", .text f.certificationType)]

/-- The fields of a farm filter, each under the key of its query parameter. -/
def FarmFilter.fieldsByKey (f : FarmFilter) : List (String × Content) :=
  [("free_ips", .number f.freeIps), ("total_ips", .number f.totalIps), ("stellar_address", .text f.stellarAddress),
    ("pricing_policy_id", .number f.pricingPolicyId), ("farm_id", .number f.farmId), ("twin_id", .number f.twinId),
    ("name", .text f.name), ("name_contains", .text f.nameContains),
    ("certification_type", .text f.certificationType), ("dedicated", .flag f.dedicated)]

/-- The fields of a twin filter, each under the key of its query parameter. -/
def TwinFilter.fieldsByKey (f : TwinFilter) : List (String × Content) :=
  [("twin_id", .number f.twinId), ("account_id", .text f.accountId), ("relay", .text f.relay),
    ("public_key", .text f.publicKey)]

/-- The fields of a contract filter, each under the key of its query parameter. -/
def ContractFilter.fieldsByKey (f : ContractFilter) : List (String × Content) :=
  [("contract_id", .number f.contractId), ("twin_id", .number f.twinId), ("node_id", .number f.nodeId),
    ("type", .text f.kind), ("state", .text f.state), ("name", .text f.name),
    ("number_of_public_ips", .number f.numberOfPublicIps), ("deployment_data", .text f.deploymentData),
    ("deployment_hash", .text f.deploymentHash)]

/-- The field of a filter of the statistics, under the key of its query parameter. -/
def StatsFilter.fieldsByKey (f : StatsFilter) : List (String × Content) :=
  [("status", .text f.status)]

/-- Each field of a filter is decided by the last pair with its key, and pairs are refused for the first one whose text
does not fit its field.  One pair changes at most the field of its key, of a filter as of a limit. -/
theorem last_pair_decides :
    Params.ReadsFields NodeFilter.fieldsByKey ∧ Params.ReadsFields FarmFilter.fieldsByKey ∧
    Params.ReadsFields TwinFilter.fieldsByKey ∧ Params.ReadsFields ContractFilter.fieldsByKey ∧
    Params.ReadsFields StatsFilter.fieldsByKey ∧ Params.ChangesAtMost Limit.SameBeside :=
  ⟨NodeFilter.fields.readsFields NodeFilter.table, FarmFilter.fields.readsFields FarmFilter.table,
    TwinFilter.fields.readsFields TwinFilter.table, ContractFilter.fields.readsFields ContractFilter.table,
    StatsFilter.fields.readsFields StatsFilter.table, Limit.changesAtMost⟩

/-- A foreign pair and another order of the keys change nothing.  The last word for `dedicated` sets the flag or, if it
is neither `true` nor `false`, unsets it; the last list of farms replaces the ones before, and is refused for its first
item that is no number. -/
theorem farm_pairs_in_any_order :
    Params.ofPairs [("twin_id", "1"), ("dedicated", "maybe"), ("twin_id", "+02"), ("dedicated", "true")] =
      .ok ({ twinId := some 2, dedicated := some true } : FarmFilter) ∧
    Params.ofPairs [("dedicated", "maybe"), ("size", "none"), ("dedicated", "true"), ("twin_id", "1"),
      ("twin_id", "+02")] = .ok ({ twinId := some 2, dedicated := some true } : FarmFilter) ∧
    Params.ofPairs [("dedicated", "true"), ("dedicated", "false")] =
      .ok ({ dedicated := some false } : FarmFilter) ∧
    Params.ofPairs [("dedicated", "true"), ("dedicated", "maybe")] = .ok ({} : FarmFilter) ∧
    Params.ofPairs [("farm_ids", "7"), ("city", "Gent"), ("farm_ids", " 3,+05 ,3")] =
      .ok ({ city := some "Gent", farmIds := [3, 5, 3] } : NodeFilter) ∧
    Params.ofPairs [("farm_ids", "7"), ("farm_ids", "")] = .ok ({} : NodeFilter) ∧
    (Params.ofPairs [("farm_ids", "7"), ("farm_ids", "3, 4x ,y"), ("rented_by", "z")] : Except _ NodeFilter) =
      .error (.invalidInteger "farm_ids" "4x") := by
  have h : Params.ofPairs [("twin_id", "1"), ("dedicated", "maybe"), ("twin_id", "+02"), ("dedicated", "true")] =
      .ok ({ twinId := some 2, dedicated := some true } : FarmFilter) := by decide
  refine ⟨h, last_pair_decides.2.1.told _ _ _ h (by decide), ?_⟩
  decide +kernel

end GridGateway.Query
