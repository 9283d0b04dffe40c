import GridGateway.Proofs.Query.Slots
import GridGateway.Query.Filter
import GridGateway.Query.Limit

/-!
# Filters and limits read back from a query

A query that lists the pairs of a filter and then those of a limit is read twice, once as the filter and once as
the limit. Both readings find what was written: the keys of the two do not meet, and a limit is accepted exactly
when neither its page nor its size is zero (`Limit.check`).
-/

namespace GridGateway.Query

open Text (isUnreservedChar)

/-- Refuses a limit whose page or, failing that, whose size is zero. -/
def Limit.check (l : Limit) : Except QueryError Unit :=
  if l.page = 0 then .error (.zeroLimit "page") else if l.size = 0 then .error (.zeroLimit "size") else .ok ()

/-- The keys of a limit. -/
def Limit.keys : List String := ["page", "size", "ret_count", "randomize"]

namespace Limit

private theorem keys_plain : ∀ key ∈ keys, key.toList.all isUnreservedChar = true := by decide

/-- The keys of a limit's pairs. -/
theorem key_mem_of_mem_pairs {l : Limit} {pair : String × String} (h : pair ∈ l.pairs) : pair.1 ∈ keys := by
  simp only [pairs, List.mem_append, List.mem_cons, List.not_mem_nil, or_false] at h
  rcases h with ((rfl | rfl) | h) | h
  · exact List.mem_cons_self
  · exact List.mem_cons_of_mem _ List.mem_cons_self
  · split at h
    · rw [List.mem_singleton.mp h]; decide
    · cases h
  · split at h
    · rw [List.mem_singleton.mp h]; decide
    · cases h

/-- To a limit, keys of no pair of it are foreign. -/
private theorem assign_of_not_mem {key : String} (h : key ∉ keys) (l : Limit) (raw : String) :
    l.assign key raw = .ok none := by
  simp only [keys, List.mem_cons, List.not_mem_nil, or_false, not_or] at h
  rw [assign, if_neg h.1, if_neg h.2.1, if_neg h.2.2.1, if_neg h.2.2.2]

private theorem readPositive_decimal (key : String) (n : UInt64) :
    readPositive key (Text.decimal n.toNat) = if n = 0 then .error (.zeroLimit key) else .ok n := by
  rw [readPositive, readNumber_decimal]
  rfl

private theorem step_page (l : Limit) (n : UInt64) :
    Params.step l ("page", Text.decimal n.toNat) =
      if n = 0 then .error (.zeroLimit "page") else .ok { l with page := n } := by
  change ((readPositive "page" _).map _).map _ = _
  rw [readPositive_decimal]
  split <;> rfl

private theorem step_size (l : Limit) (n : UInt64) :
    Params.step l ("size", Text.decimal n.toNat) =
      if n = 0 then .error (.zeroLimit "size") else .ok { l with size := n } := by
  change ((readPositive "size" _).map _).map _ = _
  rw [readPositive_decimal]
  split <;> rfl

/-- The pairs of a limit, after foreign ones, lead back to the limit unless its page or size is zero. -/
theorem ofPairs_pairs {foreign : List (String × String)} (hforeign : ∀ pair ∈ foreign, pair.1 ∉ keys)
    (l : Limit) : Params.ofPairs (foreign ++ l.pairs) = l.check.map fun _ => l := by
  rw [Params.ofPairs, List.foldlM_append, Params.foldlM_step_of_foreign fun pair hp g =>
    assign_of_not_mem (hforeign pair hp) g pair.2]
  change l.pairs.foldlM Params.step ({} : Limit) = _
  obtain ⟨page, size, retCount, randomize⟩ := l
  rw [pairs, List.append_assoc, List.cons_append, List.foldlM_cons, step_page]
  by_cases hp : page = 0
  · simp only [check, hp, ↓reduceIte]
    rfl
  rw [if_neg hp]
  change List.foldlM Params.step _ (_ :: _) = _
  rw [List.foldlM_cons, step_size]
  by_cases hs : size = 0
  · simp only [check, hp, hs, ↓reduceIte]
    rfl
  rw [if_neg hs]
  simp only [check, hp, hs, ↓reduceIte]
  cases retCount <;> cases randomize <;> rfl

/-- Neither page nor size is zero. -/
def IsPositive (l : Limit) : Prop := 1 ≤ l.page ∧ 1 ≤ l.size

private theorem one_le_iff_ne_zero (n : UInt64) : 1 ≤ n ↔ n ≠ 0 := by
  rw [UInt64.le_iff_toNat_le, ne_eq, ← UInt64.toNat_inj]
  exact Nat.one_le_iff_ne_zero

theorem check_eq_ok_iff (l : Limit) : l.check = .ok () ↔ l.IsPositive := by
  rw [IsPositive, one_le_iff_ne_zero, one_le_iff_ne_zero, check]
  split
  · next h => simp [h]
  · split
    · next h => simp [h]
    · next hp hs => simp [hp, hs]

/-- A page or size that is taken in is the number of its text, and not zero. -/
theorem readPositive_eq_ok {key raw : String} {n : UInt64} (h : readPositive key raw = .ok n) :
    Text.uint64? raw = some n ∧ 1 ≤ n := by
  rw [readPositive, readNumber] at h
  cases hread : Text.uint64? raw with
  | none => rw [hread] at h; cases h
  | some m =>
    rw [hread] at h
    change (if m = 0 then _ else _) = _ at h
    split at h
    · cases h
    · next hm => cases h; exact ⟨rfl, (one_le_iff_ne_zero n).2 hm⟩

/-- A pair that is taken in keeps page and size positive. -/
private theorem isPositive_of_step {l l' : Limit} {pair : String × String} (hl : l.IsPositive)
    (h : Params.step l pair = .ok l') : l'.IsPositive := by
  obtain ⟨key, raw⟩ := pair
  change (assign l key raw).map _ = _ at h
  rw [assign] at h
  split at h
  · next hkey =>
    subst hkey
    cases hn : readPositive "page" raw with
    | error e => rw [hn] at h; cases h
    | ok n => rw [hn] at h; cases h; exact ⟨(readPositive_eq_ok hn).2, hl.2⟩
  split at h
  · next hkey =>
    subst hkey
    cases hn : readPositive "size" raw with
    | error e => rw [hn] at h; cases h
    | ok n => rw [hn] at h; cases h; exact ⟨hl.1, (readPositive_eq_ok hn).2⟩
  split at h
  · cases h; exact hl
  split at h <;> cases h <;> exact hl

/-- Every limit that is read from pairs has a positive page and size. -/
theorem isPositive_of_ofPairs {pairs : List (String × String)} {l : Limit} (h : Params.ofPairs pairs = .ok l) :
    l.IsPositive := by
  have hrun : ∀ start : Limit, start.IsPositive → pairs.foldlM Params.step start = .ok l → l.IsPositive := by
    clear h
    induction pairs with
    | nil => intro start hstart h; cases h; exact hstart
    | cons pair pairs ih =>
      intro start hstart h
      rw [List.foldlM_cons] at h
      cases hstep : Params.step start pair with
      | error e => rw [hstep] at h; cases h
      | ok next =>
        rw [hstep] at h
        exact ih next (isPositive_of_step hstart hstep) h
  exact hrun {} ⟨by decide, by decide⟩ h

end Limit

/-- The table of the node filter. -/
theorem NodeFilter.table : Slot.Table {} NodeFilter.slots where
  nodup := by decide
  plain := by decide
  copy_self := by simp [NodeFilter.slots, Slot.copy]
  unsetInTurn f := by simp only [NodeFilter.slots, Slot.UnsetInTurn, Slot.IsUnset, Slot.copy, and_self]
  foldl_copy f := by simp only [NodeFilter.slots, Slot.copy, List.foldl_cons, List.foldl_nil]

/-- The table of the farm filter. -/
theorem FarmFilter.table : Slot.Table {} FarmFilter.slots where
  nodup := by decide
  plain := by decide
  copy_self := by simp [FarmFilter.slots, Slot.copy]
  unsetInTurn f := by simp only [FarmFilter.slots, Slot.UnsetInTurn, Slot.IsUnset, Slot.copy, and_self]
  foldl_copy f := by simp only [FarmFilter.slots, Slot.copy, List.foldl_cons, List.foldl_nil]

/-- The table of the twin filter. -/
theorem TwinFilter.table : Slot.Table {} TwinFilter.slots where
  nodup := by decide
  plain := by decide
  copy_self := by simp [TwinFilter.slots, Slot.copy]
  unsetInTurn f := by simp only [TwinFilter.slots, Slot.UnsetInTurn, Slot.IsUnset, Slot.copy, and_self]
  foldl_copy f := by simp only [TwinFilter.slots, Slot.copy, List.foldl_cons, List.foldl_nil]

/-- The table of the contract filter. -/
theorem ContractFilter.table : Slot.Table {} ContractFilter.slots where
  nodup := by decide
  plain := by decide
  copy_self := by simp [ContractFilter.slots, Slot.copy]
  unsetInTurn f := by simp only [ContractFilter.slots, Slot.UnsetInTurn, Slot.IsUnset, Slot.copy, and_self]
  foldl_copy f := by simp only [ContractFilter.slots, Slot.copy, List.foldl_cons, List.foldl_nil]

/-- The table of the statistics filter. -/
theorem StatsFilter.table : Slot.Table {} StatsFilter.slots where
  nodup := by decide
  plain := by decide
  copy_self := by simp [StatsFilter.slots, Slot.copy]
  unsetInTurn f := by simp only [StatsFilter.slots, Slot.UnsetInTurn, Slot.IsUnset, and_self]
  foldl_copy f := by simp only [StatsFilter.slots, Slot.copy, List.foldl_cons, List.foldl_nil]

/-- The keys of a table and those of a limit do not meet. -/
abbrev Slot.ApartFromLimit {F : Type} (slots : List (Slot F)) : Prop := ∀ key ∈ slots.map (·.key), key ∉ Limit.keys

namespace Params

variable {F : Type} {unset : F} {slots : List (Slot F)}

/-- The query of a filter and a limit lists pairs whose keys need no escapes. -/
theorem plain_of_mem_pairs (ht : Slot.Table unset slots) (f : F) (l : Limit) :
    ∀ pair ∈ (ofSlots unset slots).pairs f ++ l.pairs, ∀ c ∈ pair.1.toList, isUnreservedChar c = true := by
  intro pair hpair
  rw [← List.all_eq_true]
  rcases List.mem_append.mp hpair with h | h
  · exact ht.plain _ (key_mem_of_mem_pairs h)
  · exact Limit.keys_plain _ (Limit.key_mem_of_mem_pairs h)

/-- The query of a filter and a limit is read as the filter. -/
theorem ofQuery_filter (ht : Slot.Table unset slots) (ha : Slot.ApartFromLimit slots) (f : F) (l : Limit) :
    @ofQuery F (ofSlots unset slots) (encodePairs ((ofSlots unset slots).pairs f ++ l.pairs)) = .ok f := by
  unfold ofQuery
  rw [decodePairs_encodePairs (plain_of_mem_pairs ht f l)]
  exact ofPairs_pairs ht f fun pair hp hkey => ha pair.1 hkey (Limit.key_mem_of_mem_pairs hp)

/-- The query of a filter alone lists its pairs. -/
private theorem decodePairs_toQuery (ht : Slot.Table unset slots) (f : F) :
    decodePairs (encodePairs ((ofSlots unset slots).pairs f)) = (ofSlots unset slots).pairs f :=
  decodePairs_encodePairs fun pair hp => plain_of_mem_pairs ht f {} pair (List.mem_append_left _ hp)

/-- The query of a filter alone is read as the filter. -/
theorem ofQuery_toQuery (ht : Slot.Table unset slots) (f : F) :
    @ofQuery F (ofSlots unset slots) (encodePairs ((ofSlots unset slots).pairs f)) = .ok f := by
  unfold ofQuery
  rw [decodePairs_toQuery ht]
  have hnone : ∀ pair ∈ ([] : List (String × String)), pair.1 ∉ slots.map (·.key) := fun _ h => (nomatch h)
  have hread := ofPairs_pairs ht f hnone
  rwa [List.append_nil] at hread

/-- The query of a filter and a limit is read as the limit, unless the limit is refused. -/
theorem ofQuery_limit (ht : Slot.Table unset slots) (ha : Slot.ApartFromLimit slots) (f : F) (l : Limit) :
    ofQuery (encodePairs ((ofSlots unset slots).pairs f ++ l.pairs)) = l.check.map fun _ => l := by
  rw [ofQuery, decodePairs_encodePairs (plain_of_mem_pairs ht f l)]
  exact Limit.ofPairs_pairs (fun pair hp => ha pair.1 (key_mem_of_mem_pairs hp)) l

/-- The query of a filter alone says nothing of a limit. -/
theorem ofQuery_unset_limit (ht : Slot.Table unset slots) (ha : Slot.ApartFromLimit slots) (f : F) :
    ofQuery (encodePairs ((ofSlots unset slots).pairs f)) = .ok ({} : Limit) := by
  have hforeign : ∀ pair ∈ (ofSlots unset slots).pairs f, ∀ l : Limit, Params.assign l pair.1 pair.2 = .ok none :=
    fun pair hp l => l.assign_of_not_mem (ha pair.1 (key_mem_of_mem_pairs hp)) pair.2
  rw [ofQuery, decodePairs_toQuery ht]
  exact foldlM_step_of_foreign hforeign _

/-- The query of a limit is read as the limit, unless the limit is refused. -/
private theorem ofQuery_toQuery_limit (l : Limit) : ofQuery (toQuery l) = l.check.map fun _ => l := by
  have hplain : ∀ pair ∈ l.pairs, ∀ c ∈ pair.1.toList, isUnreservedChar c = true := by
    intro pair hp
    rw [← List.all_eq_true]
    exact Limit.keys_plain _ (Limit.key_mem_of_mem_pairs hp)
  change ofPairs (decodePairs (encodePairs l.pairs)) = _
  rw [decodePairs_encodePairs hplain]
  have hnone : ∀ pair ∈ ([] : List (String × String)), pair.1 ∉ Limit.keys := fun _ h => (nomatch h)
  exact Limit.ofPairs_pairs hnone l

/-- The values of a filter type are read back from their queries. -/
structure ReadBack (F : Type) [Params F] : Prop where
  /-- A filter is read back from the query of its own pairs. -/
  alone : ∀ f : F, ofQuery (toQuery f) = .ok f
  /-- From the query of its pairs and those of a limit, both the filter and the limit are read back. -/
  withLimit : ∀ (f : F) (l : Limit), 1 ≤ l.page → 1 ≤ l.size →
    ofQuery (encodePairs (pairs f ++ pairs l)) = .ok f ∧ ofQuery (encodePairs (pairs f ++ pairs l)) = .ok l

private theorem readBack_ofSlots (ht : Slot.Table unset slots) (ha : Slot.ApartFromLimit slots) :
    @ReadBack F (ofSlots unset slots) := by
  refine @ReadBack.mk F (ofSlots unset slots) (ofQuery_toQuery ht) ?_
  · intro f l hp hs
    have hcheck : l.check = .ok () := l.check_eq_ok_iff.mpr ⟨hp, hs⟩
    have hlimit := ofQuery_limit ht ha f l
    rw [hcheck] at hlimit
    exact ⟨ofQuery_filter ht ha f l, hlimit⟩

end Params

/-- Every filter and every limit is read back from the query that a client sends for it, and no query is read as a
limit without pages or without rows. -/
theorem filters_and_limits_read_back :
    Params.ReadBack NodeFilter ∧ Params.ReadBack FarmFilter ∧ Params.ReadBack TwinFilter ∧
    Params.ReadBack ContractFilter ∧ Params.ReadBack StatsFilter ∧
    (∀ l : Limit, 1 ≤ l.page → 1 ≤ l.size → Params.ofQuery (Params.toQuery l) = .ok l) ∧
    (∀ (query : String) (l : Limit), Params.ofQuery query = .ok l → 1 ≤ l.page ∧ 1 ≤ l.size) := by
  refine ⟨Params.readBack_ofSlots NodeFilter.table (by decide),
    Params.readBack_ofSlots FarmFilter.table (by decide),
    Params.readBack_ofSlots TwinFilter.table (by decide),
    Params.readBack_ofSlots ContractFilter.table (by decide),
    Params.readBack_ofSlots StatsFilter.table (by decide), ?_, ?_⟩
  · intro l hp hs
    rw [Params.ofQuery_toQuery_limit, l.check_eq_ok_iff.mpr ⟨hp, hs⟩]
    rfl
  · intro query l h
    exact Limit.isPositive_of_ofPairs h

/-- A country with marks of a query in its name, with a page of ten rows. -/
theorem country_with_marks_read_back :
    (1 : UInt64) ≤ 2 ∧ (1 : UInt64) ≤ 10 ∧
    Params.ofQuery (encodePairs (Params.pairs ({ country := some "A&B=+ü%", farmIds := [1, 2] } : NodeFilter) ++
        Params.pairs ({ page := 2, size := 10 } : Limit))) =
      .ok ({ country := some "A&B=+ü%", farmIds := [1, 2] } : NodeFilter) :=
  ⟨by decide, by decide, (filters_and_limits_read_back.1.withLimit _ _ (by decide) (by decide)).1⟩

end GridGateway.Query
