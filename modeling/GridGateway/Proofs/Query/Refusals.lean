import GridGateway.Proofs.Query.Fields
import GridGateway.Proofs.Query.RoundTrip

/-!
# Refused queries

Whether a pair of a query is refused depends on the pair alone, so a query is refused for the first of its pairs that
has a fault (`Judges.refusal?_ofQuery`): a number that is none, or a page or size of zero.  Closed vocabularies are
checked once a filter has been read, and then a field holds the text of the last pair with its key
(`TextField.eq_lastText?`), so the word that may be refused is that one (`TextField.refusal?_choice`).
-/

namespace GridGateway.Query

/-! ### Refusals -/

/-- What a result is refused for, if it is. -/
def refusal? {ε α : Type} : Except ε α → Option ε
  | .error e => some e
  | .ok _ => none

section

variable {ε α γ : Type} {r : Except ε α}

theorem refusal?_eq_some_iff {e : ε} : refusal? r = some e ↔ r = .error e := by
  cases r <;> simp [refusal?]

@[simp]
theorem refusal?_map (f : α → γ) : refusal? (r.map f) = refusal? r := by
  cases r <;> rfl

/-- Of several elements the first one that is refused counts. -/
theorem refusal?_mapM (read : α → Except ε γ) (as : List α) :
    refusal? (as.mapM read) = as.findSome? fun a => refusal? (read a) := by
  induction as with
  | nil => rfl
  | cons a as ih =>
    rw [List.mapM_cons, List.findSome?_cons]
    cases read a with
    | error e => rfl
    | ok c =>
      refine Eq.trans ?_ ih
      cases as.mapM read <;> rfl

/-- Of several elements that are taken in one by one, the first one with a fault counts. -/
private theorem refusal?_foldlM {take : γ → α → Except ε γ} {fault? : α → Option ε}
    (h : ∀ c a, refusal? (take c a) = fault? a) (c : γ) (as : List α) :
    refusal? (as.foldlM take c) = as.findSome? fault? := by
  induction as generalizing c with
  | nil => rfl
  | cons a as ih =>
    rw [List.foldlM_cons, List.findSome?_cons, ← h c a]
    cases take c a with
    | error e => rfl
    | ok c' => exact ih c'

end

/-! ### Faults of pairs -/

/-- What is wrong with the text of a number. -/
def numberFault? (key raw : String) : Option QueryError :=
  if (Text.uint64? raw).isSome then none else some (.invalidInteger key raw)

/-- What is wrong with the text of a list of numbers: its first item that is none. -/
def numbersFault? (key raw : String) : Option QueryError :=
  if raw.isEmpty then none
  else (splitAll ',' raw.toList).findSome? fun item => numberFault? key (String.ofList (Text.trimBlanks item))

private theorem refusal?_readNumber (key raw : String) : refusal? (readNumber key raw) = numberFault? key raw := by
  rw [readNumber, numberFault?]
  cases Text.uint64? raw <;> rfl

theorem refusal?_readNumbers (key raw : String) : refusal? (readNumbers key raw) = numbersFault? key raw := by
  rw [readNumbers, numbersFault?]
  split
  · rfl
  · rw [refusal?_mapM]
    exact congrArg (List.findSome? · _) (funext fun item => refusal?_readNumber key _)

variable {F : Type}

/-- What is wrong with the text for a slot. -/
def Slot.fault? (raw : String) : Slot F → Option QueryError
  | number key _ _ => numberFault? key raw
  | numbers key _ _ => numbersFault? key raw
  | text .. | flag .. => none

private theorem Slot.refusal?_assign (s : Slot F) (f : F) (raw : String) :
    refusal? (s.assign f raw) = s.fault? raw := by
  cases s with
  | number key get put => exact (refusal?_map _).trans (refusal?_readNumber key raw)
  | numbers key get put => exact (refusal?_map _).trans (refusal?_readNumbers key raw)
  | text key get put => rfl
  | flag key get put => rfl

/-- What is wrong with a pair for a table of slots. -/
def Slot.faultIn? (slots : List (Slot F)) (pair : String × String) : Option QueryError :=
  (slots.find? (·.key = pair.1)).bind (·.fault? pair.2)

/-- What is wrong with a pair for a limit. -/
def Limit.fault? (pair : String × String) : Option QueryError :=
  if pair.1 = "page" ∨ pair.1 = "size" then
    if Text.uint64? pair.2 = some 0 then some (.zeroLimit pair.1) else numberFault? pair.1 pair.2
  else none

/-- The fault of a pair is what it is refused for, whatever has been read before it. -/
def Judges (fault? : String × String → Option QueryError) (F : Type) [Params F] : Prop :=
  ∀ (f : F) (pair : String × String), refusal? (Params.step f pair) = fault? pair

/-- Pairs are refused for the first of them that has a fault. -/
theorem Judges.refusal?_ofPairs [Params F] {fault? : String × String → Option QueryError} (h : Judges fault? F)
    (ps : List (String × String)) : refusal? (Params.ofPairs ps : Except QueryError F) = ps.findSome? fault? :=
  refusal?_foldlM h _ _

/-- Pairs without a fault are read. -/
theorem Judges.exists_ofPairs_iff [Params F] {fault? : String × String → Option QueryError} (h : Judges fault? F)
    {ps : List (String × String)} : (∃ f : F, Params.ofPairs ps = .ok f) ↔ ∀ pair ∈ ps, fault? pair = none := by
  rw [← List.findSome?_eq_none_iff, ← h.refusal?_ofPairs ps]
  cases (Params.ofPairs ps : Except QueryError F) <;> simp [refusal?]

/-- A query is refused for the first pair of it that has a fault. -/
theorem Judges.refusal?_ofQuery [Params F] {fault? : String × String → Option QueryError} (h : Judges fault? F)
    (query : String) :
    refusal? (Params.ofQuery query : Except QueryError F) = (decodePairs query).findSome? fault? :=
  h.refusal?_ofPairs (decodePairs query)

theorem step_ofSlots (unset : F) (slots : List (Slot F)) (f : F) (pair : String × String) :
    @Params.step F (.ofSlots unset slots) f pair =
      Except.map (·.getD f) (match slots.find? (·.key = pair.1) with
        | some slot => (slot.assign f pair.2).map some
        | none => .ok none) := rfl

theorem judges_ofSlots (unset : F) (slots : List (Slot F)) :
    @Judges (Slot.faultIn? slots) F (.ofSlots unset slots) := by
  intro f pair
  rw [step_ofSlots, refusal?_map, Slot.faultIn?]
  cases slots.find? (·.key = pair.1) with
  | none => rfl
  | some s => exact (refusal?_map _).trans (s.refusal?_assign f pair.2)

private theorem refusal?_readPositive (key raw : String) :
    refusal? (Limit.readPositive key raw) =
      if Text.uint64? raw = some 0 then some (.zeroLimit key) else numberFault? key raw := by
  rw [Limit.readPositive, readNumber, numberFault?]
  cases Text.uint64? raw with
  | none => rfl
  | some n =>
    change refusal? (if n = 0 then _ else _) = _
    by_cases hn : n = 0 <;> simp [hn, refusal?] <;> rfl

theorem judges_limit : Judges Limit.fault? Limit := by
  rintro l ⟨key, raw⟩
  change refusal? (Except.map _ (l.assign key raw)) = _
  rw [refusal?_map, Limit.assign, Limit.fault?]
  by_cases hpage : key = "page"
  · rw [if_pos hpage, if_pos (.inl hpage), refusal?_map, refusal?_readPositive, hpage]
  by_cases hsize : key = "size"
  · rw [if_neg hpage, if_pos hsize, if_pos (.inr hsize), refusal?_map, refusal?_readPositive, hsize]
  rw [if_neg hpage, if_neg hsize, if_neg (not_or_intro hpage hsize)]
  split
  · rfl
  · split <;> rfl

/-! ### Words -/

/-- A field that pairs with its key fill with their texts, and that no other pairs touch. -/
structure TextField [Params F] (key : String) (get : F → Option String) : Prop where
  unset : get Params.unset = none
  filled : ∀ f g raw, Params.step f (key, raw) = .ok g → get g = some raw
  kept : ∀ f g pair, pair.1 ≠ key → Params.step f pair = .ok g → get g = get f

theorem TextField.eq_lastText? [Params F] {key : String} {get : F → Option String} (h : TextField key get)
    {query : String} {f : F} (hf : Params.ofQuery query = .ok f) : get f = lastText? key (decodePairs query) := by
  have hfield : Params.Field key get fun raw _ => some raw := ⟨h.filled, h.kept⟩
  rw [hfield.eq_last hf, h.unset]
  cases lastText? key (decodePairs query) <;> rfl

/-- What is wrong with the word for a key: the text of the last pair with the key is none. -/
def wordFault? {α : Type} (key expected : String) (ofWord? : String → Option α) (ps : List (String × String)) :
    Option QueryError :=
  (lastText? key ps).bind fun raw => if (ofWord? raw).isSome then none else some (.invalidChoice key raw expected)

theorem TextField.refusal?_choice [Params F] {key : String} {get : F → Option String} (h : TextField key get)
    {query : String} {f : F} (hf : Params.ofQuery query = .ok f) {α : Type} (expected : String)
    (ofWord? : String → Option α) :
    refusal? (choice key expected ofWord? (get f)) = wordFault? key expected ofWord? (decodePairs query) := by
  rw [h.eq_lastText? hf, wordFault?]
  cases lastText? key (decodePairs query) with
  | none => rfl
  | some raw =>
    rw [Option.bind_some, choice]
    cases ofWord? raw <;> rfl

/-- Filling the slot does not touch a field. -/
def Slot.Spares {α : Type} (get : F → α) : Slot F → Prop
  | number _ _ put => ∀ f v, get (put f v) = get f
  | text _ _ put => ∀ f v, get (put f v) = get f
  | flag _ _ put => ∀ f v, get (put f v) = get f
  | numbers _ _ put => ∀ f v, get (put f v) = get f

theorem Slot.Spares.of_assign {α : Type} {get : F → α} {s : Slot F} (h : s.Spares get) {f g : F} {raw : String}
    (hg : s.assign f raw = .ok g) : get g = get f := by
  cases s with
  | number key _ put =>
    rw [assign] at hg
    cases hn : readNumber key raw with
    | error e => rw [hn] at hg; cases hg
    | ok n => rw [hn] at hg; cases hg; exact h f _
  | numbers key _ put =>
    rw [assign] at hg
    cases hns : readNumbers key raw with
    | error e => rw [hns] at hg; cases hg
    | ok ns => rw [hns] at hg; cases hg; exact h f _
  | text key _ put => cases hg; exact h f _
  | flag key _ put => cases hg; exact h f _

/-- A slot that is found by a key belongs to the table, and has this key. -/
theorem Slot.of_find? {slots : List (Slot F)} {key : String} {s : Slot F} (h : slots.find? (·.key = key) = some s) :
    s ∈ slots ∧ s.key = key :=
  ⟨List.mem_of_find?_eq_some h, by simpa using List.find?_some h⟩

/-- What a pair that is taken in does to a filter: nothing if its key is foreign, else it fills the slot of the key. -/
theorem step_ofSlots_cases {unset : F} {slots : List (Slot F)} {f g : F} {pair : String × String}
    (h : @Params.step F (.ofSlots unset slots) f pair = .ok g) :
    (pair.1 ∉ slots.map (·.key) ∧ g = f) ∨ ∃ s ∈ slots, s.key = pair.1 ∧ s.assign f pair.2 = .ok g := by
  rw [step_ofSlots] at h
  cases hfind : slots.find? (·.key = pair.1) with
  | none =>
    rw [hfind] at h
    cases h
    refine .inl ⟨fun hmem => ?_, rfl⟩
    obtain ⟨s, hs, hkey⟩ := List.mem_map.1 hmem
    exact List.find?_eq_none.1 hfind s hs (decide_eq_true hkey)
  | some s =>
    simp only [hfind] at h
    cases hassign : s.assign f pair.2 with
    | error e => rw [hassign] at h; cases h
    | ok f' =>
      rw [hassign] at h
      cases h
      exact .inr ⟨s, (Slot.of_find? hfind).1, (Slot.of_find? hfind).2, hassign⟩

/-- The field of a text slot, which no other slot touches. -/
private theorem textField_ofSlots {unset : F} {slots : List (Slot F)} {key : String} {get : F → Option String}
    {put : F → Option String → F} (hunset : get unset = none)
    (hslot : slots.find? (·.key = key) = some (.text key get put)) (hput : ∀ f v, get (put f v) = v)
    (hspared : ∀ s ∈ slots, s.key = key ∨ s.Spares get) : @TextField F (.ofSlots unset slots) key get := by
  refine @TextField.mk F (.ofSlots unset slots) key get hunset (fun f g raw hg => ?_) fun f g pair hne hg => ?_
  · rw [step_ofSlots, hslot] at hg
    cases hg
    exact hput f _
  · rcases step_ofSlots_cases hg with ⟨-, rfl⟩ | ⟨s, hs, hkey, hassign⟩
    · rfl
    · exact ((hspared s hs).resolve_left (hkey ▸ hne)).of_assign hassign

theorem NodeFilter.status_textField : TextField "status" NodeFilter.status :=
  textField_ofSlots rfl rfl (fun _ _ => rfl) (by simp [slots, Slot.key, Slot.Spares])

theorem StatsFilter.status_textField : TextField "status" StatsFilter.status :=
  textField_ofSlots rfl rfl (fun _ _ => rfl) (by simp [slots, Slot.key])

theorem ContractFilter.state_textField : TextField "state" ContractFilter.state :=
  textField_ofSlots rfl rfl (fun _ _ => rfl) (by simp [slots, Slot.key, Slot.Spares])

theorem ContractFilter.kind_textField : TextField "type" ContractFilter.kind :=
  textField_ofSlots rfl rfl (fun _ _ => rfl) (by simp [slots, Slot.key, Slot.Spares])

end GridGateway.Query
