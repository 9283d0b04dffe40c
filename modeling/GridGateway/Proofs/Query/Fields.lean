import GridGateway.Query.Slot

/-!
# What a field comes to

A pair has a say in the field that its key stands for and in no other one.  So what a field comes to is told by the
texts with its key, in their order (`Params.Field.eq_foldl`): by the last of them if each of them overwrites the field
(`Params.Field.eq_last`), and by the last one that is understood if the others leave it (`Params.Field.eq_lastRead`).
When of all pairs with the same key only the last one is kept, the last texts stay what they were
(`textsOf_lastOfEach`).
-/

namespace GridGateway.Query

variable {key : String} {ps : List (String × String)}

/-! ### The texts of a key -/

/-- The texts of the pairs with a key, in their order. -/
def textsOf (key : String) (ps : List (String × String)) : List String := (ps.filter (·.1 = key)).map (·.2)

/-- The text of the last pair with a key. -/
def lastText? (key : String) (ps : List (String × String)) : Option String :=
  ((ps.filter (·.1 = key)).getLast?).map (·.2)

/-- What the last text with a key says, among those that are understood. -/
def lastRead? {α : Type} (read? : String → Option α) (key : String) (ps : List (String × String)) : Option α :=
  ((textsOf key ps).filterMap read?).getLast?

/-- Of all pairs with the same key only the last one. -/
def lastOfEach : List (String × String) → List (String × String)
  | [] => []
  | pair :: ps => if pair.1 ∈ ps.map (·.1) then lastOfEach ps else pair :: lastOfEach ps

private theorem textsOf_cons (key : String) (pair : String × String) (ps : List (String × String)) :
    textsOf key (pair :: ps) = if pair.1 = key then pair.2 :: textsOf key ps else textsOf key ps := by
  simp only [textsOf, List.filter_cons, decide_eq_true_eq]
  split <;> rfl

theorem mem_textsOf {raw : String} : raw ∈ textsOf key ps ↔ (key, raw) ∈ ps := by
  simp [textsOf]

private theorem textsOf_eq_nil_iff : textsOf key ps = [] ↔ key ∉ ps.map (·.1) := by
  rw [List.eq_nil_iff_forall_not_mem]
  constructor
  · rintro h hkey
    obtain ⟨pair, hpair, rfl⟩ := List.mem_map.1 hkey
    exact h pair.2 (mem_textsOf.2 hpair)
  · exact fun h raw hraw => h (List.mem_map_of_mem (mem_textsOf.1 hraw))

theorem lastText?_eq_getLast? (key : String) (ps : List (String × String)) :
    lastText? key ps = (textsOf key ps).getLast? := List.getLast?_map.symm

theorem lastOfEach_sublist (ps : List (String × String)) : (lastOfEach ps).Sublist ps := by
  induction ps with
  | nil => exact .slnil
  | cons pair ps ih =>
    rw [lastOfEach]
    split
    · exact ih.cons _
    · exact ih.cons_cons _

/-- Of the texts of a key the last one is left. -/
theorem textsOf_lastOfEach (key : String) (ps : List (String × String)) :
    textsOf key (lastOfEach ps) = (lastText? key ps).toList := by
  rw [lastText?_eq_getLast?]
  induction ps with
  | nil => rfl
  | cons pair ps ih =>
    rw [lastOfEach, textsOf_cons]
    split
    · next hmem =>
      rw [ih]
      split
      · next hkey =>
        -- another pair with the key follows, so the last text is one of the rest
        have hrest : textsOf key ps ≠ [] := fun h => textsOf_eq_nil_iff.1 h (hkey ▸ hmem)
        rw [List.getLast?_cons_of_ne_nil hrest]
      · rfl
    · next hmem =>
      rw [textsOf_cons, ih]
      split
      · next hkey => rw [textsOf_eq_nil_iff.2 (hkey ▸ hmem)]; rfl
      · rfl

section

variable {α : Type} {read? : String → Option α}

/-- If every text with the key is understood, the last one counts. -/
theorem lastRead?_eq_bind (h : ∀ raw ∈ textsOf key ps, (read? raw).isSome = true) :
    lastRead? read? key ps = (lastText? key ps).bind read? := by
  rw [lastRead?, lastText?_eq_getLast?, List.getLast?_filterMap, List.getLast?_eq_head?_reverse]
  cases htexts : (textsOf key ps).reverse with
  | nil => rfl
  | cons last before =>
    obtain ⟨value, hvalue⟩ := Option.isSome_iff_exists.1 (h last (List.mem_reverse.1 (htexts ▸ List.mem_cons_self)))
    rw [List.findSome?_cons, List.head?_cons, Option.bind_some, hvalue]

/-- When only the last pair of each key is kept, its text counts if it is understood. -/
theorem lastRead?_lastOfEach (read? : String → Option α) (key : String) (ps : List (String × String)) :
    lastRead? read? key (lastOfEach ps) = (lastText? key ps).bind read? := by
  rw [lastRead?, textsOf_lastOfEach]
  cases lastText? key ps with
  | none => rfl
  | some raw =>
    rw [Option.toList_some, List.filterMap_cons, Option.bind_some]
    cases read? raw <;> rfl

/-- Pairs that are not understood may be left out. -/
theorem lastRead?_filter {keep : String × String → Bool} (h : ∀ raw, keep (key, raw) = false → read? raw = none)
    (ps : List (String × String)) : lastRead? read? key (ps.filter keep) = lastRead? read? key ps := by
  rw [lastRead?, lastRead?]
  congr 1
  induction ps with
  | nil => rfl
  | cons pair ps ih =>
    rw [List.filter_cons, textsOf_cons]
    split
    · rw [textsOf_cons]
      split
      · rw [List.filterMap_cons, List.filterMap_cons, ih]
      · exact ih
    · next hout =>
      rw [ih]
      split
      · next hkey =>
        subst hkey
        rw [List.filterMap_cons_none (h pair.2 (Bool.eq_false_iff.2 hout))]
      · rfl

end

/-! ### Fields -/

namespace Params

variable {F β : Type} [Params F]

/-- A field of a type of parameters: a pair with its key writes into it what its text says, given what it held before,
and no other pair touches it. -/
structure Field (key : String) (get : F → β) (write : String → β → β) : Prop where
  own : ∀ f g raw, step f (key, raw) = .ok g → get g = write raw (get f)
  kept : ∀ f g pair, pair.1 ≠ key → step f pair = .ok g → get g = get f

variable {get : F → β} {write : String → β → β}

/-- The texts with the key of a field are written into it in their order. -/
theorem Field.eq_foldl (h : Field key get write) {f : F} (hf : ofPairs ps = .ok f) :
    get f = (textsOf key ps).foldl (fun held raw => write raw held) (get (unset : F)) := by
  suffices hrun : ∀ (ps : List (String × String)) (f g : F), ps.foldlM step f = .ok g →
      get g = (textsOf key ps).foldl (fun held raw => write raw held) (get f) from hrun ps unset f hf
  intro ps
  induction ps with
  | nil =>
    intro f g hg
    cases hg
    rfl
  | cons pair ps ih =>
    intro f g hg
    rw [List.foldlM_cons] at hg
    cases hstep : step f pair with
    | error e => rw [hstep] at hg; cases hg
    | ok f' =>
      rw [hstep] at hg
      rw [ih f' g hg, textsOf_cons]
      split
      · next hkey => rw [List.foldl_cons, h.own f f' pair.2 (by rw [← hkey]; exact hstep)]
      · next hkey => rw [h.kept f f' pair hkey hstep]

/-- When texts that are not understood are passed over, the last one that is understood counts. -/
theorem Field.eq_lastRead {read? : String → Option β} (h : Field key get fun raw held => (read? raw).getD held) {f : F}
    (hf : ofPairs ps = .ok f) : get f = (lastRead? read? key ps).getD (get (unset : F)) := by
  rw [h.eq_foldl hf, lastRead?]
  generalize textsOf key ps = texts, get (unset : F) = held
  induction texts generalizing held with
  | nil => rfl
  | cons raw texts ih =>
    rw [List.foldl_cons, ih]
    cases hread : read? raw with
    | none => rw [List.filterMap_cons_none hread]; rfl
    | some value => rw [List.filterMap_cons_some hread, List.getLast?_cons]; rfl

/-- When every text overwrites the field, the last one counts. -/
theorem Field.eq_last {read : String → β} (h : Field key get fun raw _ => read raw) {f : F} (hf : ofPairs ps = .ok f) :
    get f = ((lastText? key ps).map read).getD (get (unset : F)) := by
  have hlast : get f = (lastRead? (fun raw => some (read raw)) key ps).getD (get (unset : F)) := h.eq_lastRead hf
  rw [hlast, lastRead?_eq_bind fun _ _ => rfl]
  cases lastText? key ps <;> rfl

end Params

end GridGateway.Query
