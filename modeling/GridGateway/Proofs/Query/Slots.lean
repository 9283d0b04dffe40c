import GridGateway.Proofs.Keys
import GridGateway.Proofs.Query.Pairs
import GridGateway.Proofs.Text.Integer
import GridGateway.Query.Slot

/-!
# Tables of slots

A table of slots gives both directions between a filter and its pairs. If the table reaches every field of the
filter and no two slots share a key (`Table`), the pairs of a filter lead from the unset filter back to it
(`ofPairs_pairs`), also when pairs with foreign keys follow; foreign pairs alone change nothing
(`foldlM_step_of_foreign`).
-/

namespace GridGateway.Query

open Text (isUnreservedChar)

@[simp]
theorem readNumber_decimal (key : String) (n : UInt64) : readNumber key (Text.decimal n.toNat) = .ok n := by
  rw [readNumber, Text.uint64?_decimal]

@[simp]
theorem readFlag_renderFlag (b : Bool) : readFlag (renderFlag b) = some b := by cases b <;> decide

/-- The items of a list of numbers are found between its commas. -/
private theorem splitAll_numbers {ns : List UInt64} (h : ns ≠ []) :
    splitAll ',' (",".intercalate (ns.map fun n => Text.decimal n.toNat)).toList =
      ns.map fun n => Nat.toDigits 10 n.toNat := by
  have hchars : (",".intercalate (ns.map fun n => Text.decimal n.toNat)).toList =
      [','].intercalate (ns.map fun n => Nat.toDigits 10 n.toNat) := by
    rw [String.toList_intercalate, List.map_map]
    congr 1
    exact List.map_congr_left fun n _ => Text.toList_decimal n.toNat
  have hparts : ∀ part ∈ ns.map fun n => Nat.toDigits 10 n.toNat, ',' ∉ part := by
    intro part hpart hc
    obtain ⟨n, -, rfl⟩ := List.mem_map.mp hpart
    have hdigit := Text.isDigit_of_mem_toDigits hc
    revert hdigit
    decide
  rw [hchars, splitAll_intercalate hparts (by simpa using h)]

/-- Each item is read as its number. -/
private theorem mapM_readNumber (key : String) (ns : List UInt64) :
    (ns.map fun n => Nat.toDigits 10 n.toNat).mapM
      (fun item => readNumber key (String.ofList (Text.trimBlanks item))) = .ok ns := by
  have hitem : ∀ n : UInt64,
      readNumber key (String.ofList (Text.trimBlanks (Nat.toDigits 10 n.toNat))) = .ok n := by
    intro n
    rw [Text.trimBlanks_toDigits]
    exact readNumber_decimal key n
  induction ns with
  | nil => rfl
  | cons n ns ih =>
    rw [List.map_cons, List.mapM_cons, hitem, ih]
    rfl

/-- A list of numbers is read back from its items with commas between them. -/
private theorem readNumbers_intercalate (key : String) {ns : List UInt64} (h : ns ≠ []) :
    readNumbers key (",".intercalate (ns.map fun n => Text.decimal n.toNat)) = .ok ns := by
  have hsplit := splitAll_numbers h
  have hfull : (",".intercalate (ns.map fun n => Text.decimal n.toNat)).isEmpty = false := by
    rw [Bool.eq_false_iff]
    intro he
    rw [String.isEmpty_iff.mp he] at hsplit
    cases ns with
    | nil => exact h rfl
    | cons n ns =>
      rw [List.map_cons] at hsplit
      exact Nat.toDigits_ne_nil (List.cons.inj hsplit).1.symm
  rw [readNumbers, hfull, if_neg (by decide), hsplit]
  exact mapM_readNumber key ns

namespace Slot

variable {F : Type}

/-- The filter `g` with the slot filled as it is in the filter `f`. -/
def copy (f g : F) : Slot F → F
  | number _ get put => put g (get f)
  | text _ get put => put g (get f)
  | flag _ get put => put g (get f)
  | numbers _ get put => put g (get f)

/-- The slot of the filter is not filled. -/
def IsUnset (f : F) : Slot F → Prop
  | number _ get _ => get f = none
  | text _ get _ => get f = none
  | flag _ get _ => get f = none
  | numbers _ get _ => get f = []

/-- When slots are copied from `f` into `g` one after the other, each of them is still unset when its turn
comes. -/
def UnsetInTurn (f : F) : F → List (Slot F) → Prop
  | _, [] => True
  | g, s :: ss => s.IsUnset g ∧ UnsetInTurn f (s.copy f g) ss

/-- The rendered content of a slot fills the slot again. -/
private theorem assign_render {f : F} {s : Slot F} {raw : String} (h : s.render f = some raw) (g : F) :
    s.assign g raw = .ok (s.copy f g) := by
  cases s with
  | number key get put =>
    obtain ⟨n, hn, rfl⟩ := Option.map_eq_some_iff.mp h
    rw [assign, readNumber_decimal, copy, hn]
    rfl
  | text key get put =>
    rw [assign, copy, show get f = some raw from h]
  | flag key get put =>
    obtain ⟨b, hb, rfl⟩ := Option.map_eq_some_iff.mp h
    rw [assign, readFlag_renderFlag, copy, hb]
  | numbers key get put =>
    rw [render] at h
    split at h
    · cases h
    · next ns hne =>
      cases h
      rw [assign, readNumbers_intercalate key hne, copy]
      rfl

/-- A slot without content is unset. -/
private theorem isUnset_of_render_eq_none {f : F} {s : Slot F} (h : s.render f = none) : s.IsUnset f := by
  cases s with
  | number key get put => exact Option.map_eq_none_iff.mp h
  | text key get put => exact h
  | flag key get put => exact Option.map_eq_none_iff.mp h
  | numbers key get put =>
    rw [render] at h
    split at h
    · next hnil => exact hnil
    · cases h

/-- Two filters whose slot is unset have the same content there. -/
private theorem copy_congr {f f' : F} {s : Slot F} (h : s.IsUnset f) (h' : s.IsUnset f') (g : F) :
    s.copy f g = s.copy f' g := by
  cases s <;> simp only [IsUnset] at h h' <;> simp only [copy, h, h']

/-- A table of slots of a filter: the slots have different keys, which need no escapes in a query, putting back the
content of a slot changes nothing, and filling the slots one after the other gives the whole filter. -/
structure Table (unset : F) (slots : List (Slot F)) : Prop where
  nodup : (slots.map (·.key)).Nodup
  plain : ∀ key ∈ slots.map (·.key), key.toList.all isUnreservedChar = true
  copy_self : ∀ s ∈ slots, ∀ f, s.copy f f = f
  unsetInTurn : ∀ f, UnsetInTurn f unset slots
  foldl_copy : ∀ f, slots.foldl (fun g s => s.copy f g) unset = f

end Slot

namespace Params

variable {F : Type} {unset : F} {slots : List (Slot F)}

/-- A pair with a foreign key changes nothing. -/
private theorem step_of_foreign {G : Type} [Params G] {g : G} {pair : String × String}
    (h : Params.assign g pair.1 pair.2 = .ok none) : step g pair = .ok g := by
  rw [step, h]
  rfl

/-- Pairs with foreign keys change nothing. -/
theorem foldlM_step_of_foreign {G : Type} [Params G] {pairs : List (String × String)}
    (h : ∀ pair ∈ pairs, ∀ g : G, Params.assign g pair.1 pair.2 = .ok none) (g : G) :
    pairs.foldlM step g = .ok g := by
  induction pairs with
  | nil => rfl
  | cons pair pairs ih =>
    rw [List.foldlM_cons, step_of_foreign (h pair (by simp) g)]
    exact ih fun p hp => h p (by simp [hp])

/-- A pair fills the slot with its key, if there is one. -/
private theorem assign_ofSlots (g : F) (key raw : String) :
    (ofSlots unset slots).assign g key raw =
      match slots.find? (·.key = key) with
      | some s => (s.assign g raw).map some
      | none => .ok none := rfl

/-- To a table of slots, keys outside it are foreign. -/
private theorem assign_ofSlots_of_not_mem {key : String} (h : key ∉ slots.map (·.key)) (g : F) (raw : String) :
    (ofSlots unset slots).assign g key raw = .ok none := by
  have hfind : slots.find? (·.key = key) = none := by
    rw [List.find?_eq_none]
    intro s hs
    simpa using fun e : s.key = key => h (e ▸ List.mem_map_of_mem hs)
  rw [assign_ofSlots, hfind]

/-- The pair of a filled slot copies the slot. -/
private theorem step_ofSlots (hn : (slots.map (·.key)).Nodup) {s : Slot F} (hs : s ∈ slots) {f : F} {raw : String}
    (h : s.render f = some raw) (g : F) : @step F (ofSlots unset slots) g (s.key, raw) = .ok (s.copy f g) := by
  have hassign : (ofSlots unset slots).assign g s.key raw = .ok (some (s.copy f g)) := by
    rw [assign_ofSlots, find?_key_of_mem hn hs]
    simp only [Slot.assign_render h g]
    rfl
  unfold step
  rw [hassign]
  rfl

/-- The pairs of some slots of a table copy these slots. -/
private theorem foldlM_step_ofSlots (ht : Slot.Table unset slots) {f : F} {ss : List (Slot F)}
    (hss : ∀ s ∈ ss, s ∈ slots) {g : F} (hg : Slot.UnsetInTurn f g ss) :
    (ss.filterMap fun s => (s.render f).map fun raw => (s.key, raw)).foldlM (@step F (ofSlots unset slots)) g =
      .ok (ss.foldl (fun g s => s.copy f g) g) := by
  induction ss generalizing g with
  | nil => rfl
  | cons s ss ih =>
    have hrest := ih (fun t ht => hss t (by simp [ht])) hg.2
    cases hraw : s.render f with
    | none =>
      -- the slot is unset on both sides, so copying it changes nothing
      have hcopy : s.copy f g = g :=
        (Slot.copy_congr (Slot.isUnset_of_render_eq_none hraw) hg.1 g).trans
          (ht.copy_self s (hss s (by simp)) g)
      rw [hcopy] at hrest
      rw [List.filterMap_cons_none (by rw [hraw]; rfl), List.foldl_cons, hcopy, hrest]
    | some raw =>
      rw [List.filterMap_cons_some (by rw [hraw]; rfl), List.foldlM_cons, List.foldl_cons,
        step_ofSlots ht.nodup (hss s (by simp)) hraw]
      exact hrest

/-- The pairs of a filter, followed by foreign ones, lead back to the filter. -/
theorem ofPairs_pairs (ht : Slot.Table unset slots) (f : F) {foreign : List (String × String)}
    (hforeign : ∀ pair ∈ foreign, pair.1 ∉ slots.map (·.key)) :
    @ofPairs F (ofSlots unset slots) ((ofSlots unset slots).pairs f ++ foreign) = .ok f := by
  have hown := foldlM_step_ofSlots ht (fun _ hs => hs) (ht.unsetInTurn f)
  rw [ht.foldl_copy f] at hown
  unfold ofPairs
  rw [List.foldlM_append]
  change ((slots.filterMap _).foldlM _ unset >>= _) = _
  rw [hown]
  exact @foldlM_step_of_foreign F (ofSlots unset slots) foreign
    (fun pair hp g => assign_ofSlots_of_not_mem (hforeign pair hp) g pair.2) f

/-- The keys of a filter's pairs are keys of the table. -/
theorem key_mem_of_mem_pairs {f : F} {pair : String × String} (h : pair ∈ (ofSlots unset slots).pairs f) :
    pair.1 ∈ slots.map (·.key) := by
  obtain ⟨s, hs, e⟩ := List.mem_filterMap.mp h
  obtain ⟨raw, -, rfl⟩ := Option.map_eq_some_iff.mp e
  exact List.mem_map_of_mem hs

end Params

end GridGateway.Query
