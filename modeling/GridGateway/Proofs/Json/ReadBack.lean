import GridGateway.Json.Decoder
import GridGateway.Proofs.Json.ScanPrinted
import GridGateway.Proofs.Runs
import Mathlib.Data.List.Forall2

/-!
# Documents that are read back

A decoder reads a value back from a document if it finds the value wherever the document may come from, as long as
its containers may be nested that deep (`Decoder.Reads`). The lemmas below go from the decoders of single values to
lists and tables, and field by field to records (`Record.Reads`).

* `Record.Reads.decoder`: a record is read back from the object of its fields, in any order.
* `Decoder.Reads.ofText`: what is read back from a document is read back from its text.
-/

namespace GridGateway.Json

/-- A reader in these circumstances may open that many more levels of containers. -/
def Context.Allows (c : Context) (levels : Nat) : Prop := c.source = .text → levels < c.depth

/-- Only a text is limited. -/
theorem Context.allows_value (depth levels : Nat) : Context.Allows ⟨.value, depth⟩ levels := by
  intro h
  cases h

theorem Context.allows_buffer (depth levels : Nat) : Context.Allows ⟨.buffer, depth⟩ levels := by
  intro h
  cases h

/-- A container is entered, and leaves one level less. -/
theorem Context.Allows.enter {c : Context} {levels : Nat} (hc : c.Allows (levels + 1)) :
    ∃ c', c.enter = .ok c' ∧ c'.source = c.source ∧ c'.Allows levels := by
  obtain ⟨source, depth⟩ := c
  cases source with
  | text =>
    have hdepth : levels + 1 < depth := hc rfl
    refine ⟨⟨.text, depth - 1⟩, ?_, rfl, ?_⟩
    · exact if_pos (by change 1 < depth; omega)
    · intro _
      change levels < depth - 1
      omega
  | value => exact ⟨_, rfl, rfl, Context.allows_value _ _⟩
  | buffer => exact ⟨_, rfl, rfl, Context.allows_buffer _ _⟩

/-- All numbers of the document are exact, and its containers are nested at most `levels` deep. -/
structure Fits (levels : Nat) (v : Json) : Prop where
  exact : v.Exact
  sound : ∀ depth, levels < depth → (Draft.ofJson v).sound depth = true

/-- The decoder reads a value back from a document with containers nested at most `levels` deep. -/
structure Decoder.Reads {α : Type} (dec : Decoder α) (levels : Nat) (v : Json) (a : α) : Prop where
  fits : v.Fits levels
  reads : ∀ c : Context, c.Allows levels → dec c (.ofJson v) = .ok a

/-- What is read back from a document is read back from its text. -/
theorem Decoder.Reads.ofText {α : Type} {dec : Decoder α} {levels : Nat} {v : Json} {a : α}
    (h : dec.Reads levels v a) (hlevels : levels < depthLimit) : dec.ofText v.text = .ok a := by
  rw [Decoder.ofText_text dec h.fits.exact]
  exact h.reads {} fun _ => hlevels

/-! ### Single values -/

namespace Decoder.Reads

variable {levels : Nat}

theorem string (s : String) : Decoder.string.Reads levels (.str s) s :=
  ⟨⟨trivial, fun _ _ => rfl⟩, fun _ _ => rfl⟩

theorem bool (b : Bool) : Decoder.bool.Reads levels (.bool b) b :=
  ⟨⟨trivial, fun _ _ => rfl⟩, fun _ _ => rfl⟩

private theorem below {α : Type} {bound : Nat} {name : String} {ofNat : Nat → α} {n : Nat} (hn : n < bound)
    (hbound : bound ≤ UInt64.size) : (Decoder.below bound name ofNat).Reads levels (.int n) (ofNat n) := by
  refine ⟨⟨inRange_natCast (by omega), fun _ _ => rfl⟩, fun c _ => ?_⟩
  exact if_pos ⟨Int.natCast_nonneg n, by omega⟩

theorem uint64 (n : UInt64) : Decoder.uint64.Reads levels (.uint64 n) n := by
  have h : Decoder.uint64.Reads levels (.uint64 n) (.ofNat n.toNat) := below n.toNat_lt_size (Nat.le_refl _)
  rwa [UInt64.ofNat_toNat] at h

theorem uint32 (n : UInt32) : Decoder.uint32.Reads levels (.uint32 n) n := by
  have h : Decoder.uint32.Reads levels (.uint32 n) (.ofNat n.toNat) := below n.toNat_lt_size (by decide)
  rwa [UInt32.ofNat_toNat] at h

/-- An optional value is read back if it is written as anything but nothing. -/
theorem option {α : Type} {dec : Decoder α} {write : α → Json} {o : Option α}
    (h : ∀ a ∈ o, dec.Reads levels (write a) a) (hwrite : ∀ a, write a ≠ .null) :
    (Decoder.option dec).Reads levels (.option write o) o := by
  cases o with
  | none => exact ⟨⟨trivial, fun _ _ => rfl⟩, fun _ _ => rfl⟩
  | some a =>
    have hread := h a rfl
    refine ⟨hread.fits, fun c hc => ?_⟩
    have hdraft : Draft.ofJson (write a) ≠ .null := by
      have hnull := hwrite a
      cases hv : write a with
      | null => exact absurd hv hnull
      | _ => simp [Draft.ofJson]
    change Decoder.option dec c (.ofJson (write a)) = _
    rw [Decoder.option, hread.reads c hc]
    · rfl
    · exact hdraft

theorem map {α β : Type} {dec : Decoder α} {v : Json} {a : α} (h : dec.Reads levels v a) (f : α → β) :
    (dec.map f).Reads levels v (f a) := by
  refine ⟨h.fits, fun c hc => ?_⟩
  rw [Decoder.map, h.reads c hc]
  rfl

/-- A value that may be left out is read back if it is written as anything but nothing. -/
theorem orNull {α : Type} {dec : Decoder α} {write : α → Json} {a default : α} (h : dec.Reads levels (write a) a)
    (hwrite : ∀ a, write a ≠ .null) : (Decoder.orNull default dec).Reads levels (write a) a := by
  have hoption : (Decoder.option dec).Reads levels (.option write (some a)) (some a) :=
    option (fun _ ha => Option.mem_some.mp ha ▸ h) hwrite
  exact hoption.map _

theorem word {α : Type} {words : List (String × α)} {s : String} {a : α} (hw : words.find? (·.1 = s) = some (s, a)) :
    (Decoder.word words).Reads levels (.str s) a := by
  refine ⟨⟨trivial, fun _ _ => rfl⟩, fun c _ => ?_⟩
  simp only [Decoder.word, Draft.ofJson, hw]

end Decoder.Reads

/-! ### Lists and tables -/

theorem Draft.ofItems_eq_map (vs : List Json) : Draft.ofItems vs = vs.map Draft.ofJson := by
  induction vs with
  | nil => rfl
  | cons v vs ih => rw [Draft.ofItems, ih, List.map_cons]

theorem Draft.ofMembers_eq_map (ms : List (String × Json)) :
    Draft.ofMembers ms = ms.map fun m => (.str m.1, .ofJson m.2) := by
  induction ms with
  | nil => rfl
  | cons m ms ih => rw [Draft.ofMembers, ih, List.map_cons]

private theorem exactItems_iff {vs : List Json} : ExactItems vs ↔ ∀ v ∈ vs, v.Exact := by
  induction vs with
  | nil => simp [ExactItems]
  | cons v vs ih => simp [ExactItems, ih]

theorem exactMembers_iff {ms : List (String × Json)} : ExactMembers ms ↔ ∀ m ∈ ms, m.2.Exact := by
  induction ms with
  | nil => simp [ExactMembers]
  | cons m ms ih => simp [ExactMembers, ih]

private theorem Draft.soundItems_iff {depth : Nat} {ds : List Draft} :
    Draft.soundItems depth ds = true ↔ ∀ d ∈ ds, d.sound depth = true := by
  induction ds with
  | nil => simp [Draft.soundItems]
  | cons d ds ih => simp [Draft.soundItems, ih]

private theorem Draft.soundMembers_ofMembers {depth : Nat} {ms : List (String × Json)}
    (h : ∀ m ∈ ms, (Draft.ofJson m.2).sound depth = true) : Draft.soundMembers depth (Draft.ofMembers ms) = true := by
  induction ms with
  | nil => rfl
  | cons m ms ih =>
    have hrest := ih fun m' hm' => h m' (List.mem_cons_of_mem _ hm')
    rw [Draft.ofMembers, Draft.soundMembers, h m List.mem_cons_self, hrest]
    rfl

/-- An array takes one level more than its items. -/
theorem Fits.arr {levels : Nat} {vs : List Json} (h : ∀ v ∈ vs, v.Fits levels) : (Json.arr vs).Fits (levels + 1) := by
  refine ⟨exactItems_iff.mpr fun v hv => (h v hv).exact, fun depth hdepth => ?_⟩
  have hitems : Draft.soundItems (depth - 1) (Draft.ofItems vs) = true := by
    rw [Draft.soundItems_iff, Draft.ofItems_eq_map]
    intro d hd
    obtain ⟨v, hv, rfl⟩ := List.mem_map.mp hd
    exact (h v hv).sound _ (by omega)
  rw [Draft.ofJson, Draft.sound, hitems, Bool.and_true, decide_eq_true_eq]
  omega

/-- An object takes one level more than the values of its members. -/
theorem Fits.obj {levels : Nat} {ms : List (String × Json)} (h : ∀ m ∈ ms, m.2.Fits levels) :
    (Json.obj ms).Fits (levels + 1) := by
  refine ⟨exactMembers_iff.mpr fun m hm => (h m hm).exact, fun depth hdepth => ?_⟩
  have hmembers : Draft.soundMembers (depth - 1) (Draft.ofMembers ms) = true :=
    Draft.soundMembers_ofMembers fun m hm => (h m hm).sound _ (by omega)
  rw [Draft.ofJson, Draft.sound, hmembers, Bool.and_true, decide_eq_true_eq]
  omega

namespace Decoder.Reads

variable {levels : Nat} {α : Type} {dec : Decoder α} {write : α → Json}

/-- A list is read back if each of its items is. -/
theorem list {xs : List α} (h : ∀ x ∈ xs, dec.Reads levels (write x) x) :
    (Decoder.list dec).Reads (levels + 1) (.list write xs) xs := by
  refine ⟨Fits.arr fun v hv => ?_, fun c hc => ?_⟩
  · obtain ⟨x, hx, rfl⟩ := List.mem_map.mp hv
    exact (h x hx).fits
  · obtain ⟨c', henter, -, hc'⟩ := hc.enter
    have hitems : xs.mapM (fun x => dec c' (.ofJson (write x))) = .ok xs :=
      mapM_eq_ok_iff.2 (List.forall₂_same.2 fun x hx => (h x hx).reads c' hc')
    rw [Json.list, Draft.ofJson, Draft.ofItems_eq_map, List.map_map, Decoder.list]
    simp only [henter]
    change ((xs.map (Draft.ofJson ∘ write)).mapM (dec c')) = _
    rw [List.mapM_map]
    exact hitems

/-- A table in ascending order of its keys is read back if each of its values is. -/
theorem table {es : List (String × α)} (h : ∀ e ∈ es, dec.Reads levels (write e.2) e.2)
    (hsorted : sortMembers es = es) :
    (Decoder.table dec).Reads (levels + 1) (.obj (es.map fun e => (e.1, write e.2))) es := by
  refine ⟨Fits.obj fun m hm => ?_, fun c hc => ?_⟩
  · obtain ⟨e, he, rfl⟩ := List.mem_map.mp hm
    exact (h e he).fits
  · obtain ⟨c', henter, -, hc'⟩ := hc.enter
    have hentries :
        es.mapM (fun e : String × α => (dec c' (.ofJson (write e.2))).map fun v => (e.1, v)) = .ok es :=
      mapM_eq_ok_iff.2 (List.forall₂_same.2 fun e he => by rw [(h e he).reads c' hc']; rfl)
    rw [Draft.ofJson, Draft.ofMembers_eq_map, List.map_map, Decoder.table]
    simp only [henter]
    change (do
      let entries ← (es.map _).mapM _
      Except.ok (sortMembers entries)) = _
    rw [List.mapM_map]
    change (do
      let entries ← es.mapM (fun e : String × α => (dec c' (.ofJson (write e.2))).map fun v => (e.1, v))
      Except.ok (sortMembers entries)) = _
    rw [hentries]
    exact congrArg Except.ok hsorted

end Decoder.Reads

/-! ### Documents that are kept -/

mutual
/-- The document of a draft of a document is its canonical form. -/
theorem Draft.toJson_ofJson : (v : Json) → (ofJson v).toJson = v.canonical
  | .null => rfl
  | .bool _ => rfl
  | .int _ => rfl
  | .float _ => rfl
  | .str _ => rfl
  | .arr vs => by rw [ofJson, toJson, toItems_ofItems vs, canonical]
  | .obj ms => by rw [ofJson, toJson, toMembers_ofMembers ms, canonical]

private theorem Draft.toItems_ofItems : (vs : List Json) → toItems (ofItems vs) = canonicalItems vs
  | [] => rfl
  | v :: vs => by rw [ofItems, toItems, toJson_ofJson v, toItems_ofItems vs, canonicalItems]

private theorem Draft.toMembers_ofMembers :
    (ms : List (String × Json)) → toMembers (ofMembers ms) = canonicalMembers ms
  | [] => rfl
  | (k, v) :: ms => by rw [ofMembers, toMembers, toJson_ofJson v, toMembers_ofMembers ms, canonicalMembers]
end

/-- A document that is kept as it is comes back in canonical form. -/
theorem Decoder.Reads.json {levels : Nat} {v : Json} (h : v.Fits levels) :
    Decoder.json.Reads levels v v.canonical := by
  refine ⟨h, fun c hc => ?_⟩
  rw [Decoder.json, Draft.toJson_ofJson]
  split
  · next hsource => rw [if_pos (h.sound _ (hc hsource))]
  · rfl

end GridGateway.Json
