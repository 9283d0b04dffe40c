import GridGateway.Proofs.Json.Members
import GridGateway.Proofs.Json.Records

/-!
# Documents in canonical form

A document that is kept as a value has the members of every object sorted.  A decoder recovers a value from a document
if it reads the value back both from the document as it is written and from its canonical form (`Decoder.Recovers`).
As with `Decoder.Reads`, this goes from single values to lists and tables, and field by field to records, which do not
mind the order of their members (`Record.Recovers.decoder`).

* `Decoder.Recovers.ofJson`, `Decoder.Recovers.ofText`: what is recovered from a document is decoded from the value
  and from the text.
-/

namespace GridGateway.Json

/-! ### Canonical forms -/

theorem canonicalItems_eq_map (vs : List Json) : canonicalItems vs = vs.map canonical := by
  induction vs with
  | nil => rfl
  | cons v vs ih => rw [canonicalItems, ih, List.map_cons]

theorem canonicalMembers_eq_map (ms : List (String × Json)) :
    canonicalMembers ms = ms.map fun m => (m.1, m.2.canonical) := by
  induction ms with
  | nil => rfl
  | cons m ms ih => rw [canonicalMembers, ih, List.map_cons]

/-- The names of members stay as they are. -/
theorem canonicalMembers_names (ms : List (String × Json)) : (canonicalMembers ms).map (·.1) = ms.map (·.1) := by
  rw [canonicalMembers_eq_map, List.map_map]
  rfl

theorem canonicalMembers_append (ms ms' : List (String × Json)) :
    canonicalMembers (ms ++ ms') = canonicalMembers ms ++ canonicalMembers ms' := by
  rw [canonicalMembers_eq_map, canonicalMembers_eq_map, canonicalMembers_eq_map, List.map_append]

/-- Nothing but `null` has the canonical form `null`. -/
private theorem canonical_ne_null {v : Json} (h : v ≠ .null) : v.canonical ≠ .null := by
  cases v with
  | null => exact absurd rfl h
  | _ => simp [canonical]

mutual
/-- A canonical form is its own. -/
theorem canonical_canonical : (v : Json) → v.canonical.canonical = v.canonical
  | .null => rfl
  | .bool _ => rfl
  | .int _ => rfl
  | .float _ => rfl
  | .str _ => rfl
  | .arr vs => by rw [canonical, canonical, canonicalItems_canonicalItems vs]
  | .obj ms => by
    rw [canonical, canonical, canonicalMembers_eq_map (sortMembers _), map_sortMembers, ← canonicalMembers_eq_map,
      canonicalMembers_canonicalMembers ms, (ascending_sortMembers _).sortMembers]

private theorem canonicalItems_canonicalItems :
    (vs : List Json) → canonicalItems (canonicalItems vs) = canonicalItems vs
  | [] => rfl
  | v :: vs => by rw [canonicalItems, canonicalItems, canonical_canonical v, canonicalItems_canonicalItems vs]

private theorem canonicalMembers_canonicalMembers :
    (ms : List (String × Json)) → canonicalMembers (canonicalMembers ms) = canonicalMembers ms
  | [] => rfl
  | (k, v) :: ms => by
    rw [canonicalMembers, canonicalMembers, canonical_canonical v, canonicalMembers_canonicalMembers ms]
end

/-- A value is decoded as its canonical form is. -/
theorem Decoder.ofJson_canonical {α : Type} (dec : Decoder α) (v : Json) : dec.ofJson v.canonical = dec.ofJson v := by
  rw [ofJson, ofJson, canonical_canonical]

/-! ### Single values -/

/-- The decoder reads a value back from a document and from its canonical form, both with containers nested at most
`levels` deep. -/
structure Decoder.Recovers {α : Type} (dec : Decoder α) (levels : Nat) (v : Json) (a : α) : Prop where
  written : dec.Reads levels v a
  canonical : dec.Reads levels v.canonical a

namespace Decoder.Recovers

variable {levels : Nat} {α : Type} {dec : Decoder α} {write : α → Json}

/-- A document in canonical form. -/
theorem of_canonical {v : Json} {a : α} (h : dec.Reads levels v a) (hv : v.canonical = v) : dec.Recovers levels v a :=
  ⟨h, by rw [hv]; exact h⟩

theorem string (s : String) : Decoder.string.Recovers levels (.str s) s := of_canonical (.string s) rfl

theorem bool (b : Bool) : Decoder.bool.Recovers levels (.bool b) b := of_canonical (.bool b) rfl

theorem uint64 (n : UInt64) : Decoder.uint64.Recovers levels (.uint64 n) n := of_canonical (.uint64 n) rfl

theorem uint32 (n : UInt32) : Decoder.uint32.Recovers levels (.uint32 n) n := of_canonical (.uint32 n) rfl

theorem word {words : List (String × α)} {s : String} {a : α} (hw : words.find? (·.1 = s) = some (s, a)) :
    (Decoder.word words).Recovers levels (.str s) a := of_canonical (.word hw) rfl

/-- An optional value is recovered if it is written as anything but nothing. -/
theorem option {o : Option α} (h : ∀ a ∈ o, dec.Recovers levels (write a) a) (hwrite : ∀ a, write a ≠ .null) :
    (Decoder.option dec).Recovers levels (.option write o) o := by
  refine ⟨.option (fun a ha => (h a ha).written) hwrite, ?_⟩
  have hcanonical : (Json.option write o).canonical = Json.option (fun a => (write a).canonical) o := by
    cases o <;> rfl
  rw [hcanonical]
  exact .option (fun a ha => (h a ha).canonical) fun a => canonical_ne_null (hwrite a)

/-- A value that may be left out is recovered if it is written as anything but nothing. -/
theorem orNull {a default : α} (h : dec.Recovers levels (write a) a) (hwrite : ∀ a, write a ≠ .null) :
    (Decoder.orNull default dec).Recovers levels (write a) a :=
  ⟨.orNull h.written hwrite, @Decoder.Reads.orNull levels α dec (fun a => (write a).canonical) a default h.canonical
    fun a => canonical_ne_null (hwrite a)⟩

/-! ### Lists and tables -/

/-- A list is recovered if each of its items is. -/
theorem list {xs : List α} (h : ∀ x ∈ xs, dec.Recovers levels (write x) x) :
    (Decoder.list dec).Recovers (levels + 1) (.list write xs) xs := by
  refine ⟨.list fun x hx => (h x hx).written, ?_⟩
  have hcanonical : (Json.list write xs).canonical = Json.list (fun x => (write x).canonical) xs := by
    rw [Json.list, Json.canonical, canonicalItems_eq_map, List.map_map]
    rfl
  rw [hcanonical]
  exact .list fun x hx => (h x hx).canonical

/-- A table in ascending order of its keys is recovered if each of its values is. -/
theorem table {es : List (String × α)} (h : ∀ e ∈ es, dec.Recovers levels (write e.2) e.2) (hes : Ascending es) :
    (Decoder.table dec).Recovers (levels + 1) (.obj (es.map fun e => (e.1, write e.2))) es := by
  refine ⟨.table (fun e he => (h e he).written) hes.sortMembers, ?_⟩
  have hascending : Ascending (es.map fun e => (e.1, (write e.2).canonical)) := List.pairwise_map.mpr hes
  have hcanonical : (Json.obj (es.map fun e => (e.1, write e.2))).canonical =
      .obj (es.map fun e => (e.1, (write e.2).canonical)) := by
    rw [Json.canonical, canonicalMembers_eq_map, List.map_map]
    exact congrArg Json.obj hascending.sortMembers
  rw [hcanonical]
  exact @Decoder.Reads.table levels α dec (fun a => (write a).canonical) es (fun e he => (h e he).canonical)
    hes.sortMembers

/-! ### Whole documents -/

variable {v : Json} {a : α}

/-- What is recovered from a document is decoded from the value. -/
theorem ofJson (h : dec.Recovers levels v a) : dec.ofJson v = .ok a :=
  h.canonical.reads _ (Context.allows_value _ _)

/-- What is recovered from a document is decoded from its text. -/
theorem ofText (h : dec.Recovers levels v a) (hlevels : levels < depthLimit) : dec.ofText v.text = .ok a :=
  h.written.ofText hlevels

end Decoder.Recovers

/-! ### Records -/

/-- The record recovers a value from the members of its fields. -/
structure Record.Recovers {α : Type} (r : Record α) (levels : Nat) (ms : List (String × Json)) (a : α) : Prop where
  written : r.Reads levels ms a
  canonical : r.Reads levels (canonicalMembers ms) a

namespace Record.Recovers

variable {levels : Nat} {α β : Type} {ms : List (String × Json)}

theorem pure (a : α) : (Record.pure a).Recovers levels [] a := ⟨.pure a, .pure a⟩

/-- One more field recovers one more value. -/
theorem field {r : Record (β → α)} {f : β → α} {name : String} {dec : Decoder β} {default : Option β} {v : Json}
    {b : β} (h : r.Recovers levels ms f) (hv : dec.Recovers levels v b) :
    (r.field name dec default).Recovers levels (ms ++ [(name, v)]) (f b) := by
  refine ⟨h.written.field hv.written, ?_⟩
  rw [canonicalMembers_append]
  exact h.canonical.field hv.canonical

theorem required {r : Record (β → α)} {f : β → α} {name : String} {dec : Decoder β} {v : Json} {b : β}
    (h : r.Recovers levels ms f) (hv : dec.Recovers levels v b) :
    (r.required name dec).Recovers levels (ms ++ [(name, v)]) (f b) := h.field hv

theorem optional {r : Record (β → α)} {f : β → α} {name : String} {dec : Decoder β} {default : β} {v : Json} {b : β}
    (h : r.Recovers levels ms f) (hv : dec.Recovers levels v b) :
    (r.optional name dec default).Recovers levels (ms ++ [(name, v)]) (f b) := h.field hv

variable {r : Record α} {a : α}

/-- The members and the value may be spelled differently than the fields spell them. -/
theorem of_eq {r' : Record α} {ms' : List (String × Json)} {a' : α} (h : r'.Recovers levels ms' a') (hr : r = r')
    (hms : ms = ms') (ha : a = a') : r.Recovers levels ms a := by
  subst hr hms ha
  exact h

/-- A record is recovered from the object of its fields. -/
theorem decoder (h : r.Recovers levels ms a) (hnames : (ms.map (·.1)).Nodup) {title : String} :
    (r.decoder title).Recovers (levels + 1) (.obj ms) a := by
  have hnames' : ((canonicalMembers ms).map (·.1)).Nodup := by rwa [canonicalMembers_names]
  exact ⟨h.written.decoder hnames, h.canonical.decoder_of_perm hnames' (sortMembers_perm hnames')⟩

end Record.Recovers

end GridGateway.Json
