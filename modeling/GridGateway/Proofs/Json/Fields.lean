import GridGateway.Proofs.Json.Canonical

/-!
# What a decoded record tells about its document

A record is decoded from an object, where the last member of a name counts, or from an array of its fields in their
order (`Json.fieldOf?`).  If a value comes out, every field that must be there was there, and its own decoder took it
(`Record.BuildsFrom`).  Read from the last field to the first, this takes a decoded record apart.

* `Record.buildsFrom_of_ofJson`: a decoded record is built from the fields of its document.
* `Record.BuildsFrom.required`, `Record.BuildsFrom.optional`: the last field of such a record.
-/

namespace GridGateway.Json

/-- The value that stands for a field of a record with the given fields. -/
def fieldOf? (fields : List String) (name : String) : Json → Option Json
  | .obj ms => (ms.reverse.find? (·.1 = name)).map (·.2)
  | .arr items => ((fields.zip items).find? (·.1 = name)).map (·.2)
  | _ => none

/-- The document is an object, or an array with no more items than there are fields. -/
def HasRoomIn (fields : List String) : Json → Prop
  | .obj _ => True
  | .arr items => items.length ≤ fields.length
  | _ => False

/-- What a document tells of a field: what the value means that stands for it, or the default if there is none. -/
def TellsOf {β : Type} (fields : List String) (name : String) (means : Json → β → Prop) (default : β) (v : Json)
    (b : β) : Prop :=
  match v.fieldOf? fields name with
  | none => b = default
  | some w => means w b

/-! ### Single values -/

variable {v : Json}

theorem eq_str_of_ofJson {s : String} (h : Decoder.string.ofJson v = .ok s) : v = .str s := by
  rw [Decoder.ofJson] at h
  cases v with
  | str t => exact congrArg Json.str (Except.ok.inj h)
  | _ => cases h

theorem eq_uint32_of_ofJson {n : UInt32} (h : Decoder.uint32.ofJson v = .ok n) : v = .uint32 n := by
  rw [Decoder.ofJson] at h
  cases v with
  | int k =>
    change (if 0 ≤ k ∧ k < UInt32.size then _ else _) = _ at h
    split at h
    · next hk =>
      cases h
      have hnat : (k.toNat : Int) = k := Int.toNat_of_nonneg hk.1
      have hlt : k.toNat < UInt32.size := by omega
      rw [uint32, UInt32.toNat_ofNat_of_lt' hlt, hnat]
    · cases h
  | _ => cases h

/-- A document that is kept is kept in canonical form. -/
theorem eq_canonical_of_ofJson {w : Json} (h : Decoder.json.ofJson v = .ok w) : w = v.canonical := by
  have hkept : Except.ok (Draft.ofJson v.canonical).toJson = Except.ok (ε := DecodeError) w := h
  rw [Draft.toJson_ofJson, canonical_canonical] at hkept
  exact (Except.ok.inj hkept).symm

/-! ### Records -/

variable {α β : Type} {fields : List String} {a : α}

/-- A decoder that goes on has come to a value before. -/
private theorem bind_eq_ok {x : Except DecodeError α} {k : α → Except DecodeError β} {b : β}
    (h : (x >>= k) = .ok b) : ∃ a, x = .ok a ∧ k a = .ok b := by
  cases x with
  | error e => cases h
  | ok a => exact ⟨a, rfl, h⟩

private theorem map_eq_ok {x : Except DecodeError α} {f : α → β} {b : β} (h : x.map f = .ok b) :
    ∃ a, x = .ok a ∧ f a = b := by
  cases x with
  | error e => cases h
  | ok a => exact ⟨a, rfl, Except.ok.inj h⟩

/-- The record is built to a value from the fields of a document. -/
def Record.BuildsFrom (r : Record α) (fields : List String) (v : Json) (a : α) : Prop :=
  ∃ missing, r.build { source := .value }
    (fun name => (v.fieldOf? fields name).map fun w => .ofJson w.canonical) missing = .ok a

/-- Members are looked up in the canonical form of an object as its fields are. -/
private theorem lookMember_canonical (ms : List (String × Json)) (name : String) :
    Record.lookMember (Draft.ofMembers (sortMembers (canonicalMembers ms))) name =
      ((Json.obj ms).fieldOf? fields name).map fun w => .ofJson w.canonical := by
  have hlook (ms' : List (String × Json)) : Record.lookMember (Draft.ofMembers ms') name =
      (ms'.find? (·.1 = name)).map fun m => .ofJson m.2 := by
    rw [Draft.ofMembers_eq_map, Record.lookMember, List.find?_map, Option.map_map]
    rfl
  rw [hlook, find?_sortMembers, canonicalMembers_eq_map, ← List.map_reverse, List.find?_map, fieldOf?, Option.map_map,
    Option.map_map]
  rfl

/-- Items are looked up in the canonical form of an array as its fields are. -/
private theorem lookItem_canonical (fs : List Field) (items : List Json) (name : String) :
    Record.lookItem fs (Draft.ofItems (canonicalItems items)) name =
      ((Json.arr items).fieldOf? (fs.map (·.name)) name).map fun w => .ofJson w.canonical := by
  rw [Draft.ofItems_eq_map, canonicalItems_eq_map, List.map_map, Record.lookItem, fieldOf?, List.zip_map_right,
    List.zip_map_left, List.find?_map, List.find?_map, Option.map_map, Option.map_map, Option.map_map]
  rfl

/-- A decoded record is built from the fields of its document, which has room in them. -/
theorem Record.buildsFrom_of_ofJson {r : Record α} {title : String} (h : (r.decoder title).ofJson v = .ok a) :
    r.BuildsFrom (r.fields.map (·.name)) v a ∧ v.HasRoomIn (r.fields.map (·.name)) := by
  rw [Decoder.ofJson] at h
  cases v with
  | obj ms =>
    change r.ofMembers _ (Draft.ofMembers (sortMembers (canonicalMembers ms))) = _ at h
    rw [ofMembers] at h
    obtain ⟨_, -, hbuild⟩ := bind_eq_ok h
    refine ⟨⟨.missingField, ?_⟩, trivial⟩
    simpa only [← lookMember_canonical] using hbuild
  | arr items =>
    change (r.build _ (lookItem r.fields (Draft.ofItems (canonicalItems items))) _ >>= fun a =>
      checkLength _ r.fields (Draft.ofItems (canonicalItems items)) >>= fun _ => .ok a) = _ at h
    obtain ⟨b, hbuild, hlast⟩ := bind_eq_ok h
    obtain ⟨_, hcheck, hb⟩ := bind_eq_ok hlast
    cases hb
    refine ⟨⟨tooShort title r.fields, ?_⟩, ?_⟩
    · simpa only [← lookItem_canonical] using hbuild
    · rw [checkLength, Draft.ofItems_eq_map, canonicalItems_eq_map, List.length_map, List.length_map] at hcheck
      split at hcheck
      · next hlength => rwa [HasRoomIn, List.length_map]
      · cases hcheck
  | _ => cases h

namespace Record.BuildsFrom

theorem pure {b : α} (h : (Record.pure b).BuildsFrom fields v a) : a = b := by
  obtain ⟨_, h⟩ := h
  exact (Except.ok.inj h).symm

/-- The last field is there, is decoded, and the rest is built as well. -/
theorem required {r : Record (β → α)} {name : String} {dec : Decoder β}
    (h : (r.required name dec).BuildsFrom fields v a) :
    ∃ f b w, a = f b ∧ r.BuildsFrom fields v f ∧ v.fieldOf? fields name = some w ∧ dec.ofJson w = .ok b := by
  obtain ⟨missing, h⟩ := h
  obtain ⟨f, hrest, hlast⟩ := bind_eq_ok h
  cases hw : v.fieldOf? fields name with
  | none =>
    simp only [hw, Option.map_none] at hlast
    cases hlast
  | some w =>
    simp only [hw, Option.map_some] at hlast
    obtain ⟨b, hb, hfb⟩ := map_eq_ok hlast
    exact ⟨f, b, w, hfb.symm, ⟨missing, hrest⟩, rfl, hb⟩

/-- The last field may be absent; if it is there, it is decoded. -/
theorem optional_iff {r : Record (β → α)} {name : String} {dec : Decoder β} {default : β} :
    (r.optional name dec default).BuildsFrom fields v a ↔
      ∃ f b, a = f b ∧ r.BuildsFrom fields v f ∧ v.TellsOf fields name (fun w b => dec.ofJson w = .ok b) default b := by
  constructor
  · rintro ⟨missing, h⟩
    obtain ⟨f, hrest, hlast⟩ := bind_eq_ok h
    cases hw : v.fieldOf? fields name with
    | none =>
      simp only [hw, Option.map_none] at hlast
      cases hlast
      exact ⟨f, default, rfl, ⟨missing, hrest⟩, by rw [TellsOf, hw]⟩
    | some w =>
      simp only [hw, Option.map_some] at hlast
      obtain ⟨b, hb, hfb⟩ := map_eq_ok hlast
      exact ⟨f, b, hfb.symm, ⟨missing, hrest⟩, by rw [TellsOf, hw]; exact hb⟩
  · rintro ⟨f, b, rfl, ⟨missing, hrest⟩, htells⟩
    refine ⟨missing, ?_⟩
    change (r.build _ _ missing >>= _) = _
    rw [hrest]
    rw [TellsOf] at htells
    cases hw : v.fieldOf? fields name with
    | none =>
      rw [hw] at htells
      simp only [hw, Option.map_none]
      exact congrArg (fun b => Except.ok (f b)) htells.symm
    | some w =>
      rw [hw] at htells
      simp only [hw, Option.map_some]
      exact congrArg (Except.map f) htells

/-- A record without fields is built from every document. -/
theorem self (a : α) : (Record.pure a).BuildsFrom fields v a := ⟨.missingField, rfl⟩

/-- A field that may be absent is added to what is built. -/
theorem add {r : Record (β → α)} {f : β → α} {name : String} {dec : Decoder β} {default b : β}
    (h : r.BuildsFrom fields v f) (hb : v.TellsOf fields name (fun w b => dec.ofJson w = .ok b) default b) :
    (r.optional name dec default).BuildsFrom fields v (f b) := optional_iff.2 ⟨f, b, rfl, h, hb⟩

/-- Before a field that may be absent the rest is built. -/
theorem optional {r : Record (β → α)} {name : String} {dec : Decoder β} {default : β}
    (h : (r.optional name dec default).BuildsFrom fields v a) : ∃ f b, a = f b ∧ r.BuildsFrom fields v f := by
  obtain ⟨f, b, hfb, hrest, -⟩ := optional_iff.1 h
  exact ⟨f, b, hfb, hrest⟩

end Record.BuildsFrom

/-! ### From the fields to the record -/

/-- A record that is built has had each of its fields pass, and how an absent one is refused plays no part. -/
structure Record.Sound (r : Record α) : Prop where
  checks : ∀ {c : Context} {look : String → Option Draft} {missing : String → DecodeError} {a : α},
    r.build c look missing = .ok a → ∀ f ∈ r.fields, ∀ d, look f.name = some d → f.check c d = .ok ()
  anyway : ∀ {c : Context} {look : String → Option Draft} {missing : String → DecodeError} {a : α},
    r.build c look missing = .ok a → ∀ missing', r.build c look missing' = .ok a

namespace Record.Sound

theorem pure (a : α) : (Record.pure a).Sound := ⟨fun _ _ hf _ _ => (nomatch hf), fun h _ => h⟩

theorem optional {r : Record (β → α)} (h : r.Sound) (name : String) (dec : Decoder β) (default : β) :
    (r.optional name dec default).Sound := by
  refine ⟨fun {c look missing a} hbuild f hf d hd => ?_, fun {c look missing a} hbuild missing' => ?_⟩
  · obtain ⟨g, hrest, hlast⟩ := bind_eq_ok hbuild
    rcases List.mem_append.1 hf with hf | hf
    · exact h.checks hrest f hf d hd
    · cases List.mem_singleton.1 hf
      rw [show look name = some d from hd] at hlast
      obtain ⟨b, hb, -⟩ := map_eq_ok hlast
      exact congrArg (Except.map fun _ => ()) hb
  · obtain ⟨g, hrest, hlast⟩ := bind_eq_ok hbuild
    change (r.build c look missing' >>= _) = _
    rw [h.anyway hrest missing']
    exact hlast

/-- A record comes out of a document that has room in its fields exactly if it is built from them. -/
theorem ofJson_eq_ok_iff {r : Record α} (h : r.Sound) {title : String} :
    (r.decoder title).ofJson v = .ok a ↔
      r.BuildsFrom (r.fields.map (·.name)) v a ∧ v.HasRoomIn (r.fields.map (·.name)) := by
  refine ⟨buildsFrom_of_ofJson, ?_⟩
  rintro ⟨⟨missing, hbuild⟩, hroom⟩
  cases v with
  | obj ms =>
    set sorted := sortMembers (canonicalMembers ms) with hsorted
    have hnames : (sorted.map (·.1)).Nodup := (ascending_sortMembers _).nodup_names
    simp only [← lookMember_canonical, ← hsorted] at hbuild
    have hcheck : checkMembers r.fields { source := .value } [] (Draft.ofMembers sorted) = .ok () := by
      refine checkMembers_eq_ok hnames (fun _ _ h => nomatch h) fun m hm f hf => ?_
      have hname : f.name = m.1 := by simpa using List.find?_some hf
      refine h.checks hbuild f (List.mem_of_find?_eq_some hf) _ ?_
      rw [hname]
      exact lookMember_ofMembers hnames hm
    change (checkMembers r.fields _ [] (Draft.ofMembers sorted) >>= fun _ => r.build _ _ _) = _
    rw [hcheck]
    exact h.anyway hbuild _
  | arr items =>
    simp only [← lookItem_canonical] at hbuild
    have hlength : (Draft.ofItems (canonicalItems items)).length ≤ r.fields.length := by
      rw [Draft.ofItems_eq_map, canonicalItems_eq_map, List.length_map, List.length_map]
      simpa [HasRoomIn] using hroom
    have hcheck : checkLength { source := .value } r.fields (Draft.ofItems (canonicalItems items)) = .ok () :=
      if_pos hlength
    change (r.build _ (lookItem r.fields (Draft.ofItems (canonicalItems items))) _ >>= fun a =>
      checkLength _ r.fields (Draft.ofItems (canonicalItems items)) >>= fun _ => .ok a) = _
    rw [h.anyway hbuild]
    change (checkLength _ r.fields (Draft.ofItems (canonicalItems items)) >>= fun _ => .ok a) = _
    rw [hcheck]
    rfl
  | _ => exact hroom.elim

end Record.Sound

end GridGateway.Json
