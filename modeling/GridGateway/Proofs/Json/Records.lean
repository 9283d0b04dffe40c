import GridGateway.Proofs.Json.ReadBack

/-!
# Records that are read back

A record reads a value back from the members of an object if the members are those of its fields, each field reads
the value of its member back, and the record is built from the values (`Record.Reads`). This is shown field by
field, as the record is put together, and gives that the object is read back (`Record.Reads.decoder`). The names of
the members have to be different; their order does not matter.
-/

namespace GridGateway.Json

/-- The record is read back from the members of its fields, with containers nested at most `levels` deep. -/
structure Record.Reads {α : Type} (r : Record α) (levels : Nat) (ms : List (String × Json)) (a : α) : Prop where
  fits : ∀ m ∈ ms, m.2.Fits levels
  fields : List.Forall₂ (fun (f : Field) (m : String × Json) =>
    f.name = m.1 ∧ ∀ c : Context, c.Allows levels → f.check c (.ofJson m.2) = .ok ()) r.fields ms
  build : ∀ c : Context, c.Allows levels → ∀ look : String → Option Draft,
    (∀ m ∈ ms, look m.1 = some (.ofJson m.2)) → ∀ missing, r.build c look missing = .ok a

/-- Members with names and drafts, as an object holds them. -/
def Draft.named (ms : List (String × Draft)) : List (Draft × Draft) := ms.map fun m => (.str m.1, m.2)

/-- A member is found by its name among members of different names. -/
theorem Record.lookMember_named {ms : List (String × Draft)} (hnames : (ms.map (·.1)).Nodup) {m : String × Draft}
    (hm : m ∈ ms) : Record.lookMember (Draft.named ms) m.1 = some m.2 := by
  induction ms with
  | nil => cases hm
  | cons m' ms ih =>
    rw [List.map_cons, List.nodup_cons] at hnames
    rcases List.mem_cons.mp hm with rfl | hm
    · simp [Record.lookMember, Draft.named]
    · have hne : m'.1 ≠ m.1 := fun e => hnames.1 (e ▸ List.mem_map_of_mem hm)
      have hrest := ih hnames.2 hm
      simpa [Record.lookMember, Draft.named, hne] using hrest

private theorem Draft.ofMembers_eq_named (ms : List (String × Json)) :
    Draft.ofMembers ms = Draft.named (ms.map fun m => (m.1, .ofJson m.2)) := by
  rw [Draft.ofMembers_eq_map, Draft.named, List.map_map]
  rfl

theorem Record.lookMember_ofMembers {ms : List (String × Json)} (hnames : (ms.map (·.1)).Nodup) {m : String × Json}
    (hm : m ∈ ms) : Record.lookMember (Draft.ofMembers ms) m.1 = some (.ofJson m.2) := by
  have hnames' : ((ms.map fun m => (m.1, Draft.ofJson m.2)).map (·.1)).Nodup := by rwa [List.map_map]
  rw [Draft.ofMembers_eq_named]
  exact lookMember_named hnames' (List.mem_map_of_mem hm)

mutual
/-- A part of a sound document can be skipped. -/
private theorem Draft.skippable_ofJson : (v : Json) → (ofJson v).skippable = true
  | .null => rfl
  | .bool _ => rfl
  | .int _ => rfl
  | .float _ => rfl
  | .str _ => rfl
  | .arr vs => by rw [ofJson, skippable, skippableItems_ofItems vs]
  | .obj ms => by rw [ofJson, skippable, skippableMembers_ofMembers ms]

private theorem Draft.skippableItems_ofItems : (vs : List Json) → skippableItems (ofItems vs) = true
  | [] => rfl
  | v :: vs => by rw [ofItems, skippableItems, skippable_ofJson v, skippableItems_ofItems vs, Bool.and_self]

private theorem Draft.skippableMembers_ofMembers : (ms : List (String × Json)) → skippableMembers (ofMembers ms) = true
  | [] => rfl
  | (k, v) :: ms => by
    have hname : (Draft.str k).skippable = true := rfl
    rw [ofMembers, skippableMembers, hname, skippable_ofJson v, skippableMembers_ofMembers ms, Bool.and_self,
      Bool.and_self]
end

/-- Members of different names pass if each one that is a field is sound. -/
theorem Record.checkMembers_eq_ok {fields : List Field} {c : Context} {ms : List (String × Json)} {seen : List String}
    (hnames : (ms.map (·.1)).Nodup) (hseen : ∀ m ∈ ms, m.1 ∉ seen)
    (hfields : ∀ m ∈ ms, ∀ f, fields.find? (·.name = m.1) = some f → f.check c (.ofJson m.2) = .ok ()) :
    Record.checkMembers fields c seen (Draft.ofMembers ms) = .ok () := by
  induction ms generalizing seen with
  | nil => rfl
  | cons m ms ih =>
    rw [List.map_cons, List.nodup_cons] at hnames
    have hrest (seen' : List String) (hseen' : ∀ m' ∈ ms, m'.1 ∉ seen') :
        Record.checkMembers fields c seen' (Draft.ofMembers ms) = .ok () :=
      ih hnames.2 hseen' fun m' hm' => hfields m' (List.mem_cons_of_mem _ hm')
    have hlater : ∀ m' ∈ ms, m'.1 ∉ seen := fun m' hm' => hseen m' (List.mem_cons_of_mem _ hm')
    rw [Draft.ofMembers, Record.checkMembers]
    cases hfind : fields.find? (·.name = m.1) with
    | none => simp only [Draft.skippable_ofJson, ↓reduceIte, hrest seen hlater]
    | some f =>
      have hseen' : ∀ m' ∈ ms, m'.1 ∉ m.1 :: seen := by
        intro m' hm' hmem
        rcases List.mem_cons.mp hmem with e | hmem
        · exact hnames.1 (e ▸ List.mem_map_of_mem hm')
        · exact hlater m' hm' hmem
      have hcheck := hfields m List.mem_cons_self f hfind
      simp only [hseen m List.mem_cons_self, ↓reduceIte, hcheck, hrest _ hseen']
      rfl

namespace Record.Reads

variable {levels : Nat} {α β : Type} {ms : List (String × Json)}

theorem pure (a : α) : (Record.pure a).Reads levels [] a :=
  ⟨fun _ h => (nomatch h), .nil, fun _ _ _ _ _ => rfl⟩

/-- One more field reads one more member. -/
theorem field {r : Record (β → α)} {f : β → α} {name : String} {dec : Decoder β} {default : Option β} {v : Json}
    {b : β}
    (h : r.Reads levels ms f) (hv : dec.Reads levels v b) :
    (r.field name dec default).Reads levels (ms ++ [(name, v)]) (f b) := by
  refine ⟨fun m hm => ?_, ?_, fun c hc look hlook missing => ?_⟩
  · rcases List.mem_append.mp hm with hm | hm
    · exact h.fits m hm
    · rw [List.mem_singleton.mp hm]
      exact hv.fits
  · refine List.rel_append h.fields (.cons ⟨rfl, fun c hc => ?_⟩ .nil)
    change (dec c (.ofJson v)).map _ = _
    rw [hv.reads c hc]
    rfl
  · have hbuild := h.build c hc look (fun m hm => hlook m (List.mem_append_left _ hm)) missing
    have hfound := hlook (name, v) (List.mem_append_right _ (List.mem_singleton.mpr rfl))
    simp only [Record.field, hbuild, hfound]
    change (dec c (.ofJson v)).map f = _
    rw [hv.reads c hc]
    rfl

theorem required {r : Record (β → α)} {f : β → α} {name : String} {dec : Decoder β} {v : Json} {b : β}
    (h : r.Reads levels ms f) (hv : dec.Reads levels v b) :
    (r.required name dec).Reads levels (ms ++ [(name, v)]) (f b) := h.field hv

theorem optional {r : Record (β → α)} {f : β → α} {name : String} {dec : Decoder β} {default : β} {v : Json} {b : β}
    (h : r.Reads levels ms f) (hv : dec.Reads levels v b) :
    (r.optional name dec default).Reads levels (ms ++ [(name, v)]) (f b) := h.field hv

variable {r : Record α} {a : α}

/-- The members and the value may be spelled differently than the fields spell them. -/
theorem of_eq {r' : Record α} {ms' : List (String × Json)} {a' : α} (h : r'.Reads levels ms' a') (hr : r = r')
    (hms : ms = ms') (ha : a = a') : r.Reads levels ms a := by
  subst hr hms ha
  exact h

theorem fields_names (h : r.Reads levels ms a) : r.fields.map (·.name) = ms.map (·.1) := by
  have hfields := h.fields
  clear h
  generalize r.fields = fields at hfields
  induction hfields with
  | nil => rfl
  | cons hm _ ih => rw [List.map_cons, List.map_cons, hm.1, ih]

/-- Every member is found among the fields and passes the check of its field. -/
private theorem find_field {fields : List Field} {c : Context} (hc : c.Allows levels)
    (hfields : List.Forall₂ (fun (f : Field) (m : String × Json) =>
      f.name = m.1 ∧ ∀ c : Context, c.Allows levels → f.check c (.ofJson m.2) = .ok ()) fields ms)
    (hnames : (ms.map (·.1)).Nodup) {m : String × Json} (hm : m ∈ ms) :
    ∃ f, fields.find? (·.name = m.1) = some f ∧ f.check c (.ofJson m.2) = .ok () := by
  induction hfields with
  | nil => cases hm
  | @cons f m' fields ms hf _ ih =>
    rw [List.map_cons, List.nodup_cons] at hnames
    rcases List.mem_cons.mp hm with rfl | hm
    · exact ⟨f, List.find?_cons_of_pos (by simpa using hf.1), hf.2 c hc⟩
    · have hne : f.name ≠ m.1 := fun e => hnames.1 (hf.1 ▸ e ▸ List.mem_map_of_mem hm)
      obtain ⟨g, hfind, hcheck⟩ := ih hnames.2 hm
      exact ⟨g, by rw [List.find?_cons_of_neg (by simpa using hne), hfind], hcheck⟩

/-- A record is read back from the members of its fields, which may stand in any order. -/
theorem ofMembers (h : r.Reads levels ms a) (hnames : (ms.map (·.1)).Nodup) {c : Context} (hc : c.Allows levels)
    {ms' : List (String × Json)} (hperm : ms'.Perm ms) : r.ofMembers c (Draft.ofMembers ms') = .ok a := by
  have hnames' : (ms'.map (·.1)).Nodup := (hperm.map _).nodup_iff.mpr hnames
  have hcheck : Record.checkMembers r.fields c [] (Draft.ofMembers ms') = .ok () := by
    refine Record.checkMembers_eq_ok hnames' (fun _ _ h => (nomatch h)) fun m hm f hf => ?_
    obtain ⟨g, hg, hcheck⟩ := find_field hc h.fields hnames (hperm.mem_iff.mp hm)
    obtain rfl : g = f := Option.some.inj (hg.symm.trans hf)
    exact hcheck
  have hbuild := h.build c hc (Record.lookMember (Draft.ofMembers ms'))
    (fun m hm => Record.lookMember_ofMembers hnames' (hperm.mem_iff.mpr hm)) .missingField
  rw [Record.ofMembers, hcheck]
  exact hbuild

/-- A record is read back from the object of its fields, which may stand in any order. -/
theorem decoder_of_perm (h : r.Reads levels ms a) (hnames : (ms.map (·.1)).Nodup) {ms' : List (String × Json)}
    (hperm : ms'.Perm ms) {title : String} : (r.decoder title).Reads (levels + 1) (.obj ms') a := by
  refine ⟨Fits.obj fun m hm => h.fits m (hperm.mem_iff.mp hm), fun c hc => ?_⟩
  obtain ⟨c', henter, -, hc'⟩ := hc.enter
  simp only [Draft.ofJson, Record.decoder, henter]
  exact h.ofMembers hnames hc' hperm

/-- A record is read back from the object of its fields. -/
theorem decoder (h : r.Reads levels ms a) (hnames : (ms.map (·.1)).Nodup) {title : String} :
    (r.decoder title).Reads (levels + 1) (.obj ms) a := h.decoder_of_perm hnames (.refl _)

end Record.Reads

end GridGateway.Json
