import GridGateway.Proofs.Json.Records

/-!
# What a record comes to

A record whose fields are the members of an object, in their order, comes to what the fields come to, one after the
other (`Record.Gives`): the value that is built of theirs, or the first of their faults.  Other than `Record.Reads` this
leaves room for doubles, whose text may be read as another double or not at all.
-/

namespace GridGateway.Json

variable {read : Float → Draft}

/-! ### Checks one after the other -/

theorem draftMembers_eq_named (ms : List (String × Json)) :
    draftMembers read ms = Draft.named (ms.map fun m => (m.1, m.2.draft read)) := by
  induction ms with
  | nil => rfl
  | cons m ms ih => rw [draftMembers, ih, List.map_cons, Draft.named, Draft.named, List.map_cons]

/-- The draft of a member is found by its name. -/
private theorem Record.lookMember_draftMembers {ms : List (String × Json)} (hnames : (ms.map (·.1)).Nodup)
    {m : String × Json} (hm : m ∈ ms) : Record.lookMember (draftMembers read ms) m.1 = some (m.2.draft read) := by
  have hnames' : ((ms.map fun m => (m.1, m.2.draft read)).map (·.1)).Nodup := by rwa [List.map_map]
  rw [draftMembers_eq_named]
  exact lookMember_named hnames' (List.mem_map_of_mem hm)

theorem boundedMembers_iff {ms : List (String × Json)} : BoundedMembers ms ↔ ∀ m ∈ ms, m.2.Bounded := by
  induction ms with
  | nil => simp [BoundedMembers]
  | cons m ms ih => simp [BoundedMembers, ih]

/-- Fields that are checked against drafts, one after the other. -/
def checkEach (c : Context) : List Field → List Draft → Except DecodeError Unit
  | f :: fs, d :: ds => do
    f.check c d
    checkEach c fs ds
  | _, _ => .ok ()

private theorem checkEach_append {c : Context} {fs : List Field} {ds : List Draft} (h : fs.length = ds.length)
    (f : Field) (d : Draft) : checkEach c (fs ++ [f]) (ds ++ [d]) = (checkEach c fs ds >>= fun _ => f.check c d) := by
  induction fs generalizing ds with
  | nil =>
    obtain rfl := List.length_eq_zero_iff.mp h.symm
    exact bind_pure (f.check c d)
  | cons f' fs ih =>
    cases ds with
    | nil => cases h
    | cons d' ds =>
      rw [List.cons_append, List.cons_append, checkEach, checkEach, ih (Nat.succ.inj h), bind_assoc]

/-- Members that stand for the fields after the first ones are checked one after the other. -/
private theorem checkMembers_named {c : Context} {before fs : List Field} {ms : List (String × Json)}
    (hnodup : ((before ++ fs).map (·.name)).Nodup) (hnames : fs.map (·.name) = ms.map (·.1)) :
    Record.checkMembers (before ++ fs) c (before.map (·.name)).reverse (draftMembers read ms) =
      checkEach c fs (ms.map (·.2.draft read)) := by
  induction fs generalizing before ms with
  | nil =>
    obtain rfl := List.map_eq_nil_iff.mp hnames.symm
    rfl
  | cons f fs ih =>
    obtain ⟨m, ms, rfl⟩ := List.exists_cons_of_ne_nil (l := ms) (by rintro rfl; cases hnames)
    obtain ⟨hname, hrest⟩ := List.cons.inj hnames
    dsimp only at hname hrest
    have hnew : f.name ∉ before.map (·.name) := by
      rw [List.map_append, List.nodup_append] at hnodup
      exact fun hmem => hnodup.2.2 _ hmem _ List.mem_cons_self rfl
    have hfind : (before ++ f :: fs).find? (·.name = m.1) = some f := by
      rw [List.find?_append, List.find?_eq_none.mpr, Option.none_or, List.find?_cons_of_pos (by simpa using hname)]
      rintro f' hf' hname'
      exact hnew (List.mem_map.mpr ⟨f', hf', by simpa [hname] using hname'⟩)
    have hlater : Record.checkMembers (before ++ [f] ++ fs) c ((before ++ [f]).map (·.name)).reverse
        (draftMembers read ms) = checkEach c fs (ms.map (·.2.draft read)) := ih (by rwa [List.append_assoc]) hrest
    rw [List.append_assoc, List.map_append, List.reverse_append] at hlater
    rw [draftMembers, Record.checkMembers, hfind]
    dsimp only
    rw [if_neg (by rwa [List.mem_reverse, ← hname]), ← hname]
    exact congrArg (f.check c (m.2.draft read) >>= fun _ => ·) hlater

/-! ### Records -/

/-- The record comes to the result on members that are its fields, in their order, where doubles are read as `read`
says. -/
structure Record.Gives {α : Type} (r : Record α) (read : Float → Draft) (c : Context) (ms : List (String × Json))
    (result : Except DecodeError α) : Prop where
  bounded : ∀ m ∈ ms, m.2.Bounded
  names : r.fields.map (·.name) = ms.map (·.1)
  checks : checkEach c r.fields (ms.map (·.2.draft read)) = result.map fun _ => ()
  build : ∀ look : String → Option Draft, (∀ m ∈ ms, look m.1 = some (m.2.draft read)) →
    ∀ missing, r.build c look missing = result

namespace Record.Gives

variable {α β : Type} {c : Context} {ms : List (String × Json)}

theorem pure (a : α) : (Record.pure a).Gives read c [] (.ok a) :=
  ⟨fun _ h => (nomatch h), rfl, rfl, fun _ _ _ => rfl⟩

/-- One more field comes into play once the fields before it are read. -/
theorem field {r : Record (β → α)} {f : Except DecodeError (β → α)} {name : String} {dec : Decoder β}
    {default : Option β} {v : Json} (h : r.Gives read c ms f) (hv : v.Bounded) :
    (r.field name dec default).Gives read c (ms ++ [(name, v)]) (f >>= fun f => (dec c (v.draft read)).map f) := by
  refine ⟨fun m hm => ?_, ?_, ?_, fun look hlook missing => ?_⟩
  · rcases List.mem_append.mp hm with hm | hm
    · exact h.bounded m hm
    · rw [List.mem_singleton.mp hm]
      exact hv
  · rw [Record.field, List.map_append, List.map_append, h.names]
    rfl
  · have hlength : r.fields.length = (ms.map (·.2.draft read)).length := by simpa using congrArg List.length h.names
    rw [Record.field, List.map_append]
    refine (checkEach_append hlength _ _).trans ?_
    rw [h.checks]
    cases f with
    | error e => rfl
    | ok f =>
      change (dec c (v.draft read)).map _ = ((dec c (v.draft read)).map f).map _
      cases dec c (v.draft read) <;> rfl
  · have hbuild := h.build look (fun m hm => hlook m (List.mem_append_left _ hm)) missing
    have hfound := hlook (name, v) (List.mem_append_right _ (List.mem_singleton.mpr rfl))
    simp only [Record.field, hbuild, hfound]

/-- A field that reads its value passes it on. -/
theorem reads {r : Record (β → α)} {f : Except DecodeError (β → α)} {name : String} {dec : Decoder β} {default : β}
    {levels : Nat} {v : Json} {b : β} (h : r.Gives read c ms f) (hc : c.Allows levels) (hv : dec.Reads levels v b) :
    (r.optional name dec default).Gives read c (ms ++ [(name, v)]) (f.map (· b)) := by
  obtain ⟨hbounded, hdraft⟩ := Exact.bounded_draft read v hv.fits.exact
  have hread : dec c (v.draft read) = .ok b := by
    rw [hdraft]
    exact hv.reads c hc
  have hfield : (r.optional name dec default).Gives read c (ms ++ [(name, v)])
      (f >>= fun f => (dec c (v.draft read)).map f) := h.field hbounded
  rw [hread] at hfield
  exact hfield

variable {r : Record α} {result : Except DecodeError α}

/-- The members and the result may be spelled differently than the fields spell them. -/
theorem of_eq {r' : Record α} {ms' : List (String × Json)} {result' : Except DecodeError α}
    (h : r'.Gives read c ms' result') (hr : r = r') (hms : ms = ms') (hresult : result = result') :
    r.Gives read c ms result := by
  subst hr hms hresult
  exact h

/-- A record comes to its result on an object of its fields. -/
theorem ofMembers (h : r.Gives read c ms result) (hnodup : (ms.map (·.1)).Nodup) :
    r.ofMembers c (draftMembers read ms) = result := by
  have hchecks : Record.checkMembers r.fields c [] (draftMembers read ms) = result.map fun _ => () :=
    (@checkMembers_named read c [] _ _ (h.names ▸ hnodup) h.names).trans h.checks
  have hbuild := h.build (Record.lookMember (draftMembers read ms))
    (fun m hm => lookMember_draftMembers hnodup hm) .missingField
  rw [Record.ofMembers, hchecks, hbuild]
  cases result <;> rfl

theorem decoder {c' : Context} (henter : c'.enter = .ok c) (h : r.Gives read c ms result)
    (hnodup : (ms.map (·.1)).Nodup) (title : String) : r.decoder title c' ((Json.obj ms).draft read) = result := by
  simp only [draft, Record.decoder, henter]
  exact h.ofMembers hnodup

theorem obj_bounded (h : r.Gives read c ms result) : (Json.obj ms).Bounded := boundedMembers_iff.mpr h.bounded

end Record.Gives

end GridGateway.Json
