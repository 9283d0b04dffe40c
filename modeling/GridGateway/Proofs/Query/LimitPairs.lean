import GridGateway.Proofs.Query.Refusals

/-!
# What pairs say about a limit

Each of the four fields of a limit comes to the last text with its key that is understood (`Limit.eq_said`).  Page and
size refuse what they do not understand, so that there the last text counts.  A flag passes over such texts, so that a
word that is neither `true` nor `false` does not undo a flag before it: of the pairs of a flag's key the last one alone
does not say what all of them say (`Limit.flags_pass_over_other_words`).
-/

namespace GridGateway.Query.Limit

open Params (Field)

variable {l l' : Limit} {ps : List (String × String)}

/-- The limit after a pair that is not refused: the field of its key takes over what is understood of the text. -/
def entered (l : Limit) (pair : String × String) : Limit where
  page := if pair.1 = "page" then (Text.uint64? pair.2).getD l.page else l.page
  size := if pair.1 = "size" then (Text.uint64? pair.2).getD l.size else l.size
  retCount := if pair.1 = "ret_count" then (readFlag pair.2).getD l.retCount else l.retCount
  randomize := if pair.1 = "randomize" then (readFlag pair.2).getD l.randomize else l.randomize

private theorem eq_entered_of_step {pair : String × String} (h : Params.step l pair = .ok l') :
    l' = l.entered pair := by
  obtain ⟨key, raw⟩ := pair
  change (assign l key raw).map _ = _ at h
  rw [assign] at h
  split at h
  · next hkey =>
    cases hn : readPositive key raw with
    | error e => rw [hn] at h; cases h
    | ok n => rw [hn] at h; cases h; simp [entered, hkey, (readPositive_eq_ok hn).1]
  split at h
  · next hkey =>
    cases hn : readPositive key raw with
    | error e => rw [hn] at h; cases h
    | ok n => rw [hn] at h; cases h; simp [entered, hkey, (readPositive_eq_ok hn).1]
  split at h
  · next hkey => cases h; simp [entered, hkey]
  split at h
  · next hkey => cases h; simp [entered, hkey]
  · next hpage hsize hcount hrandom => cases h; simp [entered, hpage, hsize, hcount, hrandom]

private theorem field_of_entered {α : Type} {key : String} {get : Limit → α} {read? : String → Option α}
    (h : ∀ l pair, get (l.entered pair) = if pair.1 = key then (read? pair.2).getD (get l) else get l) :
    Field key get fun raw held => (read? raw).getD held where
  own l l' raw hstep := by rw [eq_entered_of_step hstep, h, if_pos rfl]
  kept l l' pair hne hstep := by rw [eq_entered_of_step hstep, h, if_neg hne]

theorem page_field : Field "page" page fun raw held => (Text.uint64? raw).getD held :=
  field_of_entered fun _ _ => rfl

theorem size_field : Field "size" size fun raw held => (Text.uint64? raw).getD held :=
  field_of_entered fun _ _ => rfl

theorem retCount_field : Field "ret_count" retCount fun raw held => (readFlag raw).getD held :=
  field_of_entered fun _ _ => rfl

theorem randomize_field : Field "randomize" randomize fun raw held => (readFlag raw).getD held :=
  field_of_entered fun _ _ => rfl

/-- What pairs say about a limit. -/
def said (ps : List (String × String)) : Limit where
  page := (lastRead? Text.uint64? "page" ps).getD defaultPage
  size := (lastRead? Text.uint64? "size" ps).getD defaultSize
  retCount := (lastRead? readFlag "ret_count" ps).getD false
  randomize := (lastRead? readFlag "randomize" ps).getD false

theorem eq_said (h : Params.ofPairs ps = .ok l) : l = said ps := by
  obtain ⟨page, size, retCount, randomize⟩ := l
  rw [said, Limit.mk.injEq]
  exact ⟨page_field.eq_lastRead h, size_field.eq_lastRead h, retCount_field.eq_lastRead h,
    randomize_field.eq_lastRead h⟩

/-- Pairs without a fault are all taken in. -/
theorem ofPairs_eq_ok_iff : Params.ofPairs ps = .ok l ↔ (∀ pair ∈ ps, fault? pair = none) ∧ l = said ps := by
  constructor
  · exact fun h => ⟨judges_limit.exists_ofPairs_iff.1 ⟨l, h⟩, eq_said h⟩
  · rintro ⟨hfault, rfl⟩
    obtain ⟨l, hl⟩ := judges_limit.exists_ofPairs_iff.2 hfault
    rw [hl, eq_said hl]

/-! ### Repeated keys -/

/-- A limit does not pass over the text of the pair. -/
def isRead (pair : String × String) : Bool :=
  if pair.1 = "ret_count" ∨ pair.1 = "randomize" then (readFlag pair.2).isSome else true

/-- Pairs that a limit takes in have numbers for page and size. -/
private theorem isSome_uint64?_of_mem {key raw : String} (hkey : key = "page" ∨ key = "size") (h : (key, raw) ∈ ps)
    (hfault : ∀ pair ∈ ps, fault? pair = none) : (Text.uint64? raw).isSome = true := by
  have hnone := hfault _ h
  rw [fault?, if_pos hkey] at hnone
  split at hnone
  · cases hnone
  · rw [numberFault?] at hnone
    by_contra hraw
    rw [if_neg hraw] at hnone
    cases hnone

/-- What the last pair of each key says about a limit. -/
private theorem said_lastOfEach (hfault : ∀ pair ∈ ps, fault? pair = none) :
    said (lastOfEach ps) = { said ps with
      retCount := decide (lastText? "ret_count" ps = some "true")
      randomize := decide (lastText? "randomize" ps = some "true") } := by
  have hnumber {key : String} (hkey : key = "page" ∨ key = "size") :
      (lastText? key ps).bind Text.uint64? = lastRead? Text.uint64? key ps :=
    (lastRead?_eq_bind fun raw hraw => isSome_uint64?_of_mem hkey (mem_textsOf.1 hraw) hfault).symm
  have hflag (key : String) :
      ((lastText? key ps).bind readFlag).getD false = decide (lastText? key ps = some "true") := by
    cases lastText? key ps with
    | none => rfl
    | some raw =>
      rw [Option.bind_some, readFlag]
      by_cases htrue : raw = "true"
      · rw [if_pos htrue, htrue]; rfl
      · rw [if_neg htrue, decide_eq_false (by simpa using htrue)]
        split <;> rfl
  simp only [said, lastRead?_lastOfEach, hnumber (.inl rfl), hnumber (.inr rfl), hflag]

/-- When the pairs that a limit passes over are left out, the last pair of each key says what all of them say. -/
private theorem said_lastOfEach_filter (hfault : ∀ pair ∈ ps, fault? pair = none) :
    said (lastOfEach (ps.filter isRead)) = said ps := by
  have hnumber {key : String} (hkey : key = "page" ∨ key = "size") :
      (lastText? key (ps.filter isRead)).bind Text.uint64? = lastRead? Text.uint64? key ps := by
    have hread : ∀ raw, isRead (key, raw) = true := by
      rcases hkey with rfl | rfl <;> exact fun _ => rfl
    rw [← lastRead?_eq_bind fun raw hraw =>
      isSome_uint64?_of_mem hkey (List.mem_filter.1 (mem_textsOf.1 hraw)).1 hfault]
    exact lastRead?_filter (fun raw hout => absurd hout (by simp [hread])) ps
  have hflag {key : String} (hkey : key = "ret_count" ∨ key = "randomize") :
      (lastText? key (ps.filter isRead)).bind readFlag = lastRead? readFlag key ps := by
    have hread : ∀ raw, isRead (key, raw) = (readFlag raw).isSome := fun _ => if_pos hkey
    rw [← lastRead?_eq_bind fun raw hraw => hread raw ▸ (List.mem_filter.1 (mem_textsOf.1 hraw)).2]
    exact lastRead?_filter (fun raw hout => Option.not_isSome_iff_eq_none.1 (by simpa [hread] using hout)) ps
  simp only [said, lastRead?_lastOfEach, hnumber (.inl rfl), hnumber (.inr rfl), hflag (.inl rfl), hflag (.inr rfl)]

/-- Of pairs that a limit takes in, the last one of each key says what all of them say, once the flags with another word
than `true` and `false` are left out.  If these are kept, page and size are the same, but a flag is set only if the last
word for it is `true`. -/
theorem flags_pass_over_other_words (ps : List (String × String)) (l : Limit) (h : Params.ofPairs ps = .ok l) :
    Params.ofPairs (lastOfEach (ps.filter isRead)) = .ok l ∧
    Params.ofPairs (lastOfEach ps) = .ok { l with
      retCount := decide (lastText? "ret_count" ps = some "true")
      randomize := decide (lastText? "randomize" ps = some "true") } := by
  obtain ⟨hfault, rfl⟩ := ofPairs_eq_ok_iff.1 h
  have hpart {qs : List (String × String)} (hqs : qs.Sublist ps) : ∀ pair ∈ qs, fault? pair = none :=
    fun pair hpair => hfault pair (hqs.subset hpair)
  constructor
  · rw [ofPairs_eq_ok_iff]
    exact ⟨hpart ((lastOfEach_sublist _).trans List.filter_sublist), (said_lastOfEach_filter hfault).symm⟩
  · rw [ofPairs_eq_ok_iff]
    exact ⟨hpart (lastOfEach_sublist ps), (said_lastOfEach hfault).symm⟩

/-- The second page replaces the first one, the second word for the flag is passed over. -/
theorem yes_passed_over :
    Params.ofPairs [("page", "2"), ("ret_count", "true"), ("ret_count", "yes"), ("page", "3")] =
      .ok ({ page := 3, retCount := true } : Limit) ∧
    Params.ofPairs [("ret_count", "true"), ("page", "3")] = .ok ({ page := 3, retCount := true } : Limit) ∧
    Params.ofPairs [("ret_count", "yes"), ("page", "3")] = .ok ({ page := 3 } : Limit) := by
  have h : Params.ofPairs [("page", "2"), ("ret_count", "true"), ("ret_count", "yes"), ("page", "3")] =
      .ok ({ page := 3, retCount := true } : Limit) := by decide
  exact ⟨h, flags_pass_over_other_words _ _ h⟩

/-- The last pair of a key alone does not say what all of them say. -/
theorem last_word_does_not_decide :
    Params.ofPairs [("ret_count", "true"), ("ret_count", "yes")] = .ok ({ retCount := true } : Limit) ∧
    Params.ofPairs (lastOfEach [("ret_count", "true"), ("ret_count", "yes")]) ≠ .ok ({ retCount := true } : Limit) := by
  decide

end GridGateway.Query.Limit
