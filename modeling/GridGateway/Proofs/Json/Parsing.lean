import GridGateway.Proofs.Json.Canonical

/-!
# Parsing the text of a document

A document without doubles is parsed from its text in canonical form, as long as its containers are not nested too
deeply (`parse?_text`).  How deeply they are nested (`depth`) is what the check of a draft comes to
(`Draft.sound_ofJson`).  A document whose members are sorted is its own canonical form (`Sorted.canonical`), and no
canonical form has other numbers or is nested more deeply than the document (`Exact.canonical`, `depth_canonical_le`).
-/

namespace GridGateway.Json

/-! ### Sorted documents -/

mutual
/-- The members of every object of the document are in strictly ascending order of their names. -/
def Sorted : Json → Prop
  | .arr items => SortedItems items
  | .obj members => Ascending members ∧ SortedMembers members
  | _ => True

/-- `Sorted` for all items of a list. -/
def SortedItems : List Json → Prop
  | [] => True
  | v :: vs => Sorted v ∧ SortedItems vs

/-- `Sorted` for the values of all members. -/
def SortedMembers : List (String × Json) → Prop
  | [] => True
  | (_, v) :: ms => Sorted v ∧ SortedMembers ms
end

mutual
/-- A sorted document is its own canonical form. -/
theorem Sorted.canonical : (v : Json) → v.Sorted → v.canonical = v
  | .null, _ => rfl
  | .bool _, _ => rfl
  | .int _, _ => rfl
  | .float _, _ => rfl
  | .str _, _ => rfl
  | .arr vs, hv => by rw [Json.canonical, SortedItems.canonical vs hv]
  | .obj ms, hv => by rw [Json.canonical, SortedMembers.canonical ms hv.2, hv.1.sortMembers]

/-- `Sorted.canonical` for the items of a list. -/
theorem SortedItems.canonical : (vs : List Json) → SortedItems vs → canonicalItems vs = vs
  | [], _ => rfl
  | v :: vs, hvs => by rw [canonicalItems, Sorted.canonical v hvs.1, SortedItems.canonical vs hvs.2]

/-- `Sorted.canonical` for members. -/
theorem SortedMembers.canonical : (ms : List (String × Json)) → SortedMembers ms → canonicalMembers ms = ms
  | [], _ => rfl
  | (k, v) :: ms, hms => by rw [canonicalMembers, Sorted.canonical v hms.1, SortedMembers.canonical ms hms.2]
end

mutual
/-- The canonical form of a document has no other numbers than the document. -/
theorem Exact.canonical : (v : Json) → v.Exact → v.canonical.Exact
  | .null, hv => hv
  | .bool _, hv => hv
  | .int _, hv => hv
  | .str _, hv => hv
  | .arr vs, hv => ExactItems.canonical vs hv
  | .obj ms, hv => by
    have hmembers := exactMembers_iff.1 (ExactMembers.canonical ms hv)
    exact exactMembers_iff.2 fun m hm => hmembers m (mem_sortMembers hm)

/-- `Exact.canonical` for the items of a list. -/
theorem ExactItems.canonical : (vs : List Json) → ExactItems vs → ExactItems (canonicalItems vs)
  | [], _ => trivial
  | v :: vs, hvs => ⟨Exact.canonical v hvs.1, ExactItems.canonical vs hvs.2⟩

/-- `Exact.canonical` for members. -/
theorem ExactMembers.canonical : (ms : List (String × Json)) → ExactMembers ms → ExactMembers (canonicalMembers ms)
  | [], _ => trivial
  | (_, v) :: ms, hms => ⟨Exact.canonical v hms.1, ExactMembers.canonical ms hms.2⟩
end

/-! ### Nested containers -/

mutual
/-- How deeply the containers of the document are nested. -/
def depth : Json → Nat
  | .arr items => depthItems items + 1
  | .obj members => depthMembers members + 1
  | _ => 0

/-- The greatest `depth` of the items of a list. -/
def depthItems : List Json → Nat
  | [] => 0
  | v :: vs => max (depth v) (depthItems vs)

/-- The greatest `depth` of the values of members. -/
def depthMembers : List (String × Json) → Nat
  | [] => 0
  | (_, v) :: ms => max (depth v) (depthMembers ms)
end

private theorem depthMembers_le_iff {n : Nat} {ms : List (String × Json)} :
    depthMembers ms ≤ n ↔ ∀ m ∈ ms, m.2.depth ≤ n := by
  induction ms with
  | nil => simp [depthMembers]
  | cons m ms ih => rw [depthMembers, Nat.max_le, ih, List.forall_mem_cons]

mutual
/-- The canonical form of a document is not nested more deeply than the document. -/
theorem depth_canonical_le : (v : Json) → v.canonical.depth ≤ v.depth
  | .null => Nat.le_refl _
  | .bool _ => Nat.le_refl _
  | .int _ => Nat.le_refl _
  | .float _ => Nat.le_refl _
  | .str _ => Nat.le_refl _
  | .arr vs => Nat.succ_le_succ (depthItems_canonicalItems_le vs)
  | .obj ms => by
    -- sorting may drop members, but it does not bring in any
    have hmembers := depthMembers_le_iff.1 (depthMembers_canonicalMembers_le ms)
    exact Nat.succ_le_succ (depthMembers_le_iff.2 fun m hm => hmembers m (mem_sortMembers hm))

/-- `depth_canonical_le` for the items of a list. -/
private theorem depthItems_canonicalItems_le : (vs : List Json) → depthItems (canonicalItems vs) ≤ depthItems vs
  | [] => Nat.le_refl _
  | v :: vs => max_le_max (depth_canonical_le v) (depthItems_canonicalItems_le vs)

/-- `depth_canonical_le` for members. -/
private theorem depthMembers_canonicalMembers_le :
    (ms : List (String × Json)) → depthMembers (canonicalMembers ms) ≤ depthMembers ms
  | [] => Nat.le_refl _
  | (_, v) :: ms => max_le_max (depth_canonical_le v) (depthMembers_canonicalMembers_le ms)
end

mutual
/-- The draft of a document is sound if and only if its containers are nested less than `limit` deep. -/
theorem Draft.sound_ofJson (limit : Nat) (hlimit : 0 < limit) :
    (v : Json) → ((ofJson v).sound limit = true ↔ v.depth < limit)
  | .null => by simp [ofJson, sound, depth, hlimit]
  | .bool _ => by simp [ofJson, sound, depth, hlimit]
  | .int _ => by simp [ofJson, sound, depth, hlimit]
  | .float _ => by simp [ofJson, sound, depth, hlimit]
  | .str _ => by simp [ofJson, sound, depth, hlimit]
  | .arr vs => by
    rw [ofJson, sound, depth, Bool.and_eq_true, decide_eq_true_eq]
    by_cases h : 1 < limit
    · rw [soundItems_ofItems (limit - 1) (by omega) vs]
      omega
    · omega
  | .obj ms => by
    rw [ofJson, sound, depth, Bool.and_eq_true, decide_eq_true_eq]
    by_cases h : 1 < limit
    · rw [soundMembers_ofMembers_iff (limit - 1) (by omega) ms]
      omega
    · omega

/-- `Draft.sound_ofJson` for the items of a list. -/
private theorem Draft.soundItems_ofItems (limit : Nat) (hlimit : 0 < limit) :
    (vs : List Json) → (soundItems limit (ofItems vs) = true ↔ depthItems vs < limit)
  | [] => by simp [ofItems, soundItems, depthItems, hlimit]
  | v :: vs => by
    rw [ofItems, soundItems, depthItems, Bool.and_eq_true, sound_ofJson limit hlimit v,
      soundItems_ofItems limit hlimit vs, Nat.max_lt]

/-- `Draft.sound_ofJson` for members. -/
private theorem Draft.soundMembers_ofMembers_iff (limit : Nat) (hlimit : 0 < limit) :
    (ms : List (String × Json)) → (soundMembers limit (ofMembers ms) = true ↔ depthMembers ms < limit)
  | [] => by simp [ofMembers, soundMembers, depthMembers, hlimit]
  | (k, v) :: ms => by
    rw [ofMembers, soundMembers, depthMembers, Bool.and_eq_true, sound_ofJson limit hlimit v,
      soundMembers_ofMembers_iff limit hlimit ms, Nat.max_lt]
end

/-! ### Whole texts -/

/-- A document without doubles is parsed from its text, unless its containers are nested too deeply. -/
theorem parse?_text {v : Json} (hv : v.Exact) :
    parse? v.text = if v.depth < depthLimit then some v.canonical else none := by
  obtain ⟨hbounded, hdraft⟩ := Exact.bounded_draft reread v hv
  have hscan : scanChars v.text.toList = (.ofJson v, true) := hdraft ▸ scan_text hbounded
  have hsound := Draft.sound_ofJson depthLimit (by decide) v
  simp only [parse?, parseChars?, hscan, hsound, Draft.toJson_ofJson]

end GridGateway.Json
