import GridGateway.Sql.Statistics
import GridGateway.Sql.TelemetryTable

/-!
# Shapes of statements

The shape of a statement forgets its values: what is left is the fixed text and the places between its parts where a
value stands.  The text that is sent depends on nothing else (`Fragment.text_eq_of_shape_eq`), and the shape of
everything built from a filter depends only on which constraints the filter has, not on what they ask for
(`NodesAlike.shape_nodeSource` and the like).
-/

namespace GridGateway.Sql

open Query

/-- What a piece is to the text: a part of it, or a place for a value. -/
def Piece.shape : Piece → Option String
  | .sql s => some s
  | .bind _ => none

namespace Fragment

/-- A fragment without its values. -/
def shape (q : Fragment) : List (Option String) := q.map Piece.shape

@[simp] theorem shape_nil : shape [] = [] := rfl

@[simp] theorem shape_sql (s : String) (q : Fragment) : shape (.sql s :: q) = some s :: q.shape := rfl

@[simp] theorem shape_bind (p : Param) (q : Fragment) : shape (.bind p :: q) = none :: q.shape := rfl

@[simp] theorem shape_append (p q : Fragment) : shape (p ++ q) = p.shape ++ q.shape := List.map_append

private theorem textFrom_eq_of_shape_eq {p q : Fragment} (h : p.shape = q.shape) (k : Nat) :
    textFrom k p = textFrom k q := by
  induction p generalizing q k with
  | nil =>
    obtain rfl : q = [] := List.map_eq_nil_iff.1 h.symm
    rfl
  | cons a p ih =>
    obtain ⟨b, q, rfl, hb, hq⟩ := List.map_eq_cons_iff.1 h.symm
    -- a piece moves the numbers of the later values on if it is a value itself
    cases a with
    | sql s =>
      cases b with
      | sql t =>
        obtain rfl : t = s := Option.some.inj hb
        rw [textFrom, textFrom, ih hq.symm]
      | bind _ => cases hb
    | bind _ =>
      cases b with
      | sql _ => cases hb
      | bind _ => rw [textFrom, textFrom, ih hq.symm]

/-- Fragments of one shape have one text. -/
theorem text_eq_of_shape_eq {p q : Fragment} (h : p.shape = q.shape) : p.text = q.text := by
  unfold text
  rw [textFrom_eq_of_shape_eq h]

end Fragment

open Fragment

/-! ### Optional constraints -/

@[simp] theorem isSome_number (n : Option UInt64) : (number n).isSome = n.isSome := Option.isSome_map ..

@[simp] theorem isSome_word (s : Option String) : (word s).isSome = s.isSome := Option.isSome_map ..

@[simp] theorem isSome_truth (b : Option Bool) : (truth b).isSome = b.isSome := Option.isSome_map ..

@[simp] theorem shape_compare (column : String) (c : Comparison) (p : Option Param) :
    shape (compare column c p) = bif p.isSome then [some " AND ", some column, some c.sign, none] else [] := by
  cases p <;> rfl

@[simp] theorem shape_equalsIgnoringCase (column : String) (s : Option String) :
    shape (equalsIgnoringCase column s) =
      bif s.isSome then [some " AND LOWER(", some column, some ") = LOWER(", none, some ")"] else [] := by
  cases s <;> rfl

@[simp] theorem shape_containsIgnoringCase (column : String) (s : Option String) :
    shape (containsIgnoringCase column s) =
      bif s.isSome then [some " AND ", some column, some " ILIKE ", none, some " ESCAPE '\\'"] else [] := by
  cases s <;> rfl

@[simp] theorem shape_anyOf (column : String) (ns : List Int) :
    shape (anyOf column ns) =
      bif ns.isEmpty then [] else [some " AND ", some column, some " = ANY(", none, some ")"] := by
  cases ns <;> rfl

private theorem shape_fill (p : Param) (parts : List (List Char)) :
    shape (fill p parts) = (parts.map fun part => some (String.ofList part)).intersperse none := by
  fun_induction fill p parts with
  | case1 => rfl
  | case2 part => rfl
  | case3 part parts hne ih =>
    obtain ⟨next, parts, rfl⟩ := List.exists_cons_of_ne_nil hne
    rw [shape_sql, shape_bind, ih]
    rfl

@[simp] theorem shape_template (clause : String) (p : Option Param) :
    shape (template clause p) =
      bif p.isSome then
        some " AND " :: ((splitAll '?' clause.toList).map fun part => some (String.ofList part)).intersperse none
      else [] := by
  cases p with
  | none => rfl
  | some p => rw [template, shape_sql, shape_fill]; rfl

private theorem shape_statusCondition (now now' : UInt64) (status : Option Status) :
    shape (statusCondition now status) = shape (statusCondition now' status) := by
  cases status with
  | none => rfl
  | some s => simp only [statusCondition, shape_template, Option.isSome_some]

theorem shape_countersQuery (status : Option Status) (now now' : UInt64) :
    shape (countersQuery status now) = shape (countersQuery status now') := by
  unfold countersQuery
  simp only [shape_append, shape_statusCondition now now']

theorem shape_distributionQuery (status : Option Status) (now now' : UInt64) :
    shape (distributionQuery status now) = shape (distributionQuery status now') := by
  unfold distributionQuery
  simp only [shape_append, shape_statusCondition now now']

@[simp] theorem shape_select (columns : String) (source : Fragment) :
    shape (select columns source) = some "SELECT " :: some columns :: source.shape := rfl

/-! ### Filters -/

/-- Values in which the same slots are filled. -/
def SameFields {F : Type} (slots : List (Slot F)) (f g : F) : Prop :=
  ∀ slot ∈ slots, (slot.render f).isSome = (slot.render g).isSome

section

variable {F : Type} {f g : F} {key : String}

private theorem sameFields_nil : SameFields [] f g ↔ True := iff_true_intro fun _ h => (nomatch h)

private theorem sameFields_cons {slot : Slot F} {slots : List (Slot F)} :
    SameFields (slot :: slots) f g ↔ (slot.render f).isSome = (slot.render g).isSome ∧ SameFields slots f g :=
  List.forall_mem_cons

private theorem isSome_render_number {get : F → Option UInt64} {put : F → Option UInt64 → F} :
    ((Slot.number key get put).render f).isSome = (get f).isSome := Option.isSome_map ..

private theorem isSome_render_text {get : F → Option String} {put : F → Option String → F} :
    ((Slot.text key get put).render f).isSome = (get f).isSome := rfl

private theorem isSome_render_flag {get : F → Option Bool} {put : F → Option Bool → F} :
    ((Slot.flag key get put).render f).isSome = (get f).isSome := Option.isSome_map ..

private theorem isSome_render_numbers {get : F → List UInt64} {put : F → List UInt64 → F} :
    ((Slot.numbers key get put).render f).isSome = !(get f).isEmpty := by
  rw [Slot.render]
  cases get f <;> rfl

end

/-- Node filters with the same fields, which agree in those that are no values of a statement: the status asked for
and the flags about the public configuration. -/
structure NodesAlike (f g : NodeFilter) : Prop where
  fields : SameFields NodeFilter.slots f g
  status : f.wantedStatus = g.wantedStatus
  ipv4 : f.ipv4 = g.ipv4
  ipv6 : f.ipv6 = g.ipv6
  domain : f.domain = g.domain

private theorem NodesAlike.shape_nodeConditions {f g : NodeFilter} (h : NodesAlike f g) :
    shape (nodeConditions f) = shape (nodeConditions g) := by
  have hf := h.fields
  simp only [NodeFilter.slots, sameFields_cons, sameFields_nil, isSome_render_number, isSome_render_text,
    isSome_render_flag, isSome_render_numbers, Bool.not_inj_iff] at hf
  unfold nodeConditions
  simp only [shape_append, shape_compare, shape_equalsIgnoringCase, shape_containsIgnoringCase, shape_anyOf,
    shape_template, isSome_number, isSome_truth, List.isEmpty_map, hf, h.ipv4, h.ipv6, h.domain]

theorem NodesAlike.shape_nodeSource {f g : NodeFilter} (h : NodesAlike f g) {r r' : Resources}
    (hr : shape r.join = shape r'.join) (status : Option Status) (now now' : UInt64) :
    shape (nodeSource r status f now) = shape (nodeSource r' status g now') := by
  unfold nodeSource
  simp only [shape_append]
  rw [hr, shape_statusCondition now now', h.shape_nodeConditions]

private theorem shape_nodeOrder (f : NodeFilter) :
    shape (nodeOrder f) =
      bif f.availableFor.isSome then
        [some " ORDER BY CASE WHEN COALESCE(rent_contract.twin_id, 0) = ", none,
          some " THEN 0 ELSE 1 END, node.node_id"]
      else [some " ORDER BY node.node_id"] := by
  unfold nodeOrder
  cases f.availableFor <;> rfl

theorem NodesAlike.shape_nodeOrder {f g : NodeFilter} (h : NodesAlike f g) :
    shape (nodeOrder f) = shape (nodeOrder g) := by
  have hf : f.availableFor.isSome = g.availableFor.isSome := by
    have hs := h.fields (.number "available_for" (·.availableFor) ({ · with availableFor := · }))
      (by simp only [NodeFilter.slots, List.mem_cons, true_or, or_true])
    rwa [isSome_render_number, isSome_render_number] at hs
  rw [Sql.shape_nodeOrder, hf, ← Sql.shape_nodeOrder]

/-- The filters by which single nodes are looked up. -/
theorem nodesAlike_ofNumber (id id' : UInt64) : NodesAlike { nodeId := some id } { nodeId := some id' } where
  fields := by
    simp only [NodeFilter.slots, sameFields_cons, sameFields_nil, isSome_render_number, isSome_render_text,
      isSome_render_flag, isSome_render_numbers, Option.isSome_some, and_true]
  status := rfl
  ipv4 := rfl
  ipv6 := rfl
  domain := rfl

theorem shape_farmSource {f g : FarmFilter} (h : SameFields FarmFilter.slots f g) :
    shape (farmSource f) = shape (farmSource g) := by
  simp only [FarmFilter.slots, sameFields_cons, sameFields_nil, isSome_render_number, isSome_render_text,
    isSome_render_flag] at h
  unfold farmSource
  simp only [shape_append, shape_compare, shape_equalsIgnoringCase, shape_containsIgnoringCase, shape_template,
    isSome_number, isSome_word, isSome_truth, h]

/-- The filters by which single farms are looked up. -/
theorem sameFields_farmNumber (id id' : UInt64) :
    SameFields FarmFilter.slots { farmId := some id } { farmId := some id' } := by
  simp only [FarmFilter.slots, sameFields_cons, sameFields_nil, isSome_render_number, isSome_render_text,
    isSome_render_flag, Option.isSome_some, and_true]

theorem shape_twinSource {f g : TwinFilter} (h : SameFields TwinFilter.slots f g) :
    shape (twinSource f) = shape (twinSource g) := by
  simp only [TwinFilter.slots, sameFields_cons, sameFields_nil, isSome_render_number, isSome_render_text] at h
  unfold twinSource
  simp only [shape_append, shape_compare, isSome_number, isSome_word, h]

/-- A word of a closed vocabulary that was accepted is there exactly when the text is. -/
private theorem isSome_of_choice {α : Type} {key expected : String} {ofWord? : String → Option α}
    {raw : Option String} {value : Option α} (h : choice key expected ofWord? raw = .ok value) :
    value.isSome = raw.isSome := by
  cases raw with
  | none =>
    cases h
    rfl
  | some raw =>
    simp only [choice] at h
    split at h
    · cases h
      rfl
    · cases h

/-- Contract filters with the same fields give conditions of one shape, whatever states and kinds they name: these
are values. -/
theorem shape_contractConditions {f g : ContractFilter} (h : SameFields ContractFilter.slots f g)
    {state state' : Option ContractState} {kind kind' : Option ContractKind}
    (hs : f.wantedState = .ok state) (hk : f.wantedKind = .ok kind)
    (hs' : g.wantedState = .ok state') (hk' : g.wantedKind = .ok kind') :
    shape (contractConditions state kind f) = shape (contractConditions state' kind' g) := by
  simp only [ContractFilter.slots, sameFields_cons, sameFields_nil, isSome_render_number, isSome_render_text] at h
  unfold contractConditions
  simp only [shape_append, shape_compare, shape_equalsIgnoringCase, isSome_number, isSome_word, Option.isSome_map,
    isSome_of_choice hs, isSome_of_choice hk, isSome_of_choice hs', isSome_of_choice hk', h]

end GridGateway.Sql
