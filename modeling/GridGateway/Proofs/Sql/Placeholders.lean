import GridGateway.Proofs.Text.Integer
import GridGateway.Sql.Statement
import Mathlib.Data.List.TakeWhile

/-!
# Placeholders

A dollar sign in the text of a statement starts a placeholder, and the digits after it say which value it stands
for.  That the placeholders are `$1`, `$2`, … takes two things of the fixed text: it must have no dollar sign of its
own, and what follows a value must not begin with a digit, since that would make it another number.

* `Clean`: a fixed text in which both hold.
* `Neat.append`: numbered fragments that may follow a value stay so when they are joined.
* `Numbered.statement`: the placeholders of a numbered fragment line up with its parameters.
-/

namespace GridGateway.Sql

/-- The digits that follow each dollar sign of a text. -/
def placeholders : List Char → List (List Char)
  | [] => []
  | c :: cs => if c = '$' then cs.takeWhile Char.isDigit :: placeholders cs else placeholders cs

/-- The placeholders of a statement have the numbers from one on, and there is one for each parameter. -/
def Statement.IsNumbered (s : Statement) : Prop :=
  placeholders s.sql.toList = (List.range' 1 s.params.length).map (Nat.toDigits 10)

/-! ### Placeholders of a text -/

/-- A text that does not begin with a digit. -/
def Detached (cs : List Char) : Prop := ∀ c ∈ cs.head?, c.isDigit = false

theorem Detached.append {cs ds : List Char} (hc : Detached cs) (hd : Detached ds) :
    Detached (cs ++ ds) := by
  cases cs with
  | nil => exact hd
  | cons c cs => exact hc

private theorem placeholders_append_of_not_mem {cs : List Char} (h : '$' ∉ cs) (ds : List Char) :
    placeholders (cs ++ ds) = placeholders ds := by
  induction cs with
  | nil => rfl
  | cons c cs ih =>
    rw [List.mem_cons, not_or] at h
    rw [List.cons_append, placeholders, if_neg (Ne.symm h.1), ih h.2]

private theorem takeWhile_isDigit_append {ds : List Char} (hd : Detached ds) (cs : List Char) :
    (cs ++ ds).takeWhile Char.isDigit = cs.takeWhile Char.isDigit := by
  induction cs with
  | nil =>
    cases ds with
    | nil => rfl
    | cons d ds => rw [List.nil_append, List.takeWhile_cons, hd d rfl]; rfl
  | cons c cs ih => rw [List.cons_append, List.takeWhile_cons, List.takeWhile_cons, ih]

private theorem placeholders_append {ds : List Char} (hd : Detached ds) (cs : List Char) :
    placeholders (cs ++ ds) = placeholders cs ++ placeholders ds := by
  induction cs with
  | nil => rfl
  | cons c cs ih =>
    rw [List.cons_append, placeholders, placeholders, ih, takeWhile_isDigit_append hd]
    split
    · rfl
    · rfl

private theorem placeholders_toDigits (k : Nat) :
    placeholders ('$' :: Nat.toDigits 10 k) = [Nat.toDigits 10 k] := by
  have hall : ∀ c ∈ Nat.toDigits 10 k, c.isDigit = true := fun c hc => Text.isDigit_of_mem_toDigits hc
  have hnone : '$' ∉ Nat.toDigits 10 k := fun hm => absurd (hall _ hm) (by decide)
  have hrest : placeholders (Nat.toDigits 10 k) = [] := by
    have happ := placeholders_append_of_not_mem hnone []
    rwa [List.append_nil] at happ
  rw [placeholders, if_pos rfl, hrest, List.takeWhile_eq_self_iff.2 hall]

/-! ### Fixed texts -/

/-- A text that has no dollar sign. -/
def Plain (s : String) : Prop := '$' ∉ s.toList

namespace Plain

theorem ofList {cs : List Char} (h : cs.all (· ≠ '$') = true) : Plain (String.ofList cs) := by
  unfold Plain
  rw [String.toList_ofList]
  exact fun hm => of_decide_eq_true (List.all_eq_true.1 h _ hm) rfl

theorem append {s t : String} (hs : Plain s) (ht : Plain t) : Plain (s ++ t) := by
  unfold Plain
  rw [String.toList_append, List.mem_append]
  exact not_or.2 ⟨hs, ht⟩

theorem intercalate {sep : String} (hsep : Plain sep) {ss : List String} (h : ∀ s ∈ ss, Plain s) :
    Plain (sep.intercalate ss) := by
  induction ss with
  | nil =>
    rw [String.intercalate_nil]
    exact ofList rfl
  | cons s ss ih =>
    rw [List.forall_mem_cons] at h
    cases ss with
    | nil =>
      rw [String.intercalate_singleton]
      exact h.1
    | cons t ss =>
      rw [String.intercalate_cons_cons]
      exact (h.1.append hsep).append (ih h.2)

end Plain

/-- A fixed text that neither has a placeholder nor changes the one before it. -/
structure Clean (s : String) : Prop where
  plain : Plain s
  detached : Detached s.toList

/-- The test for clean texts. -/
def isClean (cs : List Char) : Bool := cs.all (· ≠ '$') && cs.head?.all (! ·.isDigit)

theorem Clean.ofList {cs : List Char} (h : isClean cs = true) : Clean (String.ofList cs) where
  plain := .ofList (Bool.and_eq_true_iff.1 h).1
  detached := by
    have hd := (Bool.and_eq_true_iff.1 h).2
    rw [String.toList_ofList]
    intro c hc
    rw [Option.mem_def.1 hc] at hd
    exact Bool.not_eq_true' _ ▸ hd

theorem Clean.append {s t : String} (hs : Clean s) (ht : Clean t) : Clean (s ++ t) where
  plain := hs.plain.append ht.plain
  detached := by
    rw [String.toList_append]
    exact hs.detached.append ht.detached

/-! ### Numbered fragments -/

namespace Fragment

theorem params_append (p q : Fragment) : params (p ++ q) = params p ++ params q := by
  fun_induction params p with
  | case1 => rfl
  | case2 s rest ih => exact ih
  | case3 v rest ih => exact congrArg (v :: ·) ih

theorem textFrom_append (k : Nat) (p q : Fragment) :
    textFrom k (p ++ q) = textFrom k p ++ textFrom (k + p.params.length) q := by
  fun_induction textFrom k p with
  | case1 k => rfl
  | case2 k s rest ih => rw [List.cons_append, textFrom, ih, params, List.append_assoc]
  | case3 k v rest ih =>
    rw [List.cons_append, textFrom, ih, params, List.length_cons, List.append_assoc, List.cons_append]
    congr 4
    omega

/-- Wherever the numbering starts, the placeholders of a fragment have the next numbers, one for each value. -/
def Numbered (q : Fragment) : Prop :=
  ∀ k, placeholders (textFrom k q) = (List.range' k q.params.length).map (Nat.toDigits 10)

/-- A numbered fragment that may follow a value. -/
structure Neat (q : Fragment) : Prop where
  numbered : Numbered q
  detached : ∀ k, Detached (textFrom k q)

theorem Numbered.statement {q : Fragment} (h : Numbered q) : q.statement.IsNumbered := by
  unfold Statement.IsNumbered
  show placeholders (String.ofList (textFrom 1 q)).toList = _
  rw [String.toList_ofList]
  exact h 1

theorem Numbered.append {p q : Fragment} (hp : Numbered p) (hq : Neat q) : Numbered (p ++ q) := by
  intro k
  rw [textFrom_append, placeholders_append (hq.detached _), hp k, hq.numbered, params_append, List.length_append,
    ← List.range'_append_1, List.map_append]

theorem Numbered.sql {s : String} (hs : Plain s) {q : Fragment} (hq : Numbered q) :
    Numbered (.sql s :: q) := by
  intro k
  rw [textFrom, placeholders_append_of_not_mem hs, hq k]
  rfl

theorem Numbered.bind (v : Param) {q : Fragment} (hq : Neat q) : Numbered (.bind v :: q) := by
  intro k
  rw [textFrom, placeholders_append (hq.detached _), placeholders_toDigits, hq.numbered]
  rfl

namespace Neat

theorem nil : Neat [] where
  numbered _ := rfl
  detached _ _ h := nomatch h

theorem bind (v : Param) {q : Fragment} (hq : Neat q) : Neat (.bind v :: q) where
  numbered := .bind v hq
  detached k c hc := by
    obtain rfl : '$' = c := Option.some.inj hc
    rfl

theorem sql {s : String} (hs : Clean s) {q : Fragment} (hq : Neat q) : Neat (.sql s :: q) where
  numbered := .sql hs.plain hq.numbered
  detached k := hs.detached.append (hq.detached k)

theorem text {s : String} (hs : Clean s) : Neat [.sql s] := sql hs nil

theorem append {p q : Fragment} (hp : Neat p) (hq : Neat q) : Neat (p ++ q) where
  numbered := hp.numbered.append hq
  detached k := by
    rw [textFrom_append]
    exact (hp.detached k).append (hq.detached _)

/-- A text that is there and begins with no digit may be followed by anything. -/
theorem sql_of_head {s : String} (hs : Plain s) {c : Char} (hc : s.toList.head? = some c) (hd : c.isDigit = false)
    {q : Fragment} (hq : Numbered q) : Neat (.sql s :: q) where
  numbered := .sql hs hq
  detached k := by
    intro d hm
    rw [textFrom, List.head?_append, hc] at hm
    obtain rfl : c = d := Option.some.inj hm
    exact hd

end Neat

end Fragment

end GridGateway.Sql
