import GridGateway.Proofs.Query.Pairs
import GridGateway.Proofs.Sql.Placeholders
import GridGateway.Sql.Listing
import Mathlib.Data.List.Pairwise

/-!
# Reading conditions off a statement

The text of a statement is a row of tokens: characters of the fixed text, and places for values.  As long as the fixed
text has no dollar sign, the text determines the tokens (`Fragment.tokens_eq_of_textFrom_eq`).

Each optional condition is written in one of a few ways, its *phrases*.  When no phrase of a list of conditions begins
with another one (`PrefixFree`), a reader knows at each place which condition comes next, if any.  `Faithful phrases p q
P` says that such a reader, who finds the same in the fragments `p` and `q`, may conclude `P`; it is closed under
joining fragments (`Faithful.append`), so a list of conditions needs one lemma for each of its members.
-/

namespace GridGateway.Sql

/-- A character of the fixed text of a statement, or a place for a value. -/
abbrev Token := Option Char

namespace Fragment

/-- The tokens of a fragment. -/
def tokens : Fragment → List Token
  | [] => []
  | .sql s :: rest => s.toList.map some ++ tokens rest
  | .bind _ :: rest => none :: tokens rest

private theorem tokens_append (p q : Fragment) : tokens (p ++ q) = tokens p ++ tokens q := by
  fun_induction tokens p with
  | case1 => rfl
  | case2 s rest ih => rw [List.cons_append, tokens, ih, List.append_assoc]
  | case3 v rest ih => rw [List.cons_append, tokens, ih, List.cons_append]

/-- There is a place for each value. -/
private theorem length_params (p : Fragment) : p.params.length = p.tokens.count none := by
  fun_induction tokens p with
  | case1 => rfl
  | case2 s rest ih =>
    have hchars : (s.toList.map some).count (none : Token) = 0 := by simp [List.count_eq_zero]
    rw [params, ih, List.count_append, hchars, Nat.zero_add]
  | case3 v rest ih => rw [params, List.length_cons, ih, List.count_cons_self]

private theorem length_params_of_tokens_eq {p q : Fragment} (h : p.tokens = q.tokens) :
    p.params.length = q.params.length := by
  rw [length_params, length_params, h]

/-- The text of tokens of which the first place has number `k`. -/
private def spell (k : Nat) : List Token → List Char
  | [] => []
  | some c :: ts => c :: spell k ts
  | none :: ts => '$' :: Nat.toDigits 10 k ++ spell (k + 1) ts

private theorem spell_chars (k : Nat) (cs : List Char) (ts : List Token) :
    spell k (cs.map some ++ ts) = cs ++ spell k ts := by
  induction cs with
  | nil => rfl
  | cons c cs ih => rw [List.map_cons, List.cons_append, spell, ih, List.cons_append]

private theorem textFrom_eq_spell (k : Nat) (p : Fragment) : textFrom k p = spell k p.tokens := by
  fun_induction textFrom k p with
  | case1 k => rfl
  | case2 k s rest ih => rw [tokens, spell_chars, ih]
  | case3 k v rest ih => rw [tokens, spell, ih]

private theorem spell_inj {ts us : List Token} (ht : some '$' ∉ ts) (hu : some '$' ∉ us) {k : Nat}
    (h : spell k ts = spell k us) : ts = us := by
  induction ts generalizing us k with
  | nil =>
    cases us with
    | nil => rfl
    | cons u us => cases u <;> cases h
  | cons t ts ih =>
    rw [List.mem_cons, not_or] at ht
    cases us with
    | nil => cases t <;> cases h
    | cons u us =>
      rw [List.mem_cons, not_or] at hu
      cases t with
      | some c =>
        cases u with
        | some d =>
          obtain ⟨rfl, hrest⟩ := List.cons.inj h
          rw [ih ht.2 hu.2 hrest]
        | none => exact absurd (congrArg some (List.cons.inj h).1.symm) ht.1
      | none =>
        cases u with
        | some d => exact absurd (congrArg some (List.cons.inj h).1) hu.1
        | none =>
          -- both places have the number `k`
          have hrest : spell (k + 1) ts = spell (k + 1) us := List.append_cancel_left (List.cons.inj h).2
          rw [ih ht.2 hu.2 hrest]

/-- Without dollar signs of its own, a text determines the tokens. -/
theorem tokens_eq_of_textFrom_eq {p q : Fragment} (hp : some '$' ∉ p.tokens) (hq : some '$' ∉ q.tokens) {k : Nat}
    (h : textFrom k p = textFrom k q) : p.tokens = q.tokens := by
  rw [textFrom_eq_spell, textFrom_eq_spell] at h
  exact spell_inj hp hq h

end Fragment

/-! ### Phrases -/

/-- Neither of two phrases begins with the other. -/
def Apart (x y : List Token) : Prop := ¬ x <+: y ∧ ¬ y <+: x

instance : Std.Symm Apart := ⟨fun _ _ h => ⟨h.2, h.1⟩⟩

instance : DecidableRel Apart := fun x y => inferInstanceAs (Decidable (¬ x <+: y ∧ ¬ y <+: x))

/-- Phrases of which none begins with another one. -/
def PrefixFree (phrases : List (List Token)) : Prop := [] ∉ phrases ∧ phrases.Pairwise Apart

instance (phrases : List (List Token)) : Decidable (PrefixFree phrases) := inferInstanceAs (Decidable (_ ∧ _))

/-- Tokens that are made up of phrases. -/
def Phrased (phrases : List (List Token)) (ts : List Token) : Prop :=
  ∃ parts : List (List Token), (∀ part ∈ parts, part ∈ phrases) ∧ parts.flatten = ts

namespace Phrased

variable {phrases others : List (List Token)} {ts us : List Token}

theorem nil : Phrased phrases [] := ⟨[], fun _ h => (nomatch h), rfl⟩

theorem single (h : ts ∈ phrases) : Phrased phrases ts :=
  ⟨[ts], List.forall_mem_singleton.2 h, List.flatten_singleton⟩

theorem append (ht : Phrased phrases ts) (hu : Phrased others us) : Phrased (phrases ++ others) (ts ++ us) := by
  obtain ⟨parts, hparts, rfl⟩ := ht
  obtain ⟨parts', hparts', rfl⟩ := hu
  refine ⟨parts ++ parts', fun part hpart => ?_, List.flatten_append⟩
  rcases List.mem_append.1 hpart with hpart | hpart
  · exact List.mem_append_left _ (hparts part hpart)
  · exact List.mem_append_right _ (hparts' part hpart)

/-- What does not occur in phrases does not occur in tokens made up of them. -/
private theorem not_mem (ht : Phrased phrases ts) {t : Token} (h : ∀ phrase ∈ phrases, t ∉ phrase) : t ∉ ts := by
  obtain ⟨parts, hparts, rfl⟩ := ht
  intro hmem
  obtain ⟨part, hpart, hmem⟩ := List.mem_flatten.1 hmem
  exact h part (hparts part hpart) hmem

end Phrased

namespace PrefixFree

variable {phrases others : List (List Token)} {x y ts us : List Token}

theorem append_right (h : PrefixFree (phrases ++ others)) : PrefixFree others :=
  ⟨fun hm => h.1 (List.mem_append_right _ hm), (List.pairwise_append.1 h.2).2.1⟩

/-- Two phrases with which the same tokens begin are one. -/
private theorem eq_of_append_eq (h : PrefixFree phrases) (hx : x ∈ phrases) (hy : y ∈ phrases)
    (he : x ++ ts = y ++ us) : x = y := by
  by_contra hne
  have hapart : Apart x y := h.2.forall hx hy hne
  have hyts : y <+: x ++ ts := he ▸ List.prefix_append y us
  rcases List.prefix_or_prefix_of_prefix (List.prefix_append x ts) hyts with hxy | hyx
  · exact hapart.1 hxy
  · exact hapart.2 hyx

/-- Tokens that are made up of other phrases do not begin with a phrase. -/
private theorem append_ne (h : PrefixFree (phrases ++ others)) (hx : x ∈ phrases) (hu : Phrased others us) :
    x ++ ts ≠ us := by
  intro he
  obtain ⟨parts, hparts, rfl⟩ := hu
  cases parts with
  | nil =>
    have hnil : x = [] := (List.append_eq_nil_iff.1 he).1
    exact h.1 (List.mem_append_left _ (hnil ▸ hx))
  | cons y parts =>
    have hy : y ∈ others := hparts y (List.mem_cons_self ..)
    have hxy : x = y := h.eq_of_append_eq (List.mem_append_left _ hx) (List.mem_append_right _ hy) he
    have hapart : Apart x y := (List.pairwise_append.1 h.2).2.2 x hx y hy
    exact hapart.1 (hxy ▸ List.prefix_rfl)

end PrefixFree

/-! ### Faithful fragments -/

/-- Two fragments made up of phrases from which `P` can be read off: if they are followed by conditions with other
phrases, and the tokens and the values are the same altogether, then `P` holds and what follows is the same. -/
structure Faithful (phrases : List (List Token)) (p q : Fragment) (P : Prop) : Prop where
  left : Phrased phrases p.tokens
  right : Phrased phrases q.tokens
  peel : ∀ {others : List (List Token)} {ts us : List Token} {vs ws : List Param}, PrefixFree (phrases ++ others) →
    Phrased others ts → Phrased others us → p.tokens ++ ts = q.tokens ++ us → p.params ++ vs = q.params ++ ws →
    P ∧ ts = us ∧ vs = ws

namespace Faithful

variable {phrases others : List (List Token)} {p q p' q' : Fragment} {P Q : Prop}

theorem append (h : Faithful phrases p q P) (h' : Faithful others p' q' Q) :
    Faithful (phrases ++ others) (p ++ p') (q ++ q') (P ∧ Q) where
  left := by
    rw [Fragment.tokens_append]
    exact h.left.append h'.left
  right := by
    rw [Fragment.tokens_append]
    exact h.right.append h'.right
  peel := by
    intro rest ts us vs ws hfree hts hus htokens hparams
    rw [Fragment.tokens_append, Fragment.tokens_append, List.append_assoc, List.append_assoc] at htokens
    rw [Fragment.params_append, Fragment.params_append, List.append_assoc, List.append_assoc] at hparams
    rw [List.append_assoc] at hfree
    obtain ⟨hP, htokens, hparams⟩ := h.peel hfree (h'.left.append hts) (h'.right.append hus) htokens hparams
    obtain ⟨hQ, hrest⟩ := h'.peel hfree.append_right hts hus htokens hparams
    exact ⟨⟨hP, hQ⟩, hrest⟩

/-- What can be read off statements that begin alike. -/
theorem of_statement_eq {front : Fragment} (hstatement : (front ++ p).statement = (front ++ q).statement)
    (h : Faithful phrases p q P) (hfree : PrefixFree phrases) (hplain : ∀ phrase ∈ phrases, some '$' ∉ phrase) :
    P := by
  obtain ⟨htext, hparams⟩ := Statement.mk.inj hstatement
  rw [Fragment.params_append, Fragment.params_append] at hparams
  have hchars : Fragment.textFrom 1 (front ++ p) = Fragment.textFrom 1 (front ++ q) := String.ofList_injective htext
  rw [Fragment.textFrom_append, Fragment.textFrom_append] at hchars
  have htokens : p.tokens = q.tokens :=
    Fragment.tokens_eq_of_textFrom_eq (h.left.not_mem hplain) (h.right.not_mem hplain)
      (List.append_cancel_left hchars)
  -- nothing follows on either side
  refine (@Faithful.peel _ _ _ _ h [] [] [] [] [] ?_ .nil .nil ?_ ?_).1
  · rwa [List.append_nil]
  · rw [htokens]
  · rw [List.append_cancel_left hparams]

/-- A condition that is absent or one of the phrases. -/
theorem optional (hp : p = [] ∨ p.tokens ∈ phrases) (hq : q = [] ∨ q.tokens ∈ phrases)
    (hP : p.tokens = q.tokens → p.params = q.params → P) : Faithful phrases p q P where
  left := by
    rcases hp with rfl | hp
    · exact .nil
    · exact .single hp
  right := by
    rcases hq with rfl | hq
    · exact .nil
    · exact .single hq
  peel := by
    intro others ts us vs ws hfree hts hus htokens hparams
    -- a condition that is there on one side only would begin what follows on the other
    have hsame : p.tokens = q.tokens := by
      rcases hp with rfl | hp <;> rcases hq with rfl | hq
      · rfl
      · exact absurd htokens.symm (hfree.append_ne hq hts)
      · exact absurd htokens (hfree.append_ne hp hus)
      · exact hfree.eq_of_append_eq (List.mem_append_left _ hp) (List.mem_append_left _ hq) htokens
    obtain ⟨hvalues, hrest⟩ := List.append_inj hparams (Fragment.length_params_of_tokens_eq hsame)
    rw [hsame] at htokens
    exact ⟨hP hsame hvalues, List.append_cancel_left htokens, hrest⟩

end Faithful

/-! ### Conditions -/

/-- A condition that is written in one way when there is a constraint, with a value that tells the constraint. -/
private theorem Faithful.constraint {α : Type} (condition : Option α → Fragment) {phrase : List Token}
    (hnone : condition none = []) (hsome : ∀ v, (condition (some v)).tokens = phrase)
    (hvalue : ∀ v, (condition (some v)).params ≠ [])
    (hinj : ∀ v w, (condition (some v)).params = (condition (some w)).params → v = w) (a b : Option α) :
    Faithful [phrase] (condition a) (condition b) (a = b) := by
  have hphrase (a : Option α) : condition a = [] ∨ (condition a).tokens ∈ [phrase] := by
    cases a with
    | none => exact .inl hnone
    | some v => exact .inr (List.mem_singleton.2 (hsome v))
  refine .optional (hphrase a) (hphrase b) fun _ hparams => ?_
  cases a with
  | none =>
    cases b with
    | none => rfl
    | some w =>
      rw [hnone] at hparams
      exact absurd hparams.symm (hvalue w)
  | some v =>
    cases b with
    | none =>
      rw [hnone] at hparams
      exact absurd hparams (hvalue v)
    | some w => rw [hinj v w hparams]

-- Columns and clauses are given by their characters, so that their phrases can be compared by evaluation.

theorem faithful_compare (column : List Char) (c : Comparison) (a b : Option Param) :
    Faithful [" AND ".toList.map some ++ (column.map some ++ (c.sign.toList.map some ++ [none]))]
      (compare (String.ofList column) c a) (compare (String.ofList column) c b) (a = b) := by
  refine .constraint (compare _ c) rfl (fun v => ?_) (fun _ => List.cons_ne_nil _ _) (fun v w h => ?_) a b
  · simp only [compare, Fragment.tokens, String.toList_ofList]
  · exact (List.cons.inj h).1

theorem faithful_equalsIgnoringCase (column : List Char) (a b : Option String) :
    Faithful [" AND LOWER(".toList.map some ++ (column.map some ++ (") = LOWER(".toList.map some ++
        none :: (")".toList.map some ++ [])))]
      (equalsIgnoringCase (String.ofList column) a) (equalsIgnoringCase (String.ofList column) b) (a = b) := by
  refine .constraint (equalsIgnoringCase _) rfl (fun v => ?_) (fun _ => List.cons_ne_nil _ _) (fun v w h => ?_) a b
  · simp only [equalsIgnoringCase, Fragment.tokens, String.toList_ofList]
  · exact Option.some.inj (Param.text.inj (List.cons.inj h).1)

/-- A text can be read off its escaped form: a backslash always belongs to the character behind it. -/
theorem escapePattern_inj {cs ds : List Char} (h : escapePattern cs = escapePattern ds) : cs = ds := by
  induction cs generalizing ds with
  | nil =>
    cases ds with
    | nil => rfl
    | cons d ds =>
      rw [escapePattern, escapePattern] at h
      split at h <;> cases h
  | cons c cs ih =>
    cases ds with
    | nil =>
      rw [escapePattern, escapePattern] at h
      split at h <;> cases h
    | cons d ds =>
      rw [escapePattern, escapePattern] at h
      split at h <;> split at h
      · obtain ⟨rfl, hrest⟩ := List.cons.inj (List.cons.inj h).2
        rw [ih hrest]
      · next hd => exact absurd (.inr (.inr (List.cons.inj h).1.symm)) hd
      · next hc _ => exact absurd (.inr (.inr (List.cons.inj h).1)) hc
      · obtain ⟨rfl, hrest⟩ := List.cons.inj h
        rw [ih hrest]

/-- A text can be read off the pattern of the texts that contain it. -/
private theorem containsPattern_inj {s t : String} (h : containsPattern s = containsPattern t) : s = t := by
  have hchars := congrArg String.toList h
  simp only [containsPattern, escapeLike, String.toList_append, String.toList_ofList] at hchars
  have hescaped : escapePattern s.toList = escapePattern t.toList :=
    List.append_cancel_left (List.append_cancel_right hchars)
  exact String.toList_inj.1 (escapePattern_inj hescaped)

theorem faithful_containsIgnoringCase (column : List Char) (a b : Option String) :
    Faithful [" AND ".toList.map some ++ (column.map some ++ (" ILIKE ".toList.map some ++
        none :: (" ESCAPE '\\'".toList.map some ++ [])))]
      (containsIgnoringCase (String.ofList column) a) (containsIgnoringCase (String.ofList column) b) (a = b) := by
  refine .constraint (containsIgnoringCase _) rfl (fun v => ?_) (fun _ => List.cons_ne_nil _ _) (fun v w h => ?_) a b
  · simp only [containsIgnoringCase, Fragment.tokens, String.toList_ofList]
  · exact containsPattern_inj (Option.some.inj (Param.text.inj (List.cons.inj h).1))

theorem faithful_anyOf (column : List Char) (ms ns : List Int) :
    Faithful [" AND ".toList.map some ++ (column.map some ++ (" = ANY(".toList.map some ++
        none :: (")".toList.map some ++ [])))]
      (anyOf (String.ofList column) ms) (anyOf (String.ofList column) ns) (ms = ns) := by
  have hphrase (ns : List Int) : anyOf (String.ofList column) ns = [] ∨ (anyOf (String.ofList column) ns).tokens ∈
      [" AND ".toList.map some ++ (column.map some ++ (" = ANY(".toList.map some ++
        none :: (")".toList.map some ++ [])))] := by
    cases ns with
    | nil => exact .inl rfl
    | cons n ns =>
      refine .inr (List.mem_singleton.2 ?_)
      simp only [anyOf, Fragment.tokens, String.toList_ofList]
  refine .optional (hphrase ms) (hphrase ns) fun _ hparams => ?_
  cases ms <;> cases ns <;> simp_all [anyOf, Fragment.params]

/-- A condition that is written in one way for each value that it may ask for. -/
theorem Faithful.choice {α : Type} (condition : Option α → Fragment) {phrases : List (List Token)}
    (hnone : condition none = []) (hsome : ∀ v, (condition (some v)).tokens ∈ phrases) (hnil : [] ∉ phrases)
    (hinj : ∀ v w, (condition (some v)).tokens = (condition (some w)).tokens → v = w) (a b : Option α) :
    Faithful phrases (condition a) (condition b) (a = b) := by
  have hphrase (a : Option α) : condition a = [] ∨ (condition a).tokens ∈ phrases := by
    cases a with
    | none => exact .inl hnone
    | some v => exact .inr (hsome v)
  refine .optional (hphrase a) (hphrase b) fun htokens _ => ?_
  cases a with
  | none =>
    cases b with
    | none => rfl
    | some w =>
      have hempty : (condition (some w)).tokens = [] := by rw [← htokens, hnone, Fragment.tokens]
      exact absurd (hempty ▸ hsome w) hnil
  | some v =>
    cases b with
    | none =>
      have hempty : (condition (some v)).tokens = [] := by rw [htokens, hnone, Fragment.tokens]
      exact absurd (hempty ▸ hsome v) hnil
    | some w => rw [hinj v w htokens]

/-- One of two different clauses. -/
theorem faithful_choose {whenTrue whenFalse : List Char} (h : whenTrue ≠ whenFalse) (a b : Option Bool) :
    Faithful [" AND ".toList.map some ++ whenTrue.map some, " AND ".toList.map some ++ whenFalse.map some]
      (choose (String.ofList whenTrue) (String.ofList whenFalse) a)
      (choose (String.ofList whenTrue) (String.ofList whenFalse) b) (a = b) := by
  have htokens (flag : Bool) : (choose (String.ofList whenTrue) (String.ofList whenFalse) (some flag)).tokens =
      " AND ".toList.map some ++ (if flag then whenTrue else whenFalse).map some := by
    cases flag <;> simp only [choose, Fragment.tokens, String.toList_ofList, List.append_nil, if_true,
      Bool.false_eq_true, if_false]
  have hclause {flag flag' : Bool} (heq : (if flag then whenTrue else whenFalse) =
      if flag' then whenTrue else whenFalse) : flag = flag' := by
    cases flag with
    | true =>
      cases flag' with
      | true => rfl
      | false => exact absurd heq h
    | false =>
      cases flag' with
      | true => exact absurd heq.symm h
      | false => rfl
  refine .choice (choose _ _) rfl (fun flag => ?_) (fun hnil => ?_) (fun flag flag' heq => ?_) a b
  · rw [htokens]
    cases flag with
    | true => exact List.mem_cons_self ..
    | false => exact List.mem_cons_of_mem _ (List.mem_singleton_self _)
  · simp only [List.mem_cons, List.not_mem_nil, or_false] at hnil
    rcases hnil with hnil | hnil <;> cases hnil
  · rw [htokens, htokens] at heq
    exact hclause ((List.map_inj_right fun _ _ => Option.some.inj).1 (List.append_cancel_left heq))

/-! ### Templates -/

/-- A character of a clause, where a question mark is the place for a value. -/
def clauseToken (c : Char) : Token := if c = '?' then none else some c

private theorem clauseToken_mark : clauseToken '?' = none := rfl

private theorem clauseToken_of_ne {c : Char} (h : c ≠ '?') : clauseToken c = some c := if_neg h

/-- A character in front of the first part of a clause stays in front. -/
private theorem tokens_fill_cons (p : Param) (c : Char) (part : List Char) (parts : List (List Char)) :
    (fill p ((c :: part) :: parts)).tokens = some c :: (fill p (part :: parts)).tokens ∧
      (fill p ((c :: part) :: parts)).params = (fill p (part :: parts)).params := by
  cases parts <;> simp only [fill, Fragment.tokens, Fragment.params, String.toList_ofList, List.map_cons,
    List.cons_append, and_self]

/-- Each question mark of a clause is a place, and the value is bound there. -/
private theorem tokens_fill (p : Param) (cs : List Char) :
    (fill p (Query.splitAll '?' cs)).tokens = cs.map clauseToken ∧
      (fill p (Query.splitAll '?' cs)).params = List.replicate (cs.count '?') p := by
  induction cs with
  | nil => exact ⟨rfl, rfl⟩
  | cons c cs ih =>
    have hne : Query.splitAll '?' cs ≠ [] := by
      rw [Query.splitAll_eq_splitOn]
      exact List.splitOn_ne_nil _ _
    obtain ⟨part, parts, hparts⟩ := List.exists_cons_of_ne_nil hne
    rw [hparts] at ih
    by_cases hc : c = '?'
    · subst hc
      rw [Query.splitAll, if_pos rfl, hparts, fill, Fragment.tokens, Fragment.params, Fragment.tokens, Fragment.params,
        ih.1, ih.2, List.map_cons, clauseToken_mark, List.count_cons_self, List.replicate_succ]
      · exact ⟨rfl, rfl⟩
      · exact List.cons_ne_nil _ _
    · have hcons := tokens_fill_cons p c part parts
      rw [Query.splitAll, if_neg hc, hparts, List.map_cons, clauseToken_of_ne hc, List.count_cons_of_ne hc, ← ih.1,
        ← ih.2]
      exact hcons

theorem tokens_template (clause : List Char) (p : Param) :
    (template (String.ofList clause) (some p)).tokens = " AND ".toList.map some ++ clause.map clauseToken := by
  simp only [template, Fragment.tokens, String.toList_ofList, (tokens_fill p clause).1]

/-- A clause with a question mark. -/
theorem faithful_template {clause : String} {cs : List Char} (hclause : clause = String.ofList cs) (h : '?' ∈ cs)
    (a b : Option Param) :
    Faithful [" AND ".toList.map some ++ cs.map clauseToken] (template clause a) (template clause b) (a = b) := by
  subst hclause
  obtain ⟨n, hn⟩ : ∃ n, cs.count '?' = n + 1 :=
    Nat.exists_eq_succ_of_ne_zero (List.count_pos_iff.2 h).ne'
  have hparams (v : Param) : (template (String.ofList cs) (some v)).params = v :: List.replicate n v := by
    simp only [template, Fragment.params, String.toList_ofList, (tokens_fill v cs).2, hn, List.replicate_succ]
  refine .constraint (template _) rfl (fun v => tokens_template cs v) (fun v => ?_) (fun v w heq => ?_) a b
  · rw [hparams]
    exact List.cons_ne_nil _ _
  · rw [hparams, hparams] at heq
    exact (List.cons.inj heq).1

end GridGateway.Sql
