import GridGateway.Proofs.Text.Percent
import GridGateway.Query.Text
import Mathlib.Data.List.TakeWhile

/-!
# Reading a list of pairs back from its query string

* `decodePairs_encodePairs`: the pairs are read back in their order, repetitions included, as long as the keys are
  made of unreserved characters; the values may be any text;
* `mem_encodePairs`: a query string holds nothing but unreserved characters, percent signs and the two marks `=`
  and `&`, so it ends neither a path nor itself;
* `decodePairs_join`: any two texts joined by `&` have the pairs of the one and then those of the other.

Both laws are put together in `queries_are_lossless_and_compositional`.
-/

namespace GridGateway.Query

open Text (isUnreservedChar)

variable {α : Type} [DecidableEq α]

/-- The parts of a list are those that the library's splitting gives. -/
theorem splitAll_eq_splitOn (sep : α) (xs : List α) : splitAll sep xs = xs.splitOn sep := by
  induction xs with
  | nil => rfl
  | cons x xs ih =>
    rw [splitAll, List.splitOn_cons_eq_if_modifyHead, ih]
    by_cases hx : x = sep
    · simp only [hx, beq_self_eq_true, ↓reduceIte]
    · simp only [hx, beq_iff_eq, ↓reduceIte]
      cases hsplit : xs.splitOn sep with
      | nil => exact absurd hsplit (List.splitOn_ne_nil sep xs)
      | cons part parts => rfl

/-- Parts without the separator are found again. -/
theorem splitAll_intercalate {sep : α} {parts : List (List α)} (h : ∀ part ∈ parts, sep ∉ part)
    (hne : parts ≠ []) : splitAll sep ([sep].intercalate parts) = parts := by
  rw [splitAll_eq_splitOn, List.splitOn_intercalate sep h hne]

/-- No part holds the separator. -/
theorem notMem_of_mem_splitAll {sep : α} {xs part : List α} (h : part ∈ splitAll sep xs) : sep ∉ part := by
  induction xs generalizing part with
  | nil =>
    rw [splitAll, List.mem_singleton] at h
    rw [h]
    exact List.not_mem_nil
  | cons x xs ih =>
    rw [splitAll] at h
    split at h
    · rcases List.mem_cons.1 h with rfl | h
      · exact List.not_mem_nil
      · exact ih h
    · next hx =>
      cases hparts : splitAll sep xs with
      | nil => exact absurd (splitAll_eq_splitOn sep xs ▸ hparts) (List.splitOn_ne_nil sep xs)
      | cons first parts =>
        rw [hparts] at h ih
        rcases List.mem_cons.1 h with rfl | h
        · exact List.not_mem_cons_of_ne_of_not_mem (Ne.symm hx) (ih List.mem_cons_self)
        · exact ih (List.mem_cons_of_mem _ h)

/-- A separator that stands nowhere in front is the first one. -/
theorem splitFirst_append {sep : α} {front : List α} (h : sep ∉ front) (back : List α) :
    splitFirst sep (front ++ sep :: back) = (front, back) := by
  have hfront : ∀ x ∈ front, decide (x ≠ sep) = true := by
    intro x hx
    exact decide_eq_true fun e => h (e ▸ hx)
  rw [splitFirst, List.takeWhile_append_of_pos hfront, List.dropWhile_append_of_pos hfront]
  simp

/-- A list without the separator is all in front. -/
theorem splitFirst_of_not_mem {sep : α} {xs : List α} (h : sep ∉ xs) : splitFirst sep xs = (xs, []) := by
  have hall : ∀ x ∈ xs, decide (x ≠ sep) = true := by
    intro x hx
    exact decide_eq_true fun e => h (e ▸ hx)
  rw [splitFirst, List.takeWhile_eq_self_iff.mpr hall, List.dropWhile_eq_nil_iff.mpr hall]
  rfl

/-- A character that is neither unreserved nor one of the marks of a list of pairs. -/
private theorem not_unreserved {c : Char} (h : isUnreservedChar c = false) {cs : List Char}
    (hcs : ∀ d ∈ cs, isUnreservedChar d = true) : c ∉ cs := by
  intro hc
  rw [hcs c hc] at h
  cases h

/-- Only plus signs change when plus signs are read as blanks. -/
private theorem spaced_of_not_mem {cs : List Char} (h : '+' ∉ cs) :
    (cs.map fun c => if c = '+' then ' ' else c) = cs := by
  have hid : ∀ c ∈ cs, (if c = '+' then ' ' else c) = c := by
    intro c hc
    have hne : c ≠ '+' := fun e => h (e ▸ hc)
    exact if_neg hne
  exact (List.map_congr_left hid).trans (List.map_id _)

private theorem not_mem_percentEncode {c : Char} (hc : isUnreservedChar c = false) (hp : c ≠ '%') (s : String) :
    c ∉ (Text.percentEncode s).toList := by
  intro h
  rcases Text.mem_percentEncode h with h | h
  · exact hp h
  · rw [hc] at h
    cases h

/-- A percent-coded component is read back as the text that it stands for. -/
private theorem decodeComponent_percentEncode (s : String) : decodeComponent (Text.percentEncode s).toList = s := by
  rw [decodeComponent, spaced_of_not_mem (not_mem_percentEncode (by decide) (by decide) s),
    Text.percentDecode?_percentEncode]
  rfl

/-- A component of unreserved characters is read as it stands. -/
private theorem decodeComponent_of_unreserved {s : String} (h : ∀ c ∈ s.toList, isUnreservedChar c = true) :
    decodeComponent s.toList = s := by
  rw [decodeComponent, spaced_of_not_mem (not_unreserved (by decide) h), Text.percentDecode?_of_unreserved h]
  exact String.ofList_toList

private theorem toList_encodePair (pair : String × String) :
    (encodePair pair).toList = pair.1.toList ++ '=' :: (Text.percentEncode pair.2).toList := by
  rw [encodePair, String.toList_append, String.toList_append, List.append_assoc]
  rfl

/-- A pair is read back from its part. -/
private theorem decodePart_encodePair {pair : String × String} (h : ∀ c ∈ pair.1.toList, isUnreservedChar c = true) :
    decodePart (encodePair pair).toList = pair := by
  rw [decodePart, toList_encodePair, splitFirst_append (not_unreserved (by decide) h)]
  simp only [decodeComponent_of_unreserved h, decodeComponent_percentEncode]

private theorem mem_encodePair {pair : String × String} (h : ∀ c ∈ pair.1.toList, isUnreservedChar c = true)
    {c : Char} (hc : c ∈ (encodePair pair).toList) : c = '=' ∨ c = '%' ∨ isUnreservedChar c = true := by
  rw [toList_encodePair, List.mem_append, List.mem_cons] at hc
  rcases hc with hc | hc | hc
  · exact .inr (.inr (h c hc))
  · exact .inl hc
  · exact .inr (Text.mem_percentEncode hc)

/-- What a query string may hold. -/
theorem mem_encodePairs {pairs : List (String × String)}
    (h : ∀ pair ∈ pairs, ∀ c ∈ pair.1.toList, isUnreservedChar c = true) {c : Char}
    (hc : c ∈ (encodePairs pairs).toList) : c = '&' ∨ c = '=' ∨ c = '%' ∨ isUnreservedChar c = true := by
  rw [encodePairs, String.toList_intercalate] at hc
  induction pairs with
  | nil => simp at hc
  | cons pair pairs ih =>
    have hpair : c ∈ (encodePair pair).toList → c = '&' ∨ c = '=' ∨ c = '%' ∨ isUnreservedChar c = true :=
      fun hc => .inr (mem_encodePair (h pair (by simp)) hc)
    cases pairs with
    | nil =>
      rw [List.map_singleton, List.map_singleton, List.intercalate_singleton] at hc
      exact hpair hc
    | cons next rest =>
      rw [List.map_cons, List.map_cons, List.map_cons, List.map_cons, List.intercalate_cons_cons, List.mem_append,
        List.mem_append] at hc
      rcases hc with (hc | hc) | hc
      · exact hpair hc
      · left; simpa using hc
      · exact ih (fun p hp => h p (by simp [hp])) hc

/-- The part of a pair is not empty and holds no mark that separates parts. -/
private theorem encodePair_isPart {pair : String × String} (h : ∀ c ∈ pair.1.toList, isUnreservedChar c = true) :
    '&' ∉ (encodePair pair).toList ∧ (!(encodePair pair).toList.isEmpty) = true := by
  constructor
  · intro hc
    have hmem := mem_encodePair h hc
    revert hmem
    decide
  · rw [toList_encodePair]
    simp

/-- A query string does not begin with a question mark. -/
private theorem dropMarks_encodePairs {pairs : List (String × String)}
    (h : ∀ pair ∈ pairs, ∀ c ∈ pair.1.toList, isUnreservedChar c = true) :
    (encodePairs pairs).toList.dropWhile (· = '?') = (encodePairs pairs).toList := by
  cases hcs : (encodePairs pairs).toList with
  | nil => rfl
  | cons c cs =>
    have hc : c ≠ '?' := by
      rintro rfl
      have hmem := mem_encodePairs h (c := '?') (by rw [hcs]; simp)
      revert hmem
      decide
    exact List.dropWhile_cons_of_neg (by simpa using hc)

/-- The pairs of a query string are those that it was made of, in their order. -/
theorem decodePairs_encodePairs {pairs : List (String × String)}
    (h : ∀ pair ∈ pairs, ∀ c ∈ pair.1.toList, isUnreservedChar c = true) :
    decodePairs (encodePairs pairs) = pairs := by
  rw [decodePairs, dropMarks_encodePairs h]
  cases pairs with
  | nil => rfl
  | cons pair pairs =>
    have hparts : ∀ part ∈ ((pair :: pairs).map encodePair).map String.toList,
        '&' ∉ part ∧ (!part.isEmpty) = true := by
      intro part hpart
      rw [List.map_map, List.mem_map] at hpart
      obtain ⟨p, hp, rfl⟩ := hpart
      exact encodePair_isPart (h p hp)
    have hread : ∀ p ∈ pair :: pairs, (decodePart ∘ String.toList ∘ encodePair) p = p :=
      fun p hp => decodePart_encodePair (h p hp)
    rw [encodePairs, String.toList_intercalate]
    change ((splitAll '&' (['&'].intercalate _)).filter _).map decodePart = _
    rw [splitAll_intercalate (fun part hp => (hparts part hp).1) (by simp),
      List.filter_eq_self.mpr fun part hp => (hparts part hp).2, List.map_map, List.map_map]
    exact (List.map_congr_left hread).trans (List.map_id _)

/-! ### Joined query strings -/

/-- The parts of two lists with a separator in between are the parts of the one and then those of the other. -/
theorem splitAll_append_cons (sep : α) (xs ys : List α) :
    splitAll sep (xs ++ sep :: ys) = splitAll sep xs ++ splitAll sep ys := by
  induction xs with
  | nil => simp [splitAll]
  | cons x xs ih =>
    rw [List.cons_append, splitAll, splitAll, ih]
    split
    · rfl
    · -- there is always a first part to go on with
      cases hparts : splitAll sep xs with
      | nil => exact absurd (splitAll_eq_splitOn sep xs ▸ hparts) (List.splitOn_ne_nil sep xs)
      | cons part parts => rfl

/-- The pairs of two texts joined by `&`, of which the second does not begin with a question mark, are the pairs of the
first and then those of the second. -/
theorem decodePairs_join (a : String) {b : String} (hb : b.toList.head? ≠ some '?') :
    decodePairs (a ++ "&" ++ b) = decodePairs a ++ decodePairs b := by
  have htext : (a ++ "&" ++ b).toList = a.toList ++ '&' :: b.toList := by
    rw [String.toList_append, String.toList_append, List.append_assoc]
    rfl
  have hmarks : (a.toList ++ '&' :: b.toList).dropWhile (· = '?') =
      a.toList.dropWhile (· = '?') ++ '&' :: b.toList := by
    rw [List.dropWhile_append]
    split
    · next h => rw [List.isEmpty_iff.1 h]; rfl
    · rfl
  have hrest : b.toList.dropWhile (· = '?') = b.toList := by
    cases hcs : b.toList with
    | nil => rfl
    | cons c cs =>
      rw [hcs, List.head?_cons, Ne, Option.some_inj] at hb
      exact List.dropWhile_cons_of_neg (by simpa using hb)
  rw [decodePairs, htext, hmarks, splitAll_append_cons, List.filter_append, List.map_append, decodePairs, decodePairs,
    hrest]

/-- A question mark in front is not part of a query string. -/
private theorem decodePairs_mark (a : String) : decodePairs ("?" ++ a) = decodePairs a := by
  have htext : ("?" ++ a).toList = '?' :: a.toList := String.toList_append
  rw [decodePairs, htext, List.dropWhile_cons_of_pos (by decide), decodePairs]

/-- Pairs go through a query string without a loss, as long as their keys need no escapes, and query strings are read
part by part: joining two of them joins their pairs, whatever they hold. -/
theorem queries_are_lossless_and_compositional :
    (∀ pairs : List (String × String),
      (∀ key ∈ pairs.map (·.1), ∀ c ∈ key.toList, c.isAlphanum = true ∨ c ∈ ['-', '.', '_', '~']) →
        decodePairs (encodePairs pairs) = pairs) ∧
    (∀ a b : String, b.toList.head? ≠ some '?' → decodePairs (a ++ "&" ++ b) = decodePairs a ++ decodePairs b) ∧
    ∀ a : String, decodePairs ("?" ++ a) = decodePairs a := by
  refine ⟨fun pairs hkeys => ?_, fun a b hb => decodePairs_join a hb, decodePairs_mark⟩
  refine decodePairs_encodePairs fun pair hpair c hc => ?_
  exact Text.isUnreservedChar_iff.2 (hkeys pair.1 (List.mem_map_of_mem hpair) c hc)

/-- Pairs with a repeated key and marks in their values, and behind them a text that no pairs are written as. -/
theorem broken_query_behind_pairs :
    decodePairs (encodePairs [("city", "a&b=c"), ("city", "100%+"), ("x-1", "é")] ++ "&" ++ "=%zz&&%ff=1&+") =
      [("city", "a&b=c"), ("city", "100%+"), ("x-1", "é"), ("", "%zz"), ("%ff", "1"), (" ", "")] := by
  have hbroken : decodePairs "=%zz&&%ff=1&+" = [("", "%zz"), ("%ff", "1"), (" ", "")] := by decide +kernel
  obtain ⟨hread, hjoin, -⟩ := queries_are_lossless_and_compositional
  rw [hjoin _ _ (by decide), hread _ (by simp), hbroken]
  rfl

end GridGateway.Query
