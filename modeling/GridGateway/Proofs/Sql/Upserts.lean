import GridGateway.Proofs.Query.Pairs
import GridGateway.Proofs.Sql.Placeholders
import GridGateway.Sql.Row
import GridGateway.Sql.TelemetryTable

/-!
# What an upsert writes

An upsert is read back from its text: the columns in the order of the text, the expressions for their values, and the
assignments to a row that is there already (`Upsert.ofText?`).  The row that it inserts pairs the first column with the
first value, the second one with the second, and so on, where the value of a placeholder is the parameter with its
number (`Upsert.row`).  An upsert that is made from a row says what it was made from (`Upsert.ofText?_upsert`) and
inserts this row (`Upsert.row_upsert`).
-/

namespace GridGateway.Sql

open Query Fragment

/-! ### Enumerations -/

/-- The items of an enumeration, without the blanks in front of them. -/
def items (cs : List Char) : List (List Char) := (splitAll ',' cs).map (·.dropWhile (· = ' '))

/-- A text with commas between its items. -/
def enumeration (xs : List (List Char)) : List Char := [',', ' '].intercalate xs

/-- A text that can be an item of an enumeration in brackets. -/
structure IsItem (cs : List Char) : Prop where
  comma : ',' ∉ cs
  bracket : ')' ∉ cs
  blank : cs.head? ≠ some ' '

/-- The test for items. -/
def isItem (cs : List Char) : Bool := cs.all (fun c => c != ',' && c != ')') && cs.head? != some ' '

theorem IsItem.of_isItem {cs : List Char} (h : isItem cs = true) : IsItem cs := by
  simp only [isItem, Bool.and_eq_true, List.all_eq_true, bne_iff_ne] at h
  exact ⟨fun hm => (h.1 _ hm).1 rfl, fun hm => (h.1 _ hm).2 rfl, h.2⟩

/-- An item that is a single word. -/
structure IsName (cs : List Char) : Prop extends IsItem cs where
  word : ' ' ∉ cs
  ne_nil : cs ≠ []

/-- The test for names. -/
def isName (cs : List Char) : Bool := isItem cs && cs.all (· != ' ') && !cs.isEmpty

theorem IsName.of_isName {cs : List Char} (h : isName cs = true) : IsName cs := by
  simp only [isName, Bool.and_eq_true, List.all_eq_true, bne_iff_ne, Bool.not_eq_true', List.isEmpty_eq_false_iff] at h
  exact ⟨.of_isItem h.1.1, fun hm => h.1.2 _ hm rfl, h.2⟩

theorem toList_intercalate_comma (ss : List String) :
    (", ".intercalate ss).toList = enumeration (ss.map String.toList) := String.toList_intercalate

private theorem enumeration_singleton (cs : List Char) : enumeration [cs] = cs := List.intercalate_singleton

private theorem enumeration_cons (cs : List Char) {xs : List (List Char)} (hne : xs ≠ []) :
    enumeration (cs :: xs) = cs ++ ',' :: ' ' :: enumeration xs := by
  obtain ⟨b, xs, rfl⟩ := List.exists_cons_of_ne_nil hne
  rw [enumeration, List.intercalate_cons_cons, List.append_assoc]
  rfl

private theorem items_blank (cs : List Char) : items (' ' :: cs) = items cs := by
  unfold items
  rw [splitAll, if_neg (by decide)]
  -- there is always a first item
  cases hsplit : splitAll ',' cs with
  | nil => exact absurd (splitAll_eq_splitOn ',' cs ▸ hsplit) (List.splitOn_ne_nil ',' cs)
  | cons part parts => simp

private theorem items_of_comma_notMem {cs : List Char} (hcomma : ',' ∉ cs) (hblank : cs.head? ≠ some ' ') :
    items cs = [cs] := by
  have hsplit : splitAll ',' cs = [cs] := by
    have hparts := splitAll_intercalate (List.forall_mem_singleton.2 hcomma) (List.cons_ne_nil cs [])
    rwa [List.intercalate_singleton] at hparts
  rw [items, hsplit, List.map_singleton]
  cases cs with
  | nil => rfl
  | cons c cs => rw [List.dropWhile_cons_of_neg (by simpa using hblank)]

private theorem items_append_comma {cs : List Char} (h : IsItem cs) (rest : List Char) :
    items (cs ++ ',' :: ' ' :: rest) = cs :: items rest := by
  have hitem := items_of_comma_notMem h.comma h.blank
  unfold items at hitem
  rw [items, splitAll_append_cons, List.map_append, hitem, ← items, items_blank, List.singleton_append]

/-- The items of an enumeration are found again. -/
private theorem items_enumeration {xs : List (List Char)} (h : ∀ cs ∈ xs, IsItem cs) (hne : xs ≠ []) :
    items (enumeration xs) = xs := by
  induction xs with
  | nil => exact absurd rfl hne
  | cons a xs ih =>
    rw [List.forall_mem_cons] at h
    by_cases hxs : xs = []
    · rw [hxs, enumeration_singleton, items_of_comma_notMem h.1.comma h.1.blank]
    · rw [enumeration_cons a hxs, items_append_comma h.1, ih h.2 hxs]

/-- They are found again as the first words when something without a comma follows. -/
private theorem items_enumeration_append {xs : List (List Char)} (h : ∀ cs ∈ xs, IsName cs) (hne : xs ≠ [])
    {tail : List Char} (htail : ',' ∉ tail) :
    (items (enumeration xs ++ ' ' :: tail)).map (·.takeWhile (· ≠ ' ')) = xs := by
  induction xs with
  | nil => exact absurd rfl hne
  | cons a xs ih =>
    rw [List.forall_mem_cons] at h
    obtain ⟨ha, hrest⟩ := h
    have hword : ∀ c ∈ a, decide (c ≠ ' ') = true := fun c hc => decide_eq_true fun he => ha.word (he ▸ hc)
    by_cases hxs : xs = []
    · obtain ⟨c, cs, rfl⟩ := List.exists_cons_of_ne_nil ha.ne_nil
      have hcomma : ',' ∉ c :: cs ++ ' ' :: tail := by simp [not_or.1 (mt List.mem_cons.2 ha.comma), htail]
      rw [hxs, enumeration_singleton, items_of_comma_notMem hcomma ha.blank, List.map_singleton,
        List.takeWhile_append_of_pos hword]
      simp
    · rw [enumeration_cons a hxs, List.append_assoc, List.cons_append, List.cons_append,
        items_append_comma ha.toIsItem, List.map_cons, ih hrest hxs, List.takeWhile_eq_self_iff.2 hword]

private theorem bracket_notMem_enumeration {xs : List (List Char)} (h : ∀ cs ∈ xs, IsItem cs) :
    ')' ∉ enumeration xs := by
  induction xs with
  | nil => simp [enumeration]
  | cons a xs ih =>
    rw [List.forall_mem_cons] at h
    by_cases hxs : xs = []
    · rw [hxs, enumeration_singleton]
      exact h.1.bracket
    · rw [enumeration_cons a hxs]
      simp [h.1.bracket, ih h.2]

/-! ### Reading an upsert -/

/-- What follows a keyword at the beginning of a text. -/
def after? (keyword : String) (cs : List Char) : Option (List Char) :=
  if keyword.toList <+: cs then some (cs.drop keyword.toList.length) else none

private theorem after?_append (keyword : String) (cs : List Char) :
    after? keyword (keyword.toList ++ cs) = some cs := by
  rw [after?, if_pos (List.prefix_append _ _), List.drop_left]

/-- A statement that inserts a row, or makes assignments in the one with the same key. -/
structure Upsert where
  table : String
  /-- The columns of the row, in their order. -/
  columns : List String
  /-- The expressions for the values of the row, in their order. -/
  values : List (List Char)
  key : String
  /-- The assignments, each a column and an expression. -/
  updates : List (String × String)

/-- The assignment that a text stands for. -/
def assigned (cs : List Char) : String × String :=
  let (column, rest) := splitFirst ' ' cs
  (String.ofList column, String.ofList (rest.drop 2))

/-- The upsert that a text stands for. -/
def Upsert.ofText? (text : String) : Option Upsert := do
  let cs ← after? "INSERT INTO " text.toList
  let (table, cs) := splitFirst ' ' cs
  let cs ← after? "(" cs
  let (columns, cs) := splitFirst ')' cs
  let cs ← after? " VALUES (" cs
  let (values, cs) := splitFirst ')' cs
  let cs ← after? " ON CONFLICT (" cs
  let (key, cs) := splitFirst ')' cs
  let cs ← after? " DO UPDATE SET " cs
  return ⟨String.ofList table, (items columns).map String.ofList, items values, String.ofList key,
    (items cs).map assigned⟩

/-- The expressions for the values of columns, of which the first one that is sent with the statement has a number. -/
def expressions (k : Nat) : List ColumnValue → List (List Char)
  | [] => []
  | .bound _ :: vs => ('$' :: Nat.toDigits 10 k) :: expressions (k + 1) vs
  | .fixed s :: vs => s.toList :: expressions k vs

/-- What an upsert is made of can be read back from its text. -/
structure IsReadable (table key : String) (row : List (String × ColumnValue)) (updates : List (String × String)) :
    Prop where
  table : ' ' ∉ table.toList
  key : ')' ∉ key.toList
  row_ne_nil : row ≠ []
  columns : ∀ column ∈ row.map (·.1), IsItem column.toList
  fixed : ∀ s, .fixed s ∈ row.map (·.2) → IsItem s.toList ∧ s.toList.head? ≠ some '$'
  updates_ne_nil : updates ≠ []
  updates : ∀ a ∈ updates, IsName a.1.toList ∧ IsItem a.2.toList

section

variable {vs : List ColumnValue}

private theorem isItem_expressions (h : ∀ s, .fixed s ∈ vs → IsItem s.toList) (k : Nat) :
    ∀ cs ∈ expressions k vs, IsItem cs := by
  fun_induction expressions k vs with
  | case1 k => simp
  | case2 k p vs ih =>
    rw [List.forall_mem_cons]
    refine ⟨?_, ih fun s hs => h s (List.mem_cons_of_mem _ hs)⟩
    have hdigits : ∀ c ∈ Nat.toDigits 10 k, c.isDigit = true := fun c hc => Text.isDigit_of_mem_toDigits hc
    refine ⟨fun hm => ?_, fun hm => ?_, by simp⟩
    · exact absurd (hdigits _ ((List.mem_cons.1 hm).resolve_left (by decide))) (by decide)
    · exact absurd (hdigits _ ((List.mem_cons.1 hm).resolve_left (by decide))) (by decide)
  | case3 k s vs ih =>
    rw [List.forall_mem_cons]
    exact ⟨h s (List.mem_cons_self ..), ih fun s hs => h s (List.mem_cons_of_mem _ hs)⟩

private theorem expressions_eq_nil_iff {k : Nat} : expressions k vs = [] ↔ vs = [] := by
  cases vs with
  | nil => simp [expressions]
  | cons v vs => cases v <;> simp [expressions]

private theorem textFrom_commaSeparated_cons (k : Nat) (p : Piece) {ps : List Piece} (hne : ps ≠ []) :
    textFrom k (commaSeparated (p :: ps)) =
      textFrom k [p] ++ ',' :: ' ' :: textFrom (k + (params [p]).length) (commaSeparated ps) := by
  have hcomma : ", ".toList = [',', ' '] := String.toList_ofList
  obtain ⟨q, ps, rfl⟩ := List.exists_cons_of_ne_nil hne
  have hsplit : commaSeparated (p :: q :: ps) = [p] ++ .sql ", " :: commaSeparated (q :: ps) := rfl
  rw [hsplit, textFrom_append, textFrom, hcomma]
  rfl

/-- Values with commas between them are the enumeration of their expressions. -/
private theorem textFrom_values (k : Nat) (vs : List ColumnValue) :
    textFrom k (commaSeparated (vs.map (·.piece))) = enumeration (expressions k vs) := by
  fun_induction expressions k vs with
  | case1 k => rfl
  | case2 k p vs ih | case3 k s vs ih =>
    by_cases hvs : vs = []
    · rw [hvs, expressions, enumeration_singleton]
      exact List.append_nil _
    · rw [List.map_cons, textFrom_commaSeparated_cons _ _ (by simpa using hvs),
        enumeration_cons _ (mt expressions_eq_nil_iff.1 hvs), ← ih]
      simp [ColumnValue.piece, textFrom, params]

private theorem params_commaSeparated (ps : List Piece) : params (commaSeparated ps) = params ps := by
  induction ps with
  | nil => rfl
  | cons p ps ih =>
    cases ps with
    | nil => rfl
    | cons q ps =>
      have hcons : commaSeparated (p :: q :: ps) = p :: .sql ", " :: commaSeparated (q :: ps) := rfl
      rw [hcons]
      cases p <;> simp only [params, ih]

end

/-- The parameters of an upsert are the values of its columns that are sent with it. -/
private theorem params_upsert (table key : String) (row : List (String × ColumnValue))
    (updates : List (String × String)) :
    (upsert table key row updates).params = params ((row.map (·.2)).map (·.piece)) := by
  rw [upsert, params_append, params_append, params_commaSeparated, List.map_map]
  simp [params, Function.comp_def]

/-- The text of an upsert. -/
private theorem toList_text_upsert (table key : String) (row : List (String × ColumnValue))
    (updates : List (String × String)) :
    (upsert table key row updates).text.toList =
      "INSERT INTO ".toList ++ (table.toList ++ ' ' :: ("(".toList ++ (enumeration (row.map (·.1.toList)) ++ ')' ::
        (" VALUES (".toList ++ (enumeration (expressions 1 (row.map (·.2))) ++ ')' ::
          (" ON CONFLICT (".toList ++ (key.toList ++ ')' ::
            (" DO UPDATE SET ".toList ++ enumeration (updates.map fun a => (assignment a).toList))))))))) := by
  have hopen : " (".toList = ' ' :: "(".toList := by simp
  have hvalues : ") VALUES (".toList = ')' :: " VALUES (".toList := by simp
  have hconflict : ") ON CONFLICT (".toList = ')' :: " ON CONFLICT (".toList := by simp
  have hset : ") DO UPDATE SET ".toList = ')' :: " DO UPDATE SET ".toList := by simp
  have hpieces : row.map (·.2.piece) = (row.map (·.2)).map (·.piece) := by simp
  rw [text, String.toList_ofList, upsert, textFrom_append, textFrom_append, hpieces, textFrom_values]
  simp only [textFrom, String.toList_append, toList_intercalate_comma, hopen, hvalues, hconflict, hset, List.map_map,
    Function.comp_def, List.append_assoc, List.cons_append, List.append_nil, params, List.length_nil,
    Nat.add_zero]

private theorem toList_assignment (a : String × String) :
    (assignment a).toList = a.1.toList ++ ' ' :: '=' :: ' ' :: a.2.toList := by simp [assignment]

/-- The text of an assignment says what is assigned. -/
private theorem assigned_assignment {a : String × String} (h : ' ' ∉ a.1.toList) :
    assigned (assignment a).toList = a := by
  rw [toList_assignment, assigned, splitFirst_append h]
  simp

private theorem isItem_assignment {a : String × String} (hcolumn : IsName a.1.toList)
    (hvalue : IsItem a.2.toList) : IsItem (assignment a).toList where
  comma := by simp [toList_assignment, hcolumn.comma, hvalue.comma]
  bracket := by simp [toList_assignment, hcolumn.bracket, hvalue.bracket]
  blank := by
    rw [toList_assignment]
    obtain ⟨c, cs, hcs⟩ := List.exists_cons_of_ne_nil hcolumn.ne_nil
    have hblank := hcolumn.blank
    rw [hcs] at hblank ⊢
    exact hblank

/-- An upsert says in its text what it is made of. -/
theorem Upsert.ofText?_upsert {table key : String} {row : List (String × ColumnValue)}
    {updates : List (String × String)} (h : IsReadable table key row updates) :
    ofText? (upsert table key row updates).text =
      some ⟨table, row.map (·.1), expressions 1 (row.map (·.2)), key, updates⟩ := by
  have hcolumns : ∀ cs ∈ row.map (·.1.toList), IsItem cs := by
    intro cs hcs
    obtain ⟨column, hcolumn, rfl⟩ := List.mem_map.1 hcs
    exact h.columns _ (List.mem_map_of_mem hcolumn)
  have hvalues := isItem_expressions (fun s hs => (h.fixed s hs).1) 1
  have hupdates : ∀ cs ∈ updates.map fun a => (assignment a).toList, IsItem cs := by
    intro cs hcs
    obtain ⟨a, ha, rfl⟩ := List.mem_map.1 hcs
    exact isItem_assignment (h.updates a ha).1 (h.updates a ha).2
  have hassigned : (updates.map fun a => (assignment a).toList).map assigned = updates := by
    rw [List.map_map]
    exact (List.map_congr_left fun a ha => assigned_assignment (h.updates a ha).1.word).trans (List.map_id _)
  have hvs : expressions 1 (row.map (·.2)) ≠ [] := by
    rw [Ne, expressions_eq_nil_iff, List.map_eq_nil_iff]
    exact h.row_ne_nil
  rw [ofText?, toList_text_upsert]
  simp only [after?_append, Option.bind_eq_bind, Option.bind_some, splitFirst_append h.table,
    splitFirst_append (bracket_notMem_enumeration hcolumns), splitFirst_append (bracket_notMem_enumeration hvalues),
    splitFirst_append h.key, items_enumeration hcolumns (by simpa using h.row_ne_nil), items_enumeration hvalues hvs,
    items_enumeration hupdates (by simpa using h.updates_ne_nil), hassigned]
  simp

/-! ### The row of an upsert -/

/-- A value of the database. -/
def Param.value : Param → Json
  | .bigint n => .int n
  | .integer n => .int n
  | .text none => .null
  | .text (some s) => .str s
  | .bool b => .bool b
  | .bigints ns => .arr (ns.map .int)

/-- The value of a literal. -/
def literal? (cs : List Char) : Option Json :=
  if cs = ['N', 'U', 'L', 'L'] then some .null
  else match cs with
    | '\'' :: cs => some (.str (String.ofList (cs.takeWhile (· ≠ '\''))))
    | cs => if !cs.isEmpty && cs.all Char.isDigit then some (.int (Nat.ofDigitChars 10 cs 0)) else none

/-- The value of an expression: of a parameter or of a literal. -/
def evaluate? (params : List Param) : List Char → Option Json
  | '$' :: digits => (params[Nat.ofDigitChars 10 digits 0 - 1]?).map Param.value
  | cs => literal? cs

/-- The value that a column gets. -/
def ColumnValue.value? : ColumnValue → Option Json
  | .bound p => some p.value
  | .fixed s => literal? s.toList

/-- The row that an upsert inserts: each column has the value in the same place. -/
def Upsert.row (u : Upsert) (params : List Param) : Row :=
  (u.columns.zip u.values).filterMap fun (column, cs) => (evaluate? params cs).map (column, ·)

theorem evaluate?_placeholder (params : List Param) (k : Nat) :
    evaluate? params ('$' :: Nat.toDigits 10 (k + 1)) = (params[k]?).map Param.value := by
  rw [evaluate?, Nat.ofDigitChars_ten_toDigits, Nat.add_sub_cancel]

private theorem evaluate?_of_head {cs : List Char} (h : cs.head? ≠ some '$') (params : List Param) :
    evaluate? params cs = literal? cs := by
  unfold evaluate?
  split
  · exact absurd rfl h
  · rfl

/-- The expressions have the values of the columns, whatever parameters stand in front. -/
private theorem map_evaluate?_expressions {vs : List ColumnValue}
    (h : ∀ s, .fixed s ∈ vs → s.toList.head? ≠ some '$') (front : List Param) :
    (expressions (front.length + 1) vs).map (evaluate? (front ++ params (vs.map (·.piece)))) = vs.map (·.value?) := by
  induction vs generalizing front with
  | nil => rfl
  | cons v vs ih =>
    have hrest := ih fun s hs => h s (List.mem_cons_of_mem _ hs)
    cases v with
    | bound p =>
      have hparams : params ((ColumnValue.bound p :: vs).map (·.piece)) = p :: params (vs.map (·.piece)) := rfl
      have hp : (front ++ p :: params (vs.map (·.piece)))[front.length]? = some p := by simp
      have hfront := hrest (front ++ [p])
      rw [List.length_append, List.length_singleton, List.append_assoc, List.singleton_append] at hfront
      rw [hparams, expressions, List.map_cons, List.map_cons, evaluate?_placeholder, hp, hfront]
      rfl
    | fixed s =>
      have hparams : params ((ColumnValue.fixed s :: vs).map (·.piece)) = params (vs.map (·.piece)) := rfl
      rw [hparams, expressions, List.map_cons, List.map_cons, evaluate?_of_head (h s (List.mem_cons_self ..)), hrest]
      rfl

/-- An upsert inserts the row that it is made from. -/
theorem Upsert.row_upsert {table key : String} {row : List (String × ColumnValue)}
    {updates : List (String × String)} (h : IsReadable table key row updates) :
    Upsert.row ⟨table, row.map (·.1), expressions 1 (row.map (·.2)), key, updates⟩
      (upsert table key row updates).params =
        row.filterMap fun (column, v) => v.value?.map (column, ·) := by
  have hvalues := map_evaluate?_expressions (fun s hs => (h.fixed s hs).2) []
  rw [params_upsert]
  generalize params ((row.map (·.2)).map (·.piece)) = params at hvalues ⊢
  have hpairs : (row.map (·.1)).zip ((expressions 1 (row.map (·.2))).map (evaluate? params)) =
      row.map fun r => (r.1, r.2.value?) := by
    refine (congrArg (List.zip _) hvalues).trans ?_
    rw [List.map_map, List.zip_map']
    rfl
  rw [List.zip_map_right] at hpairs
  calc Upsert.row ⟨table, row.map (·.1), expressions 1 (row.map (·.2)), key, updates⟩ params
    _ = (((row.map (·.1)).zip (expressions 1 (row.map (·.2)))).map (Prod.map id (evaluate? params))).filterMap
          fun (column, v) => v.map (column, ·) := by
      rw [List.filterMap_map]
      rfl
    _ = row.filterMap fun (column, v) => v.value?.map (column, ·) := by
      rw [hpairs, List.filterMap_map]
      rfl

/-! ### Other statements -/

/-- The value that an update gives to a column, as far as the row to insert and the parameters tell. -/
def Upsert.assigns? (u : Upsert) (params : List Param) (column : String) : Option Json := do
  let (_, expression) ← u.updates.find? (·.1 = column)
  match after? "EXCLUDED." expression.toList with
  | some cs => (u.row params).value? (String.ofList cs)
  | none => evaluate? params expression.toList

theorem Upsert.assigns?_of_fromInserted {u : Upsert} {column : String}
    (h : u.updates.find? (·.1 = column) = some (fromInserted column)) (params : List Param) :
    u.assigns? params column = (u.row params).value? column := by
  have hafter : after? "EXCLUDED." ("EXCLUDED." ++ column).toList = some column.toList := by
    rw [String.toList_append, after?_append]
  rw [assigns?, h]
  simp only [fromInserted, Option.bind_eq_bind, Option.bind_some, hafter, String.ofList_toList]

theorem Upsert.assigns?_of_literal {u : Upsert} {column expression : String}
    (h : u.updates.find? (·.1 = column) = some (column, expression))
    (hafter : after? "EXCLUDED." expression.toList = none) (hhead : expression.toList.head? ≠ some '$')
    (params : List Param) : u.assigns? params column = literal? expression.toList := by
  rw [assigns?, h]
  simp only [Option.bind_eq_bind, Option.bind_some, hafter, evaluate?_of_head hhead]

/-- The columns that a query selects. -/
def selected? (text : String) : Option (List String) := do
  let cs ← after? "SELECT " text.toList
  return (items cs).map fun cs => String.ofList (cs.takeWhile (· ≠ ' '))

theorem selected?_enumeration {text : String} {columns : List String} {tail : List Char}
    (h : text.toList = "SELECT ".toList ++ (enumeration (columns.map String.toList) ++ ' ' :: tail))
    (hcolumns : ∀ column ∈ columns, IsName column.toList) (hne : columns ≠ []) (htail : ',' ∉ tail) :
    selected? text = some columns := by
  have hnames : ∀ cs ∈ columns.map String.toList, IsName cs := List.forall_mem_map.2 hcolumns
  have hitems := items_enumeration_append hnames (by simpa using hne) htail
  have hwords := congrArg (List.map String.ofList) hitems
  rw [List.map_map, List.map_map] at hwords
  rw [selected?, h, after?_append]
  refine congrArg some (hwords.trans ?_)
  simp [Function.comp_def]

/-! ### Tables -/

/-- What follows the first place where a keyword stands. -/
def afterFirst? (keyword : List Char) : List Char → Option (List Char)
  | [] => none
  | c :: cs => if keyword.isPrefixOf (c :: cs) then some ((c :: cs).drop keyword.length) else afterFirst? keyword cs

/-- The column that a part of a table's description is about, and the expression for its default. -/
def columnDefault (part : List Char) : String × String :=
  let words := (splitAll ' ' (part.map fun c => if c = '\n' then ' ' else c)).filter (!·.isEmpty)
  let default := (words.dropWhile (· ≠ ['D', 'E', 'F', 'A', 'U', 'L', 'T'])).drop 1
  (String.ofList (words.headD []), String.ofList (default.headD ['N', 'U', 'L', 'L']))

/-- The columns that a script gives to a table, with the expressions for their defaults. -/
def createdColumns (table : String) (script : List Char) : List (String × String) :=
  match afterFirst? ("CREATE TABLE IF NOT EXISTS " ++ table ++ " (").toList script with
  | none => []
  | some cs => (splitAll ',' (splitFirst ')' cs).1).map columnDefault

/-- The row of the defaults of columns; a column without a default has no value. -/
def Row.ofDefaults (created : List (String × String)) : Row :=
  created.map fun (column, default) => (column, (literal? default.toList).getD .null)

/-- The row of a table that an inserted one becomes: columns that are not given keep their defaults. -/
def Row.over (row defaults : Row) : Row := defaults.map fun (column, v) => (column, (row.value? column).getD v)

/-- The columns of a row that are selected. -/
def Row.select (columns : List String) (row : Row) : Row :=
  columns.map fun column => (column, (row.value? column).getD .null)

end GridGateway.Sql
