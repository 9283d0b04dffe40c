import GridGateway.Sql.Session

/-!
# Readers of rows

A column is read when it holds a value of the kind that is asked for (`Row.column_of_value?`), and readers go on from
one column to the next (`RowReader.bind_of_ok`).

Every reader of the inventory is put together from readers of columns, so the only errors it reports are about columns
(`RowReader.Columnwise`).  An error in the name of the database can therefore come from the database only
(`Expect.Columnwise.reply_eq`).
-/

namespace GridGateway.Sql

variable {α : Type}

/-! ### What is read -/

/-- A row that can be read is read, and the next reader goes on with it. -/
theorem RowReader.bind_of_ok {β : Type} {read : RowReader α} {next : α → RowReader β} {row : Row} {a : α}
    (h : read row = .ok a) : (read >>= next) row = next a row := by
  change (read row >>= fun a => next a row) = _
  rw [h]
  rfl

/-- A value of the kind that is asked for is read. -/
theorem Row.column_of_value? {row : Row} {name : String} {plain a : α} {pick : Json → Option α} {v : Json}
    (h : row.value? name = some v) (hv : pick v = some a) : Row.column name plain pick row = .ok a := by
  simp only [Row.column, h, hv]

/-! ### Faults of columns -/

/-- A reader whose only errors are about columns. -/
def RowReader.Columnwise (read : RowReader α) : Prop :=
  ∀ row e, read row = .error e → ∃ label fault, e = .column label fault

namespace RowReader.Columnwise

theorem pure (a : α) : Columnwise (pure a : RowReader α) := fun _ _ h => (nomatch h)

theorem bind {β : Type} {read : RowReader α} {next : α → RowReader β} (h : Columnwise read)
    (hn : ∀ a, Columnwise (next a)) : Columnwise (read >>= next) := by
  intro row e heq
  have hrun : (read >>= next) row = read row >>= fun a => next a row := rfl
  rw [hrun] at heq
  cases hread : read row with
  | error e' =>
    rw [hread] at heq
    cases heq
    exact h row e hread
  | ok a =>
    rw [hread] at heq
    exact hn a row e heq

/-- The rows of an answer are read with such errors only. -/
theorem mapM {read : RowReader α} (h : Columnwise read) {rows : List Row} {e : DatabaseError}
    (heq : rows.mapM read.run = .error e) : ∃ label fault, e = .column label fault := by
  induction rows with
  | nil => cases heq
  | cons row rows ih =>
    rw [List.mapM_cons] at heq
    cases hrow : read.run row with
    | error e' =>
      rw [hrow] at heq
      cases heq
      exact h row e hrow
    | ok a =>
      rw [hrow] at heq
      cases hrows : rows.mapM read.run with
      | error e' =>
        rw [hrows] at heq
        cases heq
        exact ih hrows
      | ok as =>
        rw [hrows] at heq
        cases heq

end RowReader.Columnwise

open RowReader Row

/-! ### Columns -/

private theorem columnwise_column (name : String) (plain : α) (pick : Json → Option α) :
    Columnwise (Row.column name plain pick) := by
  intro row e h
  unfold Row.column at h
  split at h
  · cases h
  · split at h
    · cases h
    · cases h
      exact ⟨_, _, rfl⟩

private theorem columnwise_documents (name : String) (dec : Json.Decoder α) : Columnwise (Row.documents name dec) := by
  intro row e h
  unfold Row.documents at h
  split at h
  · cases h
  · cases h
    exact ⟨_, _, rfl⟩
  · split at h
    · cases h
    · cases h
      exact ⟨_, _, rfl⟩

private theorem columnwise_int (name : String) : Columnwise (Row.int name) := columnwise_column _ _ _

private theorem columnwise_text (name : String) : Columnwise (Row.text name) := columnwise_column _ _ _

private theorem columnwise_bool (name : String) : Columnwise (Row.bool name) := columnwise_column _ _ _

private theorem columnwise_optional (name : String) (pick : Json → Option α) : Columnwise (Row.optional name pick) :=
  columnwise_column _ _ _

/-! ### Rows -/

private theorem columnwise_readCapacity (kind : String) : Columnwise (readCapacity kind) := by
  unfold readCapacity
  iterate 4 refine .bind (columnwise_int _) fun _ => ?_
  exact .pure _

theorem columnwise_readNode (now : UInt64) : Columnwise (readNode now) := by
  unfold readNode
  iterate 3 refine .bind (columnwise_int _) fun _ => ?_
  iterate 2 refine .bind (columnwise_text _) fun _ => ?_
  iterate 4 refine .bind (columnwise_int _) fun _ => ?_
  iterate 2 refine .bind (columnwise_readCapacity _) fun _ => ?_
  iterate 6 refine .bind (columnwise_text _) fun _ => ?_
  iterate 3 refine .bind (columnwise_bool _) fun _ => ?_
  refine .bind (columnwise_text _) fun _ => ?_
  iterate 2 refine .bind (columnwise_int _) fun _ => ?_
  iterate 2 refine .bind (columnwise_optional _ _) fun _ => ?_
  exact .pure _

theorem columnwise_readFarm : Columnwise readFarm := by
  unfold readFarm
  refine .bind (columnwise_int _) fun _ => .bind (columnwise_text _) fun _ => ?_
  iterate 2 refine .bind (columnwise_int _) fun _ => ?_
  iterate 2 refine .bind (columnwise_text _) fun _ => ?_
  exact .bind (columnwise_bool _) fun _ => .bind (columnwise_documents _ _) fun _ => .pure _

theorem columnwise_readTwin : Columnwise readTwin := by
  unfold readTwin
  refine .bind (columnwise_int _) fun _ => .bind (columnwise_text _) fun _ => ?_
  iterate 2 refine .bind (columnwise_optional _ _) fun _ => ?_
  exact .pure _

theorem columnwise_readContractRow : Columnwise readContractRow := by
  unfold readContractRow
  iterate 2 refine .bind (columnwise_int _) fun _ => ?_
  refine .bind (columnwise_text _) fun _ => .bind (columnwise_int _) fun _ => ?_
  refine .bind (columnwise_text _) fun _ => .bind (columnwise_int _) fun _ => ?_
  iterate 2 refine .bind (columnwise_text _) fun _ => ?_
  refine .bind (columnwise_int _) fun _ => .bind (columnwise_text _) fun _ => ?_
  exact .bind (columnwise_documents _ _) fun _ => .pure _

theorem columnwise_readCounters : Columnwise readCounters := by
  unfold readCounters
  iterate 8 refine .bind (columnwise_int _) fun _ => ?_
  exact .bind (columnwise_readCapacity _) fun _ => .pure _

theorem columnwise_readCountry : Columnwise readCountry := by
  unfold readCountry
  exact .bind (columnwise_text _) fun _ => .bind (columnwise_int _) fun _ => .pure _

theorem columnwise_readCount : Columnwise readCount := by
  intro row e h
  unfold readCount at h
  split at h
  · cases h
  · cases h
  · cases h
    exact ⟨_, _, rfl⟩

theorem columnwise_readTarget : Columnwise readTarget := by
  unfold readTarget
  iterate 3 refine .bind (columnwise_int _) fun _ => ?_
  exact .bind (columnwise_optional _ _) fun _ => .pure _

theorem columnwise_readRecord : Columnwise readRecord := by
  unfold readRecord
  iterate 2 refine .bind (columnwise_readCapacity _) fun _ => ?_
  refine .bind (columnwise_int _) fun _ => ?_
  iterate 3 refine .bind (columnwise_text _) fun _ => ?_
  refine .bind (columnwise_int _) fun _ => ?_
  iterate 3 refine .bind (columnwise_optional _ _) fun _ => ?_
  exact .pure _

/-! ### Answers -/

/-- An expectation whose reader finds fault with columns only. -/
def Expect.Columnwise : {α : Type} → Expect α → Prop
  | _, .all read => RowReader.Columnwise read
  | _, .optional read => RowReader.Columnwise read
  | _, .one read => RowReader.Columnwise read
  | _, .nothing => True

/-- An error in the name of the database is the reply of the database. -/
theorem Expect.Columnwise.reply_eq {e : Expect α} (he : e.Columnwise) {r : Reply} {message : String}
    (h : e.value r = .error (.reported message)) : r = .failed message := by
  have hrow {β : Type} {read : RowReader β} (hread : RowReader.Columnwise read) (row : Row) :
      read row ≠ .error (.reported message) := by
    intro heq
    obtain ⟨_, _, hcolumn⟩ := hread row _ heq
    cases hcolumn
  cases r with
  | failed m =>
    rw [Expect.value] at h
    cases h
    rfl
  | rows rows =>
    cases e with
    | all read =>
      obtain ⟨_, _, hcolumn⟩ := RowReader.Columnwise.mapM he h
      cases hcolumn
    | optional read =>
      cases rows with
      | nil => cases h
      | cons row rows =>
        rw [Expect.value] at h
        cases hread : read.run row with
        | ok a =>
          rw [hread] at h
          cases h
        | error e =>
          rw [hread] at h
          cases h
          exact absurd hread (hrow he row)
    | one read =>
      cases rows with
      | nil => cases h
      | cons row rows => exact absurd h (hrow he row)
    | nothing => cases h
  | done =>
    cases e with
    | all read => cases h
    | optional read => cases h
    | one read => exact absurd h (hrow he [])
    | nothing => cases h

end GridGateway.Sql
