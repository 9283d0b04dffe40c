import GridGateway.Sql.DerivedObjects
import GridGateway.Sql.Row

/-!
# Sessions

A session is a conversation with a database that answers from a list of replies, one for each statement, and keeps
the statements it was sent. When a statement fails because a derived object is missing, the setup script is run
and the statement is sent once more; whatever happens then, the error of the first attempt is the one reported.
-/

namespace GridGateway.Sql

/-- The answer of the database to one statement. -/
inductive Reply where
  /-- The statement failed. -/
  | failed (message : String)
  /-- The statement succeeded with these rows. -/
  | rows (rows : List Row)
  /-- The statement succeeded, with nothing to tell: no rows, and plain values where a row must be. -/
  | done

/-- A conversation with the database. -/
structure Session where
  /-- The answers still to come; when none is left every statement succeeds. -/
  replies : List Reply := []
  /-- The statements sent so far, the last one first. -/
  sent : List Statement := []

/-- A conversation that ends with a value or an error. -/
abbrev Talk (α : Type) : Type := Ask Session α

/-- The statement that stands for the setup script. -/
def setupStatement : Statement := ⟨setupScript, []⟩

/-- Sends a statement and takes the next answer. -/
def send (s : Statement) : StateM Session Reply := fun session =>
  match session.replies with
  | [] => (.done, { session with sent := s :: session.sent })
  | r :: rs => (r, { replies := rs, sent := s :: session.sent })

/-- How the rows of an answer are used. -/
inductive Expect : Type → Type 1 where
  /-- All rows. -/
  | all {α : Type} (read : RowReader α) : Expect (List α)
  /-- The first row, if there is one. -/
  | optional {α : Type} (read : RowReader α) : Expect (Option α)
  /-- The first row, which must be there. -/
  | one {α : Type} (read : RowReader α) : Expect α
  /-- No row. -/
  | nothing : Expect Unit

/-- The value of an answer. -/
def Expect.value {α : Type} : Expect α → Reply → Except DatabaseError α
  | _, .failed message => .error (.reported message)
  | .all read, .rows rows => rows.mapM read.run
  | .all _, .done => .ok []
  | .optional read, .rows (row :: _) => (read.run row).map some
  | .optional _, .rows [] => .ok none
  | .optional _, .done => .ok none
  | .one read, .rows (row :: _) => read.run row
  | .one _, .rows [] => .error .noRow
  | .one read, .done => read.run []
  | .nothing, _ => .ok ()

/-- Sends a statement once. -/
def attempt {α : Type} (q : Fragment) (e : Expect α) : StateM Session (Except DatabaseError α) := do
  let reply ← send q.statement
  return e.value reply

/-- Runs the setup script. -/
def runSetup : StateM Session (Except DatabaseError Unit) := do
  let reply ← send setupStatement
  return Expect.nothing.value reply

/-- Whether an error says that a derived object is missing. -/
def DatabaseError.isMissingObject : DatabaseError → Bool
  | .reported message => Sql.isMissingObject message
  | _ => false

/-- Sends a statement; when a derived object is missing, runs the setup script and sends it once more. -/
def query {α : Type} (q : Fragment) (e : Expect α) : Talk α := ExceptT.mk do
  match ← attempt q e with
  | .ok a => return .ok a
  | .error first =>
    if DatabaseError.isMissingObject first then
      match ← runSetup with
      | .error _ => return .error (.database first)
      | .ok () =>
        match ← attempt q e with
        | .ok a => return .ok a
        | .error _ => return .error (.database first)
    else return .error (.database first)

end GridGateway.Sql
