import GridGateway.Proofs.Sql.Conversation
import GridGateway.Proofs.Sql.Readers

/-!
# Plans of statements

A call to the database follows a *plan*: statements one after the other, each of which may depend on the values read
from the answers before, and at the end an outcome.  In the conversation a statement of a plan takes up one *segment*:
it is sent, the setup script may be sent after it, and then it may be sent once more.  `Segment` says when each of
these happens, and `Plan.Run` how the segments decide the outcome.

Whatever the database replies, a plan is followed in such segments (`Plan.runs`), as long as its readers of rows do not
pass for the database (`Plan.Columnwise`).
-/

namespace GridGateway.Sql

variable {α : Type}

/-! ### What is said -/

/-- A statement that was sent and the reply to it. -/
structure Exchange where
  statement : Statement
  reply : Reply

/-- What is sent and replied from one point of a conversation to another. -/
inductive Session.Hears : Session → List Exchange → Session → Prop
  | nil {s : Session} : Hears s [] s
  | cons {s s₁ s' : Session} {x : Exchange} {xs : List Exchange} (h : send x.statement s = (x.reply, s₁))
      (rest : Hears s₁ xs s') : Hears s (x :: xs) s'

namespace Session.Hears

theorem append {s s₁ s' : Session} {xs ys : List Exchange} (h : s.Hears xs s₁) (h' : s₁.Hears ys s') :
    s.Hears (xs ++ ys) s' := by
  induction h with
  | nil => exact h'
  | cons hx _ ih => exact .cons hx (ih h')

theorem sent_eq {s s' : Session} {xs : List Exchange} (h : s.Hears xs s') :
    s'.sent = (xs.map (·.statement)).reverse ++ s.sent := by
  induction h with
  | nil => rfl
  | @cons s s₁ s' x xs hx _ ih =>
    have hsent : s₁.sent = x.statement :: s.sent := by
      have hsession : (send x.statement s).2 = s₁ := congrArg Prod.snd hx
      rw [← hsession, send]
      cases s.replies <;> rfl
    rw [ih, hsent, List.map_cons, List.reverse_cons, List.append_assoc, List.singleton_append]

end Session.Hears

/-- Whether a reply says that its statement succeeded. -/
def Reply.Succeeded : Reply → Prop
  | .failed _ => False
  | _ => True

/-- Whether a reply says that a derived object is missing. -/
def Reply.MissesObject : Reply → Prop
  | .failed message => isMissingObject message = true
  | _ => False

/-! ### Segments -/

/-- The part of a conversation that is about one statement: the reply to it, the reply to the setup script if that
was sent, and the reply to the statement once more if that was sent. -/
structure Segment where
  statement : Statement
  first : Reply
  setup : Option Reply
  again : Option Reply
  /-- The setup script is sent just when a derived object is missing. -/
  setup_iff : setup.isSome ↔ first.MissesObject
  /-- The statement is repeated just when the setup script succeeded. -/
  again_iff : again.isSome ↔ ∃ reply ∈ setup, reply.Succeeded

namespace Segment

/-- What is said in a segment. -/
def exchanges (g : Segment) : List Exchange :=
  ⟨g.statement, g.first⟩ :: ((g.setup.map (⟨setupStatement, ·⟩)).toList ++ (g.again.map (⟨g.statement, ·⟩)).toList)

/-- The reply to the statement when it was sent last. -/
def last (g : Segment) : Reply := g.again.getD g.first

/-- The statement was sent once: no derived object was missing. -/
def once (statement : Statement) {first : Reply} (h : ¬ first.MissesObject) : Segment where
  statement := statement
  first := first
  setup := none
  again := none
  setup_iff := ⟨fun hsome => (nomatch hsome), fun hmissing => absurd hmissing h⟩
  again_iff := ⟨fun hsome => (nomatch hsome), fun ⟨_, hreply, _⟩ => (nomatch hreply)⟩

/-- The statement was not repeated, since the setup script failed. -/
def unrepaired (statement : Statement) {first setup : Reply} (h : first.MissesObject) (hsetup : ¬ setup.Succeeded) :
    Segment where
  statement := statement
  first := first
  setup := some setup
  again := none
  setup_iff := iff_of_true rfl h
  again_iff := ⟨fun hsome => (nomatch hsome), fun ⟨_, hreply, hs⟩ => absurd (Option.some.inj hreply ▸ hs) hsetup⟩

/-- The statement was repeated after the setup script. -/
def repaired (statement : Statement) {first setup : Reply} (h : first.MissesObject) (hsetup : setup.Succeeded)
    (again : Reply) : Segment where
  statement := statement
  first := first
  setup := some setup
  again := some again
  setup_iff := iff_of_true rfl h
  again_iff := iff_of_true rfl ⟨setup, rfl, hsetup⟩

/-- What comes out of a segment: the value that the last reply gives, or else the error of the first one. -/
inductive Gives (g : Segment) (e : Expect α) : Except DatabaseError α → Prop
  | value {a : α} (h : e.value g.last = .ok a) : Gives g e (.ok a)
  | error {first later : DatabaseError} (h : e.value g.last = .error later) (hfirst : e.value g.first = .error first) :
      Gives g e (.error first)

end Segment

/-! ### Plans -/

/-- A plan: statements with what their answers are used for, and an outcome. -/
inductive Plan (α : Type) : Type 1 where
  | done (outcome : Except InventoryError α)
  | ask {β : Type} (q : Fragment) (e : Expect β) (next : β → Plan α)

namespace Plan

/-- The conversation that follows a plan. -/
def talk : Plan α → Talk α
  | done outcome => ExceptT.mk (pure outcome)
  | ask q e next => query q e >>= fun b => (next b).talk

/-- How segments lead through a plan to an outcome.  The first one that gives an error is the last one. -/
inductive Run : Plan α → List Segment → Except InventoryError α → Prop
  | done {outcome : Except InventoryError α} : Run (.done outcome) [] outcome
  | stop {β : Type} {q : Fragment} {e : Expect β} {next : β → Plan α} {g : Segment} {error : DatabaseError}
      (hq : g.statement = q.statement) (h : g.Gives e (.error error)) :
      Run (.ask q e next) [g] (.error (.database error))
  | goOn {β : Type} {q : Fragment} {e : Expect β} {next : β → Plan α} {g : Segment} {b : β} {gs : List Segment}
      {outcome : Except InventoryError α} (hq : g.statement = q.statement) (h : g.Gives e (.ok b))
      (rest : Run (next b) gs outcome) : Run (.ask q e next) (g :: gs) outcome

/-- Whether the statements of a plan are different from each other and from those sent before it. -/
def Fresh : Plan α → List Statement → Prop
  | done _, _ => True
  | ask q _ next, sent => q.statement ∉ sent ∧ ∀ b, (next b).Fresh (sent ++ [q.statement])

/-- No two segments are about the same statement. -/
theorem Run.nodup {p : Plan α} {gs : List Segment} {outcome : Except InventoryError α} (h : p.Run gs outcome)
    {sent : List Statement} (hsent : sent.Nodup) (hp : p.Fresh sent) : (sent ++ gs.map (·.statement)).Nodup := by
  have hnext {x : Statement} {sent : List Statement} (hsent : sent.Nodup) (hx : x ∉ sent) : (sent ++ [x]).Nodup :=
    List.nodup_append.2 ⟨hsent, List.pairwise_singleton _ x,
      fun y hy z hz heq => hx (List.mem_singleton.1 hz ▸ heq ▸ hy)⟩
  induction h generalizing sent with
  | done => rwa [List.map_nil, List.append_nil]
  | stop hq _ =>
    rw [List.map_singleton, hq]
    exact hnext hsent hp.1
  | goOn hq _ _ ih =>
    rw [List.map_cons, hq, List.append_cons]
    exact ih (hnext hsent hp.1) (hp.2 _)

/-- Whether the readers of a plan find fault with columns only. -/
def Columnwise : Plan α → Prop
  | done _ => True
  | ask _ e next => e.Columnwise ∧ ∀ b, (next b).Columnwise

end Plan

/-! ### Following a plan -/

/-- An error says that a derived object is missing if the reply does. -/
private theorem Expect.Columnwise.isMissingObject_iff {e : Expect α} (he : e.Columnwise) {r : Reply}
    {error : DatabaseError} (h : e.value r = .error error) :
    DatabaseError.isMissingObject error = true ↔ r.MissesObject := by
  constructor
  · intro hmissing
    cases error with
    | reported message =>
      rw [he.reply_eq h]
      exact hmissing
    | noRow => cases hmissing
    | column label fault => cases hmissing
  · intro hmissing
    cases r with
    | failed message =>
      rw [Expect.value] at h
      cases h
      exact hmissing
    | rows rows => exact hmissing.elim
    | done => exact hmissing.elim

private theorem not_missesObject_of_value {e : Expect α} {r : Reply} {a : α} (h : e.value r = .ok a) :
    ¬ r.MissesObject := by
  cases r with
  | failed message =>
    rw [Expect.value] at h
    cases h
  | rows rows => exact id
  | done => exact id

private theorem succeeded_of_value {r : Reply} {done : Unit} (h : Expect.nothing.value r = .ok done) : r.Succeeded := by
  cases r with
  | failed message => cases h
  | rows rows => trivial
  | done => trivial

private theorem not_succeeded_of_error {r : Reply} {e : DatabaseError} (h : Expect.nothing.value r = .error e) :
    ¬ r.Succeeded := by
  cases r with
  | failed message => exact id
  | rows rows => cases h
  | done => cases h

private theorem attempt_of_send {q : Fragment} {s s' : Session} {r : Reply} (h : send q.statement s = (r, s'))
    (e : Expect α) : attempt q e s = (e.value r, s') := by
  show (e.value (send q.statement s).1, (send q.statement s).2) = _
  rw [h]

private theorem runSetup_of_send {s s' : Session} {r : Reply} (h : send setupStatement s = (r, s')) :
    runSetup s = (Expect.nothing.value r, s') := by
  show (Expect.nothing.value (send setupStatement s).1, (send setupStatement s).2) = _
  rw [h]

section

variable {q : Fragment} {e : Expect α} {s s₁ s₂ s₃ : Session} {first setup again : Reply} {err : DatabaseError}

private theorem query_of_value {a : α} (hfirst : send q.statement s = (first, s₁)) (h : e.value first = .ok a) :
    (query q e).run s = (.ok a, s₁) := by
  simp only [query, ExceptT.run_mk, bind, StateT.bind, attempt_of_send hfirst, h]
  rfl

private theorem query_of_error (hfirst : send q.statement s = (first, s₁)) (h : e.value first = .error err)
    (hobject : ¬ DatabaseError.isMissingObject err = true) : (query q e).run s = (.error (.database err), s₁) := by
  simp only [query, ExceptT.run_mk, bind, StateT.bind, attempt_of_send hfirst, h, if_neg hobject]
  rfl

private theorem query_of_failed_setup {err' : DatabaseError} (hfirst : send q.statement s = (first, s₁))
    (h : e.value first = .error err) (hobject : DatabaseError.isMissingObject err = true)
    (hsetup : send setupStatement s₁ = (setup, s₂)) (hfailed : Expect.nothing.value setup = .error err') :
    (query q e).run s = (.error (.database err), s₂) := by
  simp only [query, ExceptT.run_mk, bind, StateT.bind, attempt_of_send hfirst, h, if_pos hobject,
    runSetup_of_send hsetup, hfailed]
  rfl

/-- After the setup script the statement is sent once more, but an error is still that of the first attempt. -/
private theorem query_of_setup (hfirst : send q.statement s = (first, s₁)) (h : e.value first = .error err)
    (hobject : DatabaseError.isMissingObject err = true) (hsetup : send setupStatement s₁ = (setup, s₂))
    (hdone : Expect.nothing.value setup = .ok ()) (hagain : send q.statement s₂ = (again, s₃)) :
    (query q e).run s = ((e.value again).mapError fun _ => .database err, s₃) := by
  simp only [query, ExceptT.run_mk, bind, StateT.bind, attempt_of_send hfirst, h, if_pos hobject,
    runSetup_of_send hsetup, hdone, attempt_of_send hagain]
  cases e.value again <;> rfl

end

/-- A statement takes up one segment, and what comes out of the segment is the outcome. -/
private theorem query_gives {q : Fragment} {e : Expect α} (he : e.Columnwise) (s : Session) :
    ∃ (g : Segment) (r : Except DatabaseError α), g.statement = q.statement ∧ g.Gives e r ∧
      s.Hears g.exchanges ((query q e).run s).2 ∧ ((query q e).run s).1 = r.mapError .database := by
  rcases hfirst : send q.statement s with ⟨first, s₁⟩
  cases hvalue : e.value first with
  | ok a =>
    rw [query_of_value hfirst hvalue]
    exact ⟨.once q.statement (not_missesObject_of_value hvalue), .ok a, rfl, .value hvalue, .cons hfirst .nil, rfl⟩
  | error err =>
    have hobject := he.isMissingObject_iff hvalue
    by_cases hmissing : first.MissesObject
    · rcases hsetup : send setupStatement s₁ with ⟨setup, s₂⟩
      cases hdone : Expect.nothing.value setup with
      | error err' =>
        rw [query_of_failed_setup hfirst hvalue (hobject.2 hmissing) hsetup hdone]
        exact ⟨.unrepaired q.statement hmissing (not_succeeded_of_error hdone), .error err, rfl,
          .error hvalue hvalue, .cons hfirst (.cons hsetup .nil), rfl⟩
      | ok done =>
        rcases hagain : send q.statement s₂ with ⟨again, s₃⟩
        let g : Segment := .repaired q.statement hmissing (succeeded_of_value hdone) again
        have hhears : s.Hears g.exchanges s₃ := .cons hfirst (.cons hsetup (.cons hagain .nil))
        rw [query_of_setup hfirst hvalue (hobject.2 hmissing) hsetup hdone hagain]
        cases hlast : e.value again with
        | ok a => exact ⟨g, .ok a, rfl, .value hlast, hhears, rfl⟩
        | error err' => exact ⟨g, .error err, rfl, .error hlast hvalue, hhears, rfl⟩
    · rw [query_of_error hfirst hvalue (mt hobject.1 hmissing)]
      exact ⟨.once q.statement hmissing, .error err, rfl, .error hvalue hvalue, .cons hfirst .nil, rfl⟩

/-- Whatever the database replies, a plan is followed in segments. -/
theorem Plan.runs {p : Plan α} (hp : p.Columnwise) (s : Session) :
    ∃ gs : List Segment, p.Run gs (p.talk.run s).1 ∧ s.Hears (gs.flatMap Segment.exchanges) (p.talk.run s).2 := by
  induction p generalizing s with
  | done outcome => exact ⟨[], .done, .nil⟩
  | ask q e next ih =>
    obtain ⟨g, r, hg, hgives, hhears, hr⟩ := query_gives (q := q) hp.1 s
    have htalk : (Plan.ask q e next).talk = query q e >>= fun b => (next b).talk := rfl
    cases r with
    | ok b =>
      have hquery : (query q e).run s = (.ok b, ((query q e).run s).2) := Prod.ext hr rfl
      rw [htalk, run_bind_of_ok hquery]
      obtain ⟨gs, hrun, hrest⟩ := ih b (hp.2 b) ((query q e).run s).2
      exact ⟨g :: gs, .goOn hg hgives hrun, hhears.append hrest⟩
    | error err =>
      have hquery : (query q e).run s = (.error (.database err), ((query q e).run s).2) := Prod.ext hr rfl
      rw [htalk, run_bind_of_error hquery]
      refine ⟨[g], .stop hg hgives, ?_⟩
      rw [List.flatMap_singleton]
      exact hhears

end GridGateway.Sql
