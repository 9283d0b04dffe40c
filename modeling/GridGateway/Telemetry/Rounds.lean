import GridGateway.Telemetry.Manager

/-!
# The refresher at work

A run of the refresher from its start to its end. At every moment those who have something to do take turns: who
was woken first goes first, and goes on until there is nothing left for it to do. When nobody has anything to do,
time passes until the next event. A worker that waits for a reply, and the supervisor between two rounds, wake up
by the clock; those that wake up at the same time do so in the order in which they fell asleep. The order to stop is
heeded at once.
-/

namespace GridGateway.Telemetry

/-- Who takes a turn. -/
inductive Actor where
  | supervisor
  /-- The idle worker that is next in line. -/
  | worker
  /-- The worker that is busy with a job. -/
  | job (number : Nat)
  deriving DecidableEq, Repr

namespace Manager

variable {σ β : Type}

/-- The move that an actor would make now. -/
def moveOf (m : Manager σ β) : Actor → Move
  | .supervisor =>
    if m.stopping then .leave
    else match m.supervisor with
      | .resting => .wake
      | .reading _ _ => .read
      | _ => .offer
  | .worker => if m.stopping then .dismiss m.idle else .take
  | .job number => .answer number

/-- The alarms that an actor sets when it cannot move; none if it waits for somebody else. The deadline of a job
needs an alarm only once, when the job waits for the first time. -/
def alarms (m : Manager σ β) (isNew : Bool) : Actor → List Nat
  | .supervisor =>
    match m.supervisor with
    | .resting => [m.nextRound]
    | _ => []
  | .worker => []
  | .job number =>
    match m.jobs.find? (·.number = number) with
    | some j => if isNew then [j.due, j.deadline] else [j.due]
    | none => []

/-- Who an actor is after a move: an idle worker has become busy or has left, or a busy one has become idle; a
worker that has to queue behind other idle ones has nothing to do for the moment. -/
def whoNext (before after : Manager σ β) : Actor → List Actor
  | .worker => if before.stopping then [] else [.job before.begun]
  | .job number =>
    if after.jobs.any (·.number = number) then [.job number]
    else if after.idle = 1 then [.worker]
    else []
  | a => [a]

/-- Who is woken by a move. -/
def woken (after : Manager σ β) : Move → List Actor
  | .offer => if 0 < after.idle then [.worker] else []
  | .take =>
    (match after.supervisor with
      | .offering _ _ _ _ => [.supervisor]
      | _ => []) ++
    if 0 < after.idle then [.worker] else []
  | _ => []

end Manager

/-- Who is awake, in the order of the turns to come, and which alarms are set for whom, in the order in which they
were set. -/
structure Agenda where
  awake : List Actor
  alarms : List (Nat × Actor) := []

namespace Agenda

/-- Adds actors to those who are awake, unless they are already. -/
def rouse (a : Agenda) (actors : List Actor) : Agenda :=
  { a with awake := a.awake ++ actors.filter (· ∉ a.awake) }

/-- Whether an alarm is set for an actor. -/
def hasAlarm (a : Agenda) (actor : Actor) : Bool := a.alarms.any (·.2 = actor)

/-- Cancels the alarms of an actor. -/
def cancel (a : Agenda) (actor : Actor) : Agenda := { a with alarms := a.alarms.filter (·.2 ≠ actor) }

/-- Sets alarms for an actor. -/
def set (a : Agenda) (actor : Actor) (times : List Nat) : Agenda :=
  { a with alarms := a.alarms ++ times.map (·, actor) }

/-- The time at which the next alarm goes off. -/
def nextTime? (a : Agenda) : Option Nat := (a.alarms.map (·.1)).min?

/-- The agenda once the alarms up to a time have gone off, when nobody was awake. -/
def ring (a : Agenda) (time : Nat) : Agenda where
  awake := ((a.alarms.filter (·.1 ≤ time)).map (·.2)).eraseDups
  alarms := a.alarms.filter (time < ·.1)

end Agenda

/-- A refresher at work. -/
structure Running (σ β : Type) where
  manager : Manager σ β
  agenda : Agenda

namespace Running

variable {σ β : Type}

/-- One turn. The refresher is stopped when the time `stopAt` has come; it is over when nobody is awake
any more and no alarm is set. -/
def turn (w : Workshop σ β) (stopAt : Nat) (r : Running σ β) : Option (Running σ β) :=
  let m := r.manager
  match r.agenda.awake with
  | actor :: rest =>
    let move := m.moveOf actor
    match m.step w move with
    | some after =>
      let next := m.whoNext after actor
      let agenda := { r.agenda with awake := next ++ rest }
      let agenda := if actor ∈ next then agenda else agenda.cancel actor
      some ⟨after, agenda.rouse (after.woken move)⟩
    | none =>
      let agenda := { r.agenda with awake := rest }
      some ⟨m, agenda.set actor (m.alarms (!agenda.hasAlarm actor) actor)⟩
  | [] =>
    let next := r.agenda.nextTime?
    if !m.stopping && next.all (stopAt ≤ ·) then do
      let waited ← m.step w (.wait (stopAt - m.clock))
      let stopped ← waited.step w .stop
      return ⟨stopped, (r.agenda.cancel .supervisor).rouse [.supervisor, .worker]⟩
    else do
      let time ← next
      let waited ← m.step w (.wait (time - m.clock))
      return ⟨waited, r.agenda.ring time⟩

/-- At most so many turns. -/
def turns (w : Workshop σ β) (stopAt : Nat) : Nat → Running σ β → Running σ β
  | 0, r => r
  | n + 1, r =>
    match r.turn w stopAt with
    | some r => turns w stopAt n r
    | none => r

end Running

/-- A bound on the turns of a run over an inventory of so many nodes. In a round every node is read, offered and
taken once, is asked three questions and recorded; each of these may be followed by a turn that leads to nothing.
The rounds are a period apart, up to the tolerance for late ones. -/
def turnBound (s : Settings) (nodes runMs : Nat) : Nat :=
  let rounds := runMs / (s.periodMs - 5) + 2
  (16 * nodes + 16) * rounds

/-- The state of the refresher at the end of a run that is stopped after `runMs` milliseconds. -/
def runRounds {σ β : Type} (w : Workshop σ β) (nodes : Nat) (runMs : Nat) (store : σ) (bus : β) :
    Manager σ β :=
  let start : Running σ β := ⟨.start w store bus, ⟨[.supervisor], []⟩⟩
  (start.turns w runMs (turnBound w.settings nodes runMs)).manager

end GridGateway.Telemetry
