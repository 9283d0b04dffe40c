import GridGateway.Bus.Call

/-!
# Fetches

A fetch asks a node the three questions one after the other, under one deadline for all of them. It ends with a
report, with the first error, or at the deadline.

A fetch is a walk through three stages; in each the node is asked one question and its reply leads to the next
stage. `Stage.pass` is one step of the walk, which is all that the passing of time can interrupt.
-/

namespace GridGateway.Bus

/-- How far a fetch has come: what has been answered so far. -/
inductive Stage where
  | first
  | second (statistics : NodeStatistics)
  | third (statistics : NodeStatistics) (hypervisor : String)
  deriving Repr

namespace Stage

/-- The question to ask in a stage. -/
def question : Stage → Question
  | first => .statistics
  | second _ => .hypervisor
  | third _ _ => .version

/-- Where the reply to the question of a stage leads: to the next stage or to the report. -/
def next : (s : Stage) → s.question.Reply → Stage ⊕ Report
  | first, statistics => .inl (.second statistics)
  | second statistics, hypervisor => .inl (.third statistics hypervisor)
  | third statistics hypervisor, version => .inr (.ofAnswers statistics hypervisor version)

/-- What has become of a fetch after a step. -/
inductive Turn where
  /-- The next question is to be asked at a time. -/
  | ask (time : Nat) (stage : Stage)
  /-- The fetch is over. -/
  | over (time : Nat) (result : Except BusError Report)

/-- Asks the question of a stage at a time. A reply counts if it comes by the deadline, which is the end of the
`timeout` that all questions share. -/
def pass {β : Type} (bus : Bus β) (twinId : UInt32) (timeout deadline time : Nat) (s : Stage) :
    StateM β Turn := do
  let (delay, reply) ← bus.ask twinId s.question
  if deadline < time + delay then
    return .over deadline (.error (.timeout (millis timeout)))
  else match reply with
    | .error e => return .over (time + delay) (.error e)
    | .ok r =>
      match s.next r with
      | .inl stage => return .ask (time + delay) stage
      | .inr report => return .over (time + delay) (.ok report)

end Stage

/-- What a whole fetch came to. -/
structure Fetch where
  /-- The questions asked, each with the milliseconds since the start. -/
  asked : List (Nat × Question)
  /-- The milliseconds that the fetch took. -/
  elapsed : Nat
  result : Except BusError Report

/-- The fetch with a question asked before. -/
def Fetch.after (time : Nat) (q : Question) (f : Fetch) : Fetch := { f with asked := (time, q) :: f.asked }

/-- Goes on with a fetch from a stage, for at most so many questions. -/
def Stage.run {β : Type} (bus : Bus β) (twinId : UInt32) (timeout : Nat) :
    Nat → Nat → Stage → StateM β Fetch
  | 0, time, _ => return ⟨[], time, .error (.timeout (millis timeout))⟩
  | left + 1, time, s => do
    match ← s.pass bus twinId timeout timeout time with
    | .over last result => return ⟨[(time, s.question)], last, result⟩
    | .ask later stage =>
      let rest ← Stage.run bus twinId timeout left later stage
      return rest.after time s.question

/-- Fetches a report from a node within `timeout` milliseconds. There are three stages, so three questions are
enough. -/
def fetch {β : Type} (bus : Bus β) (twinId : UInt32) (timeout : Nat) : StateM β Fetch :=
  Stage.run bus twinId timeout 3 0 .first

end GridGateway.Bus
