import GridGateway.Bus.Fetch

/-!
# Buses that answer at once

A bus that answers without delay, as a function of the twin and the command, leaves nothing to time or chance: each
question takes a fetch one stage on at the same moment (`Stage.pass_instant`), and what the fetch comes to is settled
by the three answers from the beginning (`Stage.outcome_turnOf`).
-/

namespace GridGateway

open Json

/-- What twins answer to commands. -/
abbrev Bus.Answers := UInt32 → String → Except Bus.BusError Json

/-- The bus that answers at once, and always the same. -/
def Bus.instant {β : Type} (answers : Bus.Answers) : Bus β :=
  ⟨fun twinId command => pure ⟨0, answers twinId command⟩⟩

namespace Bus

variable (answers : Answers) (twinId : UInt32)

/-- The reply of a twin to a question. -/
def replyOf (q : Question) : Except BusError q.Reply := (answers twinId q.command).bind q.read

/-- What the answers of a twin to the three questions make up: a report, or the first error. -/
def reportOf : Except BusError Report := do
  let statistics ← replyOf answers twinId .statistics
  let hypervisor ← replyOf answers twinId .hypervisor
  let version ← replyOf answers twinId .version
  return .ofAnswers statistics hypervisor version

namespace Stage

/-- What a fetch comes to from a stage on. -/
def outcome : Stage → Except BusError Report
  | first => reportOf answers twinId
  | second statistics => do
    let hypervisor ← replyOf answers twinId .hypervisor
    let version ← replyOf answers twinId .version
    return .ofAnswers statistics hypervisor version
  | third statistics hypervisor => do
    let version ← replyOf answers twinId .version
    return .ofAnswers statistics hypervisor version

/-- What a fetch comes to after a step. -/
def Turn.outcome : Turn → Except BusError Report
  | .ask _ stage => stage.outcome answers twinId
  | .over _ result => result

variable {answers twinId}

/-- The number of questions still to ask at most. -/
def questionsLeft : Stage → Nat
  | first => 3
  | second _ => 2
  | third _ _ => 1

/-- The number of events still to come at most, the last of which records the outcome. -/
def Turn.eventsLeft : Turn → Nat
  | .ask _ stage => stage.questionsLeft + 1
  | .over _ _ => 1

/-- Where a reply at a time takes a fetch. -/
def turnOf (s : Stage) (time : Nat) : Except BusError s.question.Reply → Turn
  | .error e => .over time (.error e)
  | .ok r =>
    match s.next r with
    | .inl stage => .ask time stage
    | .inr report => .over time (.ok report)

variable {β : Type} {timeout deadline time : Nat} {script : β}

/-- A question that is asked by the deadline is answered by the deadline. -/
theorem pass_instant (s : Stage) (h : time ≤ deadline) :
    s.pass (.instant answers) twinId timeout deadline time script =
      (s.turnOf time (replyOf answers twinId s.question), script) := by
  have hask : (Bus.instant answers : Bus β).ask twinId s.question = pure (0, replyOf answers twinId s.question) := rfl
  have hin : ¬ deadline < time + 0 := Nat.not_lt.2 h
  unfold pass turnOf
  simp only [hask, pure_bind, if_neg hin]
  cases replyOf answers twinId s.question with
  | error e => rfl
  | ok r =>
    cases hnext : s.next r with
    | inl stage => simp only [hnext]; rfl
    | inr report => simp only [hnext]; rfl

theorem outcome_turnOf (s : Stage) :
    (s.turnOf time (replyOf answers twinId s.question)).outcome answers twinId = s.outcome answers twinId := by
  unfold turnOf
  cases s with
  | first =>
    simp only [question, outcome, reportOf]
    cases replyOf answers twinId .statistics <;> rfl
  | second statistics =>
    simp only [question, outcome]
    cases replyOf answers twinId .hypervisor <;> rfl
  | third statistics hypervisor =>
    simp only [question, outcome]
    cases replyOf answers twinId .version <;> rfl

theorem eventsLeft_turnOf_le (s : Stage) (reply : Except BusError s.question.Reply) :
    (s.turnOf time reply).eventsLeft ≤ s.questionsLeft := by
  have hpos : 1 ≤ s.questionsLeft := by cases s <;> exact Nat.le_add_left 1 _
  unfold turnOf
  cases reply with
  | error e => exact hpos
  | ok r => cases s <;> exact Nat.le_refl _

end Stage

end Bus

end GridGateway
