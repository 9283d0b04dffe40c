import GridGateway.Proofs.Bus.Instant
import GridGateway.Proofs.Keys
import GridGateway.Proofs.Telemetry.Moves

/-!
# Jobs over a bus that answers at once

Jobs have numbers of their own, so that a move takes one of them on and leaves all the others as they are
(`Manager.IsSound.perm_asked`).  Over a bus that answers at once a job is never late, and it comes to what the answers
of its twin make up, whatever happens in between (`Manager.IsSound.step`).
-/

namespace GridGateway.Telemetry

open Bus

/-! ### One job among others -/

/-- A job that is on time and will come to what its twin answers. -/
structure Job.IsSound (answers : Answers) (clock : Nat) (j : Job) : Prop where
  due : j.due ≤ clock
  deadline : j.due ≤ j.deadline
  outcome : j.turn.outcome answers j.request.twinId = reportOf answers j.request.twinId

/-- The job with a number goes on to another turn. -/
def Job.turned (number : Nat) (turn : Stage.Turn) (j : Job) : Job :=
  if j.number = number then { j with turn := turn } else j

@[simp]
theorem Job.number_turned (number : Nat) (turn : Stage.Turn) (j : Job) : (j.turned number turn).number = j.number := by
  unfold turned
  split <;> rfl

@[simp]
theorem Job.request_turned (number : Nat) (turn : Stage.Turn) (j : Job) :
    (j.turned number turn).request = j.request := by
  unfold turned
  split <;> rfl

/-- One job takes its turn, and all the others stay as they are. -/
private theorem Job.perm_map_turned {jobs : List Job} (hnumbers : (jobs.map (·.number)).Nodup) {j : Job} (hj : j ∈ jobs)
    (turn : Stage.Turn) :
    (jobs.map (Job.turned j.number turn)).Perm ({ j with turn := turn } :: jobs.filter (·.number ≠ j.number)) := by
  have hself : Job.turned j.number turn j = { j with turn := turn } := if_pos rfl
  have hothers : (jobs.filter (·.number ≠ j.number)).map (Job.turned j.number turn) =
      jobs.filter (·.number ≠ j.number) := by
    rw [List.map_congr_left (g := id), List.map_id]
    intro k hk
    have hne : k.number ≠ j.number := by simpa using (List.mem_filter.1 hk).2
    exact if_neg hne
  have hperm := (perm_cons_filter_key hnumbers hj).map (Job.turned j.number turn)
  rwa [List.map_cons, hself, hothers] at hperm

section

variable {answers : Answers} {clock time : Nat} {j : Job} {stage : Stage}

/-- The job after its next question. -/
def Job.asked (answers : Answers) (time : Nat) (stage : Stage) (j : Job) : Job :=
  { j with turn := stage.turnOf time (replyOf answers j.request.twinId stage.question) }

private theorem Job.due_asked : (j.asked answers time stage).due = time := by
  unfold asked due Stage.turnOf
  cases replyOf answers j.request.twinId stage.question with
  | error e => rfl
  | ok r => cases stage <;> rfl

theorem Job.eventsLeft_asked_lt (answers : Answers) (hturn : j.turn = .ask time stage) :
    (j.asked answers time stage).turn.eventsLeft < j.turn.eventsLeft := by
  rw [hturn]
  exact Nat.lt_succ_of_le (stage.eventsLeft_turnOf_le _)

theorem Job.IsSound.asked (h : j.IsSound answers clock) (hturn : j.turn = .ask time stage) :
    (j.asked answers time stage).IsSound answers clock := by
  have htime : j.due = time := by rw [Job.due, hturn]
  refine ⟨?_, ?_, ?_⟩
  · rw [Job.due_asked, ← htime]
    exact h.due
  · rw [Job.due_asked, ← htime]
    exact h.deadline
  · change _ = reportOf answers j.request.twinId
    rw [← h.outcome, hturn]
    exact stage.outcome_turnOf

end

/-! ### The jobs of a refresher -/

namespace Manager

variable {β : Type} {g : Grid} {answers : Answers} {w : Workshop Records β} {m m' : Manager Records β} {v : Move}

/-- Jobs are told apart by their numbers, and all of them are on their way to what their twins answer. -/
structure IsSound (answers : Answers) (m : Manager Records β) : Prop where
  numbers : (m.jobs.map (·.number)).Nodup
  begun : ∀ j ∈ m.jobs, j.number < m.begun
  jobs : ∀ j ∈ m.jobs, j.IsSound answers m.clock

/-- One job, and all the others. -/
theorem IsSound.perm_jobs (h : m.IsSound answers) {j : Job} (hj : j ∈ m.jobs) :
    m.jobs.Perm (j :: m.jobs.filter (·.number ≠ j.number)) :=
  perm_cons_filter_key h.numbers hj

/-- A question to a bus that answers at once takes one job on, and leaves all the others as they are. -/
theorem IsSound.perm_asked (h : m.IsSound answers) (timeout : Nat) {j : Job} (hj : j ∈ m.jobs) {time : Nat}
    {stage : Stage} (hturn : j.turn = .ask time stage) :
    (m.jobs.map (Job.turned j.number
      (stage.pass (.instant answers) j.request.twinId timeout j.deadline time m.bus).1)).Perm
        (j.asked answers time stage :: m.jobs.filter (·.number ≠ j.number)) := by
  have htime : j.due = time := by rw [Job.due, hturn]
  have hdeadline : time ≤ j.deadline := by
    rw [← htime]
    exact (h.jobs j hj).deadline
  rw [Stage.pass_instant stage hdeadline]
  exact Job.perm_map_turned h.numbers hj _

/-- A job is begun with a number of its own. -/
theorem IsSound.begin (r : Request) (h : m.IsSound answers) : (m.begin w r).IsSound answers := by
  have hfresh : m.begun ∉ m.jobs.map (·.number) := by
    intro hmem
    obtain ⟨j, hj, hnumber⟩ := List.mem_map.1 hmem
    have hless := h.begun j hj
    omega
  refine ⟨?_, ?_, ?_⟩
  · change ((m.jobs ++ [_]).map Job.number).Nodup
    rw [List.map_append, List.nodup_append]
    refine ⟨h.numbers, List.nodup_singleton _, ?_⟩
    intro a ha b hb heq
    obtain rfl : b = m.begun := List.mem_singleton.1 hb
    exact hfresh (heq ▸ ha)
  · intro j hj
    change j.number < m.begun + 1
    rcases List.mem_append.1 hj with hj | hj
    · exact Nat.lt_succ_of_lt (h.begun j hj)
    · rw [List.mem_singleton.1 hj]
      exact Nat.lt_succ_self _
  · intro j hj
    rcases List.mem_append.1 hj with hj | hj
    · exact h.jobs j hj
    · rw [List.mem_singleton.1 hj]
      exact ⟨Nat.le_refl _, Nat.le_add_right _ _, rfl⟩

theorem IsSound.step (hbus : w.bus = .instant answers) (hstep : Step g w m v m') (h : m.IsSound answers) :
    m'.IsSound answers := by
  cases hstep with
  | take => exact h.begin _
  | @ask j time stage hj hturn =>
    rw [hbus]
    have hperm := h.perm_asked w.settings.timeoutMs hj hturn
    have hmem {k : Job} (hk : k ∈ m.jobs.map (Job.turned j.number _)) :
        k = j.asked answers time stage ∨ k ∈ m.jobs :=
      (List.mem_cons.1 (hperm.mem_iff.1 hk)).imp_right fun hk => (List.mem_filter.1 hk).1
    refine ⟨?_, ?_, ?_⟩
    · change ((m.jobs.map (Job.turned j.number _)).map (·.number)).Nodup
      rw [List.map_map]
      simpa only [Function.comp_def, Job.number_turned] using h.numbers
    · intro k hk
      rcases hmem hk with rfl | hk
      · exact h.begun j hj
      · exact h.begun k hk
    · intro k hk
      rcases hmem hk with rfl | hk
      · exact (h.jobs j hj).asked hturn
      · exact h.jobs k hk
  | enter =>
    refine ⟨h.numbers.sublist (List.filter_sublist.map Job.number), fun k hk => ?_, fun k hk => ?_⟩
    · exact h.begun k (List.mem_filter.1 hk).1
    · exact h.jobs k (List.mem_filter.1 hk).1
  | wait ms =>
    refine ⟨h.numbers, h.begun, fun j hj => ?_⟩
    have hsound := h.jobs j hj
    exact ⟨Nat.le_trans hsound.due (Nat.le_add_right _ _), hsound.deadline, hsound.outcome⟩
  | _ => exact ⟨h.numbers, h.begun, h.jobs⟩

end Manager

end GridGateway.Telemetry
