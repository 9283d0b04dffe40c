import GridGateway.Proofs.Bus.Instant
import GridGateway.Proofs.Bus.Replies
import GridGateway.Proofs.Http.Calls

/-!
# One deadline for a whole fetch

The calls that a fetch would make if nothing ever stopped it are an `Interview`: each begins when the one before is
over.  A call brings the reply that its value tells (`Interview.Brings`), or it fails (`Interview.Fails`).  It stops the
fetch when it ends after the deadline or fails (`Interview.Stops`).  There are four ways for a fetch to go: it is
stopped at one of its three calls, or it has all the replies (`Interview.Goes` and `fetch_goes`).  So it asks up to the
first call that stops it, and it has a report if and only if the last call is over by the deadline and all three bring
replies (`Interview.AllOrNothing`, proved for every bus in `fetch_allOrNothing`).  What a bus notes is what the fetch
says that it asked (`fetch_noting`).
-/

namespace GridGateway.Bus

/-- The questions in the order of a fetch. -/
def Question.inTurn : List Question := [.statistics, .hypervisor, .version]

/-- What the three calls of a fetch come to when each is made, whatever the one before has brought. -/
structure Interview where
  outcome : Question → Outcome

namespace Interview

variable (i : Interview) (timeout : Nat)

/-- The milliseconds that a call takes. -/
def delay (q : Question) : Nat := (i.outcome q).delay

/-- The milliseconds from the start of the first call to the start of a call. -/
def begins : Question → Nat
  | .statistics => 0
  | .hypervisor => i.delay .statistics
  | .version => i.delay .statistics + i.delay .hypervisor

/-- The milliseconds from the start of the first call to the end of a call. -/
def ends (q : Question) : Nat := i.begins q + i.delay q

/-- A call brings a reply: it succeeds, and this is what its value tells. -/
def Brings (q : Question) (r : q.Reply) : Prop := ∃ v, (i.outcome q).result = .ok v ∧ q.Tells v r

/-- A call brings no reply: it has failed itself, or its value tells nothing and does not decode. -/
def Fails (q : Question) (e : BusError) : Prop :=
  (i.outcome q).result = .error e ∨
    ∃ v, (i.outcome q).result = .ok v ∧ (∀ r, ¬ q.Tells v r) ∧
      ∃ reason, q.decoder.ofJson v = .error reason ∧ e = .decode q.command reason.message

/-- After this call a fetch does not go on: the deadline cuts it, or it brings no reply. -/
def Stops (q : Question) : Prop := timeout < i.ends q ∨ ∃ e, i.Fails q e

/-- The value of a call as it is read. -/
def reply (q : Question) : Except BusError q.Reply := (i.outcome q).result.bind q.read

/-- What a fetch is told by a call. -/
def told (q : Question) : Except BusError q.Reply :=
  if timeout < i.ends q then .error (.timeout (millis timeout)) else i.reply q

/-- The four ways of a fetch: the questions asked, and the result. -/
inductive Goes : List Question → Except BusError Report → Prop
  | first {e : BusError} : i.told timeout .statistics = .error e → Goes [.statistics] (.error e)
  | second {e : BusError} {statistics : NodeStatistics} : i.told timeout .statistics = .ok statistics →
      i.told timeout .hypervisor = .error e → Goes [.statistics, .hypervisor] (.error e)
  | third {e : BusError} {statistics : NodeStatistics} {hypervisor : String} :
      i.told timeout .statistics = .ok statistics → i.told timeout .hypervisor = .ok hypervisor →
      i.told timeout .version = .error e → Goes [.statistics, .hypervisor, .version] (.error e)
  | whole {statistics : NodeStatistics} {hypervisor : String} {version : ZosVersion} :
      i.told timeout .statistics = .ok statistics → i.told timeout .hypervisor = .ok hypervisor →
      i.told timeout .version = .ok version →
      Goes [.statistics, .hypervisor, .version] (.ok (.ofAnswers statistics hypervisor version))

/-- A fetch asks some questions and then a last one, which ends it. -/
structure StopsAt (before : List Question) (last : Question) (result : Except BusError Report) : Prop where
  /-- The questions are asked in their order. -/
  inTurn : before ++ [last] <+: Question.inTurn
  /-- No call but the last one stops the fetch. -/
  goes_on : ∀ q ∈ before, ¬ i.Stops timeout q
  /-- The last call stops it, or it is the third one. -/
  stops : i.Stops timeout last ∨ last = .version
  /-- A last call that the deadline cuts is a timeout. -/
  late : timeout < i.ends last → result = .error (.timeout (millis timeout))
  /-- A last call that brings no reply by the deadline tells why there is no report. -/
  failed : ∀ e, i.ends last ≤ timeout → i.Fails last e → result = .error e

/-- A fetch is all or nothing: what it asks and what it comes to, by what its calls come to. -/
structure AllOrNothing (asked : List Question) (result : Except BusError Report) : Prop where
  /-- The questions are asked in their order, up to the first call that stops the fetch. -/
  stopsAt : ∃ before last, asked = before ++ [last] ∧ i.StopsAt timeout before last result
  /-- There is a report if and only if all three replies are there by the deadline; its figures are theirs. -/
  ok_iff : ∀ report, result = .ok report ↔
    i.delay .statistics + i.delay .hypervisor + i.delay .version ≤ timeout ∧
      ∃ statistics hypervisor version, i.Brings .statistics statistics ∧ i.Brings .hypervisor hypervisor ∧
        i.Brings .version version ∧
        report =
          { total := ⟨statistics.total.cru, statistics.total.sru, statistics.total.hru, statistics.total.mru⟩
            used := ⟨statistics.used.cru, statistics.used.sru, statistics.used.hru, statistics.used.mru⟩
            usedIpv4u := statistics.used.ipv4u
            hypervisor := hypervisor
            zosVersion := version.zos }
  /-- Three calls that take too long are a timeout, unless one before the last has failed in time. -/
  late : timeout < i.delay .statistics + i.delay .hypervisor + i.delay .version →
    result = .error (.timeout (millis timeout)) ∨
      ∃ q e, q ≠ .version ∧ i.ends q ≤ timeout ∧ i.Fails q e ∧ result = .error e

variable {i timeout} {q : Question}

private theorem reply_eq_ok_iff {r : q.Reply} : i.reply q = .ok r ↔ i.Brings q r := by
  unfold reply Brings
  cases (i.outcome q).result with
  | error e => exact iff_of_false (fun h => nomatch h) fun ⟨_, h, _⟩ => nomatch h
  | ok v => simpa [Except.bind] using q.read_eq_ok_iff v r

theorem reply_eq_error_iff {e : BusError} : i.reply q = .error e ↔ i.Fails q e := by
  unfold reply Fails
  cases (i.outcome q).result with
  | error e' => simp [Except.bind]
  | ok v => simpa [Except.bind] using q.read_eq_error_iff v e

private theorem told_of_late (h : timeout < i.ends q) :
    i.told timeout q = .error (.timeout (millis timeout)) := if_pos h

private theorem told_of_timely (h : i.ends q ≤ timeout) : i.told timeout q = i.reply q := if_neg (Nat.not_lt.2 h)

private theorem told_eq_ok_iff {r : q.Reply} : i.told timeout q = .ok r ↔ i.ends q ≤ timeout ∧ i.reply q = .ok r := by
  rcases Nat.lt_or_ge timeout (i.ends q) with hlate | htimely
  · rw [told_of_late hlate]
    exact iff_of_false (fun h => nomatch h) fun h => Nat.not_le.2 hlate h.1
  · rw [told_of_timely htimely]
    exact (and_iff_right htimely).symm

private theorem stops_iff : i.Stops timeout q ↔ ∃ e, i.told timeout q = .error e := by
  simp only [Stops, ← reply_eq_error_iff]
  rcases Nat.lt_or_ge timeout (i.ends q) with hlate | htimely
  · exact iff_of_true (.inl hlate) ⟨_, told_of_late hlate⟩
  · rw [told_of_timely htimely]
    exact or_iff_right (Nat.not_lt.2 htimely)

private theorem not_stops {r : q.Reply} (h : i.told timeout q = .ok r) : ¬ i.Stops timeout q := by
  rw [stops_iff, h]
  rintro ⟨e, he⟩
  cases he

/-- A call of an interview is over before the last one is. -/
private theorem ends_le (i : Interview) (q : Question) : i.ends q ≤ i.ends .version := by
  cases q with
  | statistics | hypervisor => simp only [ends, begins]; omega
  | version => exact Nat.le_refl _

/-- A last call that brings no reply ends a fetch. -/
private theorem stopsAt_of_error {before : List Question} {e : BusError} (hturn : before ++ [q] <+: Question.inTurn)
    (hbefore : ∀ p ∈ before, ¬ i.Stops timeout p) (h : i.told timeout q = .error e) :
    i.StopsAt timeout before q (.error e) where
  inTurn := hturn
  goes_on := hbefore
  stops := .inl (stops_iff.2 ⟨e, h⟩)
  late hlate := congrArg _ (Except.error.inj (h.symm.trans (told_of_late hlate)))
  failed _ htimely he :=
    congrArg _ (Except.error.inj (h.symm.trans ((told_of_timely htimely).trans (reply_eq_error_iff.2 he))))

private theorem stopsAt_of_reply {result : Except BusError Report} {r : ZosVersion}
    (hbefore : ∀ p ∈ [.statistics, .hypervisor], ¬ i.Stops timeout p) (h : i.told timeout .version = .ok r) :
    i.StopsAt timeout [.statistics, .hypervisor] .version result where
  inTurn := List.prefix_rfl
  goes_on := hbefore
  stops := .inr rfl
  late hlate := absurd ((told_of_late hlate).symm.trans h) (by simp)
  failed _ htimely he :=
    absurd ((reply_eq_error_iff.2 he).symm.trans ((told_of_timely htimely).symm.trans h)) (by simp)

theorem Goes.stopsAt {asked : List Question} {result : Except BusError Report} (h : i.Goes timeout asked result) :
    ∃ before last, asked = before ++ [last] ∧ i.StopsAt timeout before last result := by
  cases h with
  | first he => exact ⟨[], _, rfl, stopsAt_of_error ⟨_, rfl⟩ (by simp) he⟩
  | second hs he => exact ⟨[.statistics], _, rfl, stopsAt_of_error ⟨_, rfl⟩ (by simp [not_stops hs]) he⟩
  | third hs hh he =>
    refine ⟨[.statistics, .hypervisor], _, rfl, stopsAt_of_error List.prefix_rfl ?_ he⟩
    simp [not_stops hs, not_stops hh]
  | whole hs hh hv => exact ⟨_, _, rfl, stopsAt_of_reply (by simp [not_stops hs, not_stops hh]) hv⟩

/-- Replies by the deadline are told. -/
private theorem told_of_ends_version {r : q.Reply} (htimely : i.ends .version ≤ timeout) (hr : i.reply q = .ok r) :
    i.told timeout q = .ok r :=
  told_eq_ok_iff.2 ⟨(ends_le i q).trans htimely, hr⟩

theorem Goes.ok_iff {asked : List Question} {result : Except BusError Report} (h : i.Goes timeout asked result)
    (report : Report) :
    result = .ok report ↔ i.ends .version ≤ timeout ∧
      ∃ statistics hypervisor version, i.Brings .statistics statistics ∧ i.Brings .hypervisor hypervisor ∧
        i.Brings .version version ∧ report = .ofAnswers statistics hypervisor version := by
  simp only [← reply_eq_ok_iff]
  -- a call that brings no reply contradicts three replies by the deadline
  have hstop {q : Question} {r : q.Reply} {e : BusError} (he : i.told timeout q = .error e)
      (htimely : i.ends .version ≤ timeout) (hr : i.reply q = .ok r) : False := by
    have hok := told_of_ends_version htimely hr
    rw [he] at hok
    cases hok
  constructor
  · rintro rfl
    cases h with
    | whole hs hh hv =>
      rw [told_eq_ok_iff] at hs hh hv
      exact ⟨hv.1, _, _, _, hs.2, hh.2, hv.2, rfl⟩
  · rintro ⟨htimely, statistics, hypervisor, version, hs, hh, hv, rfl⟩
    cases h with
    | first he => exact (hstop he htimely hs).elim
    | second _ he => exact (hstop he htimely hh).elim
    | third _ _ he => exact (hstop he htimely hv).elim
    | whole hs' hh' hv' =>
      cases hs'.symm.trans (told_of_ends_version htimely hs)
      cases hh'.symm.trans (told_of_ends_version htimely hh)
      cases hv'.symm.trans (told_of_ends_version htimely hv)
      rfl

theorem Goes.late {asked : List Question} {result : Except BusError Report} (h : i.Goes timeout asked result)
    (hlate : timeout < i.ends .version) :
    result = .error (.timeout (millis timeout)) ∨
      ∃ q e, q ≠ .version ∧ i.ends q ≤ timeout ∧ i.Fails q e ∧ result = .error e := by
  simp only [← reply_eq_error_iff]
  -- a call that brings no reply is cut by the deadline, or it is not the last one
  have hstop {q : Question} {e : BusError} (he : i.told timeout q = .error e) :
      (.error e : Except BusError Report) = .error (.timeout (millis timeout)) ∨
        ∃ q e', q ≠ .version ∧ i.ends q ≤ timeout ∧ i.reply q = .error e' ∧
          (.error e : Except BusError Report) = .error e' := by
    rcases Nat.lt_or_ge timeout (i.ends q) with hcut | htimely
    · rw [told_of_late hcut] at he
      cases he
      exact .inl rfl
    · rw [told_of_timely htimely] at he
      refine .inr ⟨q, e, ?_, htimely, he, rfl⟩
      rintro rfl
      exact Nat.not_lt.2 htimely hlate
  cases h with
  | first he => exact hstop he
  | second _ he => exact hstop he
  | third _ _ he => exact hstop he
  | whole _ _ hv => exact absurd hlate (Nat.not_lt.2 (told_eq_ok_iff.1 hv).1)

private theorem Goes.allOrNothing {asked : List Question} {result : Except BusError Report}
    (h : i.Goes timeout asked result) : i.AllOrNothing timeout asked result :=
  ⟨h.stopsAt, h.ok_iff, h.late⟩

end Interview

/-! ### Fetches go through an interview -/

variable {β : Type}

section

variable {bus : Bus β} {twinId : UInt32} {timeout left time : Nat} {s s' : Stage} {script script' : β}

/-- A stage that leads to another one. -/
private theorem run_of_ask {later : Nat}
    (h : s.pass bus twinId timeout timeout time script = (.ask later s', script')) :
    s.run bus twinId timeout (left + 1) time script =
      Prod.map (·.after time s.question) id (s'.run bus twinId timeout left later script') := by
  rw [Stage.run]
  simp only [bind, StateT.bind, h]
  rfl

/-- A stage that ends the fetch. -/
private theorem run_of_over {last : Nat} {result : Except BusError Report}
    (h : s.pass bus twinId timeout timeout time script = (.over last result, script')) :
    s.run bus twinId timeout (left + 1) time script = (⟨[(time, s.question)], last, result⟩, script') := by
  rw [Stage.run]
  simp only [bind, StateT.bind, h]
  rfl

end

variable (bus : Bus β) (twinId : UInt32) (script : β)

/-- The state of a bus when the turn of a question comes. -/
def stateAt : Question → β
  | .statistics => script
  | .hypervisor => (bus.call twinId Question.statistics.command script).2
  | .version =>
    (bus.call twinId Question.hypervisor.command (bus.call twinId Question.statistics.command script).2).2

/-- The interview of a twin over a bus. -/
def interview : Interview := ⟨fun q => (bus.call twinId q.command (bus.stateAt twinId script q)).1⟩

variable (timeout left : Nat)

/-- A fetch that goes on from a stage when its turn has come, for at most so many questions. -/
def resume (s : Stage) : Fetch × β :=
  s.run bus twinId timeout left ((bus.interview twinId script).begins s.question) (bus.stateAt twinId script s.question)

/-- A stage is left with a reply by the deadline, or with the error that ends the fetch. -/
private theorem pass_interview (s : Stage) :
    (s.pass bus twinId timeout timeout ((bus.interview twinId script).begins s.question)
      (bus.stateAt twinId script s.question)) =
        (match (bus.interview twinId script).told timeout s.question with
          | .error e => .over (min ((bus.interview twinId script).ends s.question) timeout) (.error e)
          | .ok r => s.turnOf ((bus.interview twinId script).ends s.question) (.ok r),
          (bus.call twinId s.question.command (bus.stateAt twinId script s.question)).2) := by
  set i := bus.interview twinId script
  have hask : bus.ask twinId s.question (bus.stateAt twinId script s.question) =
      ((i.delay s.question, i.reply s.question),
        (bus.call twinId s.question.command (bus.stateAt twinId script s.question)).2) := rfl
  unfold Stage.pass
  simp only [bind, StateT.bind, hask]
  rcases Nat.lt_or_ge timeout (i.ends s.question) with hlate | htimely
  · rw [Interview.told_of_late hlate, Nat.min_eq_right hlate.le]
    exact congrFun (if_pos hlate) _
  · rw [Interview.told_of_timely htimely, Nat.min_eq_left htimely]
    refine (congrFun (if_neg (Nat.not_lt.2 htimely)) _).trans ?_
    cases i.reply s.question with
    | error e => rfl
    | ok r =>
      unfold Stage.turnOf
      cases hnext : s.next r with
      | inl s' => simp only [hnext]; rfl
      | inr report => simp only [hnext]; rfl

variable {bus twinId script timeout left} {s s' : Stage}

/-- A call that brings no reply ends the fetch. -/
private theorem resume_of_error {e : BusError}
    (h : (bus.interview twinId script).told timeout s.question = .error e) :
    (bus.resume twinId script timeout (left + 1) s).1 =
      ⟨[((bus.interview twinId script).begins s.question, s.question)],
        min ((bus.interview twinId script).ends s.question) timeout, .error e⟩ := by
  have hpass := pass_interview bus twinId script timeout s
  rw [h] at hpass
  rw [resume, run_of_over hpass]

/-- A reply by the deadline takes the fetch to the next stage. -/
private theorem resume_of_reply {r : s.question.Reply} (hnext : s.next r = .inl s')
    (h : (bus.interview twinId script).told timeout s.question = .ok r) :
    (bus.resume twinId script timeout (left + 1) s).1 =
      (bus.resume twinId script timeout left s').1.after ((bus.interview twinId script).begins s.question)
        s.question := by
  have hbegins : (bus.interview twinId script).ends s.question = (bus.interview twinId script).begins s'.question := by
    cases s <;> cases hnext <;> simp [Interview.ends, Interview.begins, Stage.question]
  have hstate : (bus.call twinId s.question.command (bus.stateAt twinId script s.question)).2 =
      bus.stateAt twinId script s'.question := by
    cases s <;> cases hnext <;> rfl
  have hpass := pass_interview bus twinId script timeout s
  simp only [h, Stage.turnOf, hnext, hbegins, hstate] at hpass
  rw [resume, run_of_ask hpass]
  rfl

/-- The last reply by the deadline completes the report. -/
private theorem resume_of_report {r : s.question.Reply} {report : Report} (hnext : s.next r = .inr report)
    (h : (bus.interview twinId script).told timeout s.question = .ok r) :
    (bus.resume twinId script timeout (left + 1) s).1 =
      ⟨[((bus.interview twinId script).begins s.question, s.question)],
        (bus.interview twinId script).ends s.question, .ok report⟩ := by
  have hpass := pass_interview bus twinId script timeout s
  simp only [h, Stage.turnOf, hnext] at hpass
  rw [resume, run_of_over hpass]

variable (bus twinId script timeout)

/-- The questions that a fetch asks. -/
def Fetch.questions (f : Fetch) : List Question := f.asked.map (·.2)

theorem fetch_goes : (bus.interview twinId script).Goes timeout (bus.fetch twinId timeout script).1.questions
    (bus.fetch twinId timeout script).1.result := by
  have hstart : bus.fetch twinId timeout script = bus.resume twinId script timeout 3 .first := rfl
  cases hs : (bus.interview twinId script).told timeout .statistics with
  | error e =>
    rw [hstart, resume_of_error (s := .first) hs]
    exact .first hs
  | ok statistics =>
    rw [hstart, resume_of_reply (s := .first) rfl hs]
    cases hh : (bus.interview twinId script).told timeout .hypervisor with
    | error e =>
      rw [resume_of_error (s := .second statistics) hh]
      exact .second hs hh
    | ok hypervisor =>
      rw [resume_of_reply (s := .second statistics) rfl hh]
      cases hv : (bus.interview twinId script).told timeout .version with
      | error e =>
        rw [resume_of_error (s := .third statistics hypervisor) hv]
        exact .third hs hh hv
      | ok version =>
        rw [resume_of_report (s := .third statistics hypervisor) rfl hv]
        exact .whole hs hh hv

/-- Every fetch is all or nothing. -/
theorem fetch_allOrNothing :
    (bus.interview twinId script).AllOrNothing timeout (bus.fetch twinId timeout script).1.questions
      (bus.fetch twinId timeout script).1.result :=
  (bus.fetch_goes twinId script timeout).allOrNothing

/-! ### What a bus notes -/

/-- A bus notes the call of a stage. -/
private theorem pass_noting (s : Stage) (deadline time : Nat) (sent : List (UInt32 × String)) :
    s.pass bus.noting twinId timeout deadline time (script, sent) =
      ((s.pass bus twinId timeout deadline time script).1,
        ((s.pass bus twinId timeout deadline time script).2, (twinId, s.question.command) :: sent)) := by
  rcases hask : bus.ask twinId s.question script with ⟨⟨delay, reply⟩, script'⟩
  have hnoting : bus.noting.ask twinId s.question (script, sent) =
      ((delay, reply), script', (twinId, s.question.command) :: sent) := by
    rw [show bus.noting.ask twinId s.question (script, sent) = ((bus.ask twinId s.question script).1,
      (bus.ask twinId s.question script).2, (twinId, s.question.command) :: sent) from rfl, hask]
  unfold Stage.pass
  simp only [bind, StateT.bind, hask, hnoting]
  split
  · rfl
  · cases reply with
    | error e => rfl
    | ok r =>
      dsimp only
      cases s.next r <;> rfl

/-- A bus notes the questions that a fetch asks. -/
private theorem run_noting (s : Stage) (time : Nat) (sent : List (UInt32 × String)) :
    s.run bus.noting twinId timeout left time (script, sent) =
      let (fetch, script) := s.run bus twinId timeout left time script
      (fetch, (script, (fetch.questions.map fun q => (twinId, q.command)).reverse ++ sent)) := by
  induction left generalizing s time script sent with
  | zero => rfl
  | succ left ih =>
    have hnoting := pass_noting bus twinId script timeout s timeout time sent
    rcases hpass : s.pass bus twinId timeout timeout time script with ⟨⟨later, s'⟩ | ⟨last, result⟩, script'⟩
    · rw [hpass] at hnoting
      rw [run_of_ask hpass, run_of_ask hnoting, ih]
      rcases s'.run bus twinId timeout left later script' with ⟨rest, script'⟩
      simp [Fetch.questions, Fetch.after]
    · rw [hpass] at hnoting
      rw [run_of_over hpass, run_of_over hnoting]
      rfl

/-- A fetch is the same over a bus that notes its calls, and the notes are the questions asked. -/
theorem fetch_noting (sent : List (UInt32 × String)) :
    bus.noting.fetch twinId timeout (script, sent) =
      let (fetch, script) := bus.fetch twinId timeout script
      (fetch, (script, (fetch.questions.map fun q => (twinId, q.command)).reverse ++ sent)) :=
  bus.run_noting twinId script timeout .first 0 sent

end GridGateway.Bus
