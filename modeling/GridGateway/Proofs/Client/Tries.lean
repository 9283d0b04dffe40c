import GridGateway.Client.Flaky
import GridGateway.Client.Retry
import Mathlib.Order.Bounds.Defs
import Mathlib.Order.Nat

/-!
# When trying again ends

The calls that a client would go through if it never stopped, one delay after each of them, are a `Course`.  Whether it
stops after one of them is told by this call alone (`Course.IsFinal`): it brought an answer, it failed for good, or the
delay after it would end too late.  A call that may be tried again is the course up to its first final try, and no step
of it is left out (`retryFrom_of_first`); without a final try nothing ever comes out (`retryFrom_of_none`).  When every
delay takes time, there is a final try before time is up (`Course.exists_first`).
-/

namespace GridGateway.Client

variable {α γ : Type}

/-- Calls counted from zero: the time that each of them takes, and what it brings. -/
structure Course (α : Type) where
  latency : Nat → Nat
  result : Nat → Except ClientError α

namespace Course

variable (course : Course α) (delay : Nat → Nat) (maxElapsed : Nat)

/-- The time at which a call begins: the delay after the call before it is over. -/
def begins : Nat → Nat
  | 0 => 0
  | n + 1 => begins n + course.latency n + delay n

/-- The time at which a call is over. -/
def ends (n : Nat) : Nat := course.begins delay n + course.latency n

/-- After this call nothing is tried again. -/
def IsFinal (n : Nat) : Prop :=
  (∃ a, course.result n = .ok a) ∨ (∃ e, course.result n = .error e ∧ e.isRetryable = false) ∨
    maxElapsed < course.ends delay n + delay n

variable {course delay maxElapsed} {n : Nat}

theorem not_isFinal_iff : ¬ course.IsFinal delay maxElapsed n ↔
    (∃ e, course.result n = .error e ∧ e.isRetryable = true) ∧ course.ends delay n + delay n ≤ maxElapsed := by
  unfold IsFinal
  cases course.result n with
  | ok a => simp
  | error e => simp

/-- With delays of at least one millisecond, call `n` begins `n` milliseconds after the first one or later. -/
private theorem le_begins (hdelay : ∀ n, 1 ≤ delay n) (n : Nat) : n ≤ course.begins delay n := by
  induction n with
  | zero => exact Nat.le_refl 0
  | succ n ih =>
    have hstep := hdelay n
    rw [begins]
    omega

/-- With delays of at least one millisecond there is a first final call, before more calls than milliseconds. -/
theorem exists_first (course : Course α) (hdelay : ∀ n, 1 ≤ delay n) (maxElapsed : Nat) :
    ∃ last ≤ maxElapsed, IsLeast {n | course.IsFinal delay maxElapsed n} last := by
  have hlate : course.IsFinal delay maxElapsed maxElapsed := by
    have hbegins : maxElapsed ≤ course.begins delay maxElapsed := le_begins hdelay maxElapsed
    have hstep := hdelay maxElapsed
    refine .inr (.inr ?_)
    rw [ends]
    omega
  classical
  have hsome : ∃ n, course.IsFinal delay maxElapsed n := ⟨maxElapsed, hlate⟩
  exact ⟨Nat.find hsome, Nat.find_min' hsome hlate, Nat.find_spec hsome, fun _ hn => Nat.find_min' hsome hn⟩

end Course

/-! ### The course of a client -/

/-- The state after a step has been made `n` times. -/
def stateAfter {β : Type} (inner : StateM γ β) (s : γ) : Nat → γ
  | 0 => s
  | n + 1 => (inner (stateAfter inner s n)).2

/-- The course of a call that is made over and over again. -/
def courseOf (inner : StateM γ (Nat × Except ClientError α)) (s : γ) : Course α where
  latency n := (inner (stateAfter inner s n)).1.1
  result n := (inner (stateAfter inner s n)).1.2

variable {inner : StateM γ (Nat × Except ClientError α)} {s : γ} {delay : Nat → Nat} {maxElapsed : Nat}

/-- A call of the course, with the state that it leaves. -/
private theorem inner_stateAfter (n : Nat) :
    inner (stateAfter inner s n) =
      (((courseOf inner s).latency n, (courseOf inner s).result n), stateAfter inner s (n + 1)) := rfl

/-- A final try ends the call. -/
private theorem retryFrom_of_isFinal {n : Nat} (h : (courseOf inner s).IsFinal delay maxElapsed n) (fuel : Nat) :
    retryFrom delay maxElapsed inner (fuel + 1) n ((courseOf inner s).begins delay n) (stateAfter inner s n) =
      (some ⟨[(courseOf inner s).begins delay n], (courseOf inner s).ends delay n, (courseOf inner s).result n⟩,
        stateAfter inner s (n + 1)) := by
  rw [retryFrom]
  simp only [bind, StateT.bind, inner_stateAfter n]
  cases hresult : (courseOf inner s).result n with
  | ok a => rfl
  | error e =>
    have hstop : ¬ (e.isRetryable && decide ((courseOf inner s).ends delay n + delay n ≤ maxElapsed)) = true := by
      intro hgo
      rw [Bool.and_eq_true, decide_eq_true_eq] at hgo
      exact Course.not_isFinal_iff.2 ⟨⟨e, hresult, hgo.1⟩, hgo.2⟩ h
    exact congrFun (if_neg hstop) _

/-- After any other try the next one is made, when the delay is over. -/
private theorem retryFrom_of_not_isFinal {n : Nat} (h : ¬ (courseOf inner s).IsFinal delay maxElapsed n) (fuel : Nat) :
    retryFrom delay maxElapsed inner (fuel + 1) n ((courseOf inner s).begins delay n) (stateAfter inner s n) =
      Prod.map (Option.map (·.after ((courseOf inner s).begins delay n))) id
        (retryFrom delay maxElapsed inner fuel (n + 1) ((courseOf inner s).begins delay (n + 1))
          (stateAfter inner s (n + 1))) := by
  obtain ⟨⟨e, hresult, hretry⟩, htime⟩ := Course.not_isFinal_iff.1 h
  have hgo : (e.isRetryable && decide ((courseOf inner s).ends delay n + delay n ≤ maxElapsed)) = true := by
    rw [hretry, decide_eq_true htime, Bool.and_self]
  rw [retryFrom]
  simp only [bind, StateT.bind, inner_stateAfter n, hresult]
  exact congrFun (if_pos hgo) _

/-- From try `n` on, every try up to the first final one is made, and nothing after it. -/
theorem retryFrom_of_first {n last : Nat} (hn : n ≤ last)
    (hgo : ∀ m, n ≤ m → m < last → ¬ (courseOf inner s).IsFinal delay maxElapsed m)
    (hlast : (courseOf inner s).IsFinal delay maxElapsed last) {fuel : Nat} (hfuel : last < n + fuel) :
    retryFrom delay maxElapsed inner fuel n ((courseOf inner s).begins delay n) (stateAfter inner s n) =
      (some ⟨(List.range' n (last + 1 - n)).map ((courseOf inner s).begins delay), (courseOf inner s).ends delay last,
        (courseOf inner s).result last⟩, stateAfter inner s (last + 1)) := by
  induction fuel generalizing n with
  | zero => omega
  | succ fuel ih =>
    rcases Nat.eq_or_lt_of_le hn with rfl | hlt
    · rw [retryFrom_of_isFinal hlast, Nat.add_sub_cancel_left]
      rfl
    · have hrest := ih hlt (fun m hm => hgo m (Nat.le_of_succ_le hm)) (by omega)
      have hrange : List.range' n (last + 1 - n) = n :: List.range' (n + 1) (last + 1 - (n + 1)) := by
        rw [← List.range'_succ]
        congr 1
        omega
      rw [retryFrom_of_not_isFinal (hgo n (Nat.le_refl n) hlt), hrest, hrange]
      rfl

/-- As long as no try is final, nothing comes out. -/
theorem retryFrom_of_none {n fuel : Nat}
    (h : ∀ m, n ≤ m → m < n + fuel → ¬ (courseOf inner s).IsFinal delay maxElapsed m) :
    (retryFrom delay maxElapsed inner fuel n ((courseOf inner s).begins delay n) (stateAfter inner s n)).1 = none := by
  induction fuel generalizing n with
  | zero => rfl
  | succ fuel ih =>
    have hrest := ih (n := n + 1) fun m hm hlt => h m (Nat.le_of_succ_le hm) (by omega)
    rw [retryFrom_of_not_isFinal (h n (Nat.le_refl n) (by omega)), Prod.map_fst, hrest]
    rfl

/-! ### Calls of a client -/

/-- The course of a call of a client. -/
def Call.course (client : Client γ) (c : Call α) (s : γ) : Course α := courseOf (client.perform c) s

/-- What comes of a call that may be tried again when `last` is its first final try, counted from zero. -/
structure EndsAt (p : RetryPolicy) (client : Client γ) (c : Call α) (s : γ) (last : Nat) : Prop where
  /-- The calls up to the final one are made, each as soon as the delay after the one before is over, and what the final
  one brought is handed on. -/
  outcome : ∀ fuel, last < fuel → retry p client fuel c s =
    (some ⟨(List.range (last + 1)).map ((c.course client s).begins p.backoff), (c.course client s).ends p.backoff last,
      (c.course client s).result last⟩, stateAfter (client.perform c) s (last + 1))
  /-- Fewer tries are not enough. -/
  unfinished : ∀ fuel ≤ last, (retry p client fuel c s).1 = none
  /-- Every result before the final one is an error worth another try. -/
  retryable : ∀ n < last, ∃ e, (c.course client s).result n = .error e ∧ e.isRetryable = true
  /-- No call but the first begins after the time is up. -/
  inTime : ∀ n ≤ last, n ≠ 0 → (c.course client s).begins p.backoff n ≤ p.maxElapsed
  /-- A status for which the server is not to blame is handed on at once. -/
  refused : ∀ n ≤ last, ∀ code message, (c.course client s).result n = .error (.status code message) → code < 500 →
    n = last
  /-- So is a response that cannot be read. -/
  unreadable : ∀ n ≤ last, ((c.course client s).result n = .error .malformed ∨
    ∃ reason, (c.course client s).result n = .error (.decode reason)) → n = last

section

variable {p : RetryPolicy} {client : Client γ} {c : Call α} {last : Nat}

private theorem endsAt_of_first (h : IsLeast {n | (c.course client s).IsFinal p.backoff p.maxElapsed n} last) :
    EndsAt p client c s last := by
  have hbefore : ∀ n < last, ¬ (c.course client s).IsFinal p.backoff p.maxElapsed n :=
    fun n hn hfinal => Nat.not_le_of_lt hn (h.2 hfinal)
  -- a failure for good is final, and no final try comes before the last one
  have hgood : ∀ n ≤ last, ∀ e, (c.course client s).result n = .error e → e.isRetryable = false → n = last :=
    fun n hn e hresult he => Nat.le_antisymm hn (h.2 (.inr (.inl ⟨e, hresult, he⟩)))
  refine ⟨fun fuel hfuel => ?_, fun fuel hfuel => ?_, fun n hn => ?_, fun n hn h0 => ?_, ?_, ?_⟩
  · rw [List.range_eq_range']
    exact retryFrom_of_first (Nat.zero_le last) (fun m _ hm => hbefore m hm) h.1 (by omega)
  · exact retryFrom_of_none fun m _ hm => hbefore m (by omega)
  · exact (Course.not_isFinal_iff.1 (hbefore n hn)).1
  · obtain ⟨n, rfl⟩ := Nat.exists_eq_succ_of_ne_zero h0
    exact (Course.not_isFinal_iff.1 (hbefore n hn)).2
  · intro n hn code message hresult hcode
    exact hgood n hn _ hresult (decide_eq_false (Nat.not_le_of_lt hcode))
  · rintro n hn (hresult | ⟨reason, hresult⟩)
    · exact hgood n hn _ hresult rfl
    · exact hgood n hn _ hresult rfl

end

/-- A call that may be tried again ends with its first final try, and never ends when there is none.  Delays of at least
one millisecond see to it that there is one, before more tries than the milliseconds at hand. -/
theorem tries_end_with_first_final (p : RetryPolicy) (client : Client γ) (c : Call α) (s : γ) :
    (∀ last, IsLeast {n | (c.course client s).IsFinal p.backoff p.maxElapsed n} last → EndsAt p client c s last) ∧
    ((∀ n, ¬ (c.course client s).IsFinal p.backoff p.maxElapsed n) → ∀ fuel, (retry p client fuel c s).1 = none) ∧
    ((∀ n, 1 ≤ p.backoff n) →
      ∃ last ≤ p.maxElapsed, IsLeast {n | (c.course client s).IsFinal p.backoff p.maxElapsed n} last) := by
  refine ⟨fun last h => endsAt_of_first h, fun h fuel => ?_, fun h => ?_⟩
  · exact retryFrom_of_none fun m _ _ => h m
  · exact Course.exists_first _ h p.maxElapsed

/-- Calls are tried again every half second, for one second. -/
def twicePerSecond : RetryPolicy := { multiplier := 1, maxElapsed := 1000 }

private theorem powerFrom_one (n : Nat) : powerFrom 1 1 n = 1 := by
  have hmul : (1 : Float) * 1 = 1 := by rfl
  induction n using Nat.strongRecOn with
  | ind n ih =>
    rw [powerFrom, hmul, ite_self]
    split
    · rfl
    · exact ih (n / 2) (by omega)

private theorem backoff_twicePerSecond (n : Nat) : twicePerSecond.backoff n = 500 := by
  rw [RetryPolicy.backoff, power, show twicePerSecond.multiplier = 1 from rfl, powerFrom_one]
  rfl

/-- A server that is always busy is asked three times, the last time when the second is just over. -/
theorem busy_server_asked_thrice :
    IsLeast {n | (Call.version.course flaky (List.replicate 3 (.status 503 "busy"))).IsFinal twicePerSecond.backoff
      twicePerSecond.maxElapsed n} 2 ∧
    (∀ n, 1 ≤ twicePerSecond.backoff n) ∧
    retry twicePerSecond flaky 3 .version (List.replicate 3 (.status 503 "busy")) =
      (some ⟨[0, 500, 1000], 1000, .error (.status 503 "busy")⟩, []) := by
  have hbackoff : twicePerSecond.backoff = fun _ => 500 := funext backoff_twicePerSecond
  have hfirst : IsLeast {n | (Call.version.course flaky (List.replicate 3 (.status 503 "busy"))).IsFinal
      twicePerSecond.backoff twicePerSecond.maxElapsed n} 2 := by
    rw [hbackoff]
    refine ⟨.inr (.inr (by decide)), fun n hn => ?_⟩
    by_contra hlt
    rcases (show n = 0 ∨ n = 1 by omega) with rfl | rfl
    · exact Course.not_isFinal_iff.2 ⟨⟨_, rfl, rfl⟩, by decide⟩ hn
    · exact Course.not_isFinal_iff.2 ⟨⟨_, rfl, rfl⟩, by decide⟩ hn
  refine ⟨hfirst, fun n => ?_, ?_⟩
  · rw [backoff_twicePerSecond]
    decide
  · rw [((tries_end_with_first_final _ _ _ _).1 2 hfirst).outcome 3 (by decide), hbackoff]
    rfl

end GridGateway.Client
