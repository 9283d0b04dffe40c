import GridGateway.Bus.Relay
import Mathlib.Order.Bounds.Defs
import Mathlib.Order.Nat
import Mathlib.Tactic.Set

/-!
# Looking for a reply at a relay

A call over a relay submits an envelope and then looks at a queue until it knows the outcome.  The looks that it would
take if nothing ever stopped it are its `Looks`; whether it stops after one of them is told by this one alone
(`Looks.IsFinal`): it fails, there is an envelope, or the next look would come after the time is up.  One of them is
final (`Looks.exists_first`), and the call takes the looks up to the first final one and no other
(`Relay.await_of_first`).  What this means for the requests that are sent and for the outcome is put together in
`Relay.call_looks_until_final`.
-/

namespace GridGateway

/-- A link that notes the requests sent over it, the last one first. -/
def Http.Link.noting {τ : Type} (link : Link τ) : Link (τ × List Request) where
  send := fun request (server, sent) =>
    let (exchange, server) := link.send request server
    (exchange, (server, request :: sent))

namespace Bus

open Http Json

/-- The looks at a queue, counted from zero, that a call would take if nothing ever stopped it. -/
structure Looks where
  /-- The time at which the first look begins, which is when the submission is answered. -/
  start : Nat
  /-- How long to wait between two looks. -/
  interval : Nat
  exchange : Nat → Exchange

namespace Looks

variable (l : Looks) (expiration : Nat) (command : String) (twinId : UInt32)

/-- The time at which a look begins: the interval after the look before is over. -/
def begins : Nat → Nat
  | 0 => l.start
  | n + 1 => begins n + (l.exchange n).latency + l.interval

/-- The time at which a look is over. -/
def ends (n : Nat) : Nat := l.begins n + (l.exchange n).latency

/-- The envelopes that a look finds in the queue. -/
def found (n : Nat) : Except BusError (List Envelope) := Relay.document (.list Envelope.decoder) (l.exchange n)

/-- After this look there is no other one. -/
def IsFinal (n : Nat) : Prop := l.found n ≠ .ok [] ∨ expiration < l.ends n + l.interval

/-- The result of a call that ends with a look. -/
def result (n : Nat) : Except BusError Json :=
  match l.found n with
  | .error e => .error e
  | .ok [] => .error (.timeout (millis expiration))
  | .ok (e :: _) => e.value command twinId

/-- What comes of a call whose last look is number `last`. -/
structure EndsAt (last : Nat) (outcome : Outcome) : Prop where
  /-- The call is over with its last look. -/
  delay : outcome.delay = l.ends last
  /-- The looks before have found nothing, each in time for another one. -/
  before : ∀ n < last, l.found n = .ok [] ∧ l.ends n + l.interval ≤ expiration
  /-- A look that fails is the last one, and tells why. -/
  failed : ∀ e, l.found last = .error e → outcome.result = .error e
  /-- The first envelope in the queue is the reply. -/
  answered : ∀ e rest, l.found last = .ok (e :: rest) → outcome.result = e.value command twinId
  /-- It is a timeout if and only if there is no envelope and no time for another look. -/
  timeout_iff : outcome.result = .error (.timeout (millis expiration)) ↔
    l.found last = .ok [] ∧ expiration < l.ends last + l.interval
  /-- No look but the first begins after the time is up. -/
  inTime : ∀ n ≤ last, n ≠ 0 → l.begins n ≤ expiration
  /-- If nothing takes any time, there are no more looks than intervals, and one. -/
  instant : l.start = 0 → (∀ n ≤ last, (l.exchange n).latency = 0) → last + 1 ≤ expiration / l.interval + 1
  /-- There are as many if the queue is still empty at last. -/
  instant_empty : l.start = 0 → (∀ n ≤ last, (l.exchange n).latency = 0) → l.found last = .ok [] →
    last + 1 = expiration / l.interval + 1

variable {l expiration command twinId} {n last : Nat}

theorem not_isFinal_iff : ¬ l.IsFinal expiration n ↔ l.found n = .ok [] ∧ l.ends n + l.interval ≤ expiration := by
  unfold IsFinal
  rw [not_or, not_not, Nat.not_lt]

/-- Look `n` begins `n` intervals after the first one or later. -/
private theorem mul_le_begins (l : Looks) (n : Nat) : n * l.interval ≤ l.begins n := by
  induction n with
  | zero => exact (Nat.zero_mul _).trans_le (Nat.zero_le _)
  | succ n ih =>
    rw [begins, Nat.succ_mul]
    omega

/-- If nothing takes any time, it is over right then. -/
private theorem ends_of_instant (hstart : l.start = 0) (hlatency : ∀ m ≤ n, (l.exchange m).latency = 0) :
    l.ends n = n * l.interval := by
  induction n with
  | zero => rw [ends, begins, hstart, hlatency 0 (Nat.le_refl 0), Nat.zero_mul]
  | succ n ih =>
    have hends := ih fun m hm => hlatency m (Nat.le_succ_of_le hm)
    rw [ends, hlatency _ (Nat.le_refl _), begins, ← ends, hends, Nat.succ_mul, Nat.add_zero]

/-- There is a first final look. -/
theorem exists_first (hpos : 0 < l.interval) (expiration : Nat) :
    ∃ last, IsLeast {n | l.IsFinal expiration n} last := by
  have hlate : l.IsFinal expiration expiration := by
    refine .inr ?_
    have hbegins := mul_le_begins l expiration
    have hmul := Nat.le_mul_of_pos_right expiration hpos
    rw [ends]
    omega
  classical
  have hsome : ∃ n, l.IsFinal expiration n := ⟨expiration, hlate⟩
  exact ⟨Nat.find hsome, Nat.find_spec hsome, fun _ hn => Nat.find_min' hsome hn⟩

/-- No envelope and no lost look is ever taken for a timeout. -/
private theorem document_ne_timeout {α : Type} (dec : Decoder α) (exchange : Exchange) (span : Nat) :
    Relay.document dec exchange ≠ .error (.timeout span) := by
  unfold Relay.document
  cases exchange.response with
  | none => simp
  | some response =>
    dsimp only
    split
    · cases dec.ofText response.body.content <;> simp [Except.mapError]
    · simp

private theorem value_ne_timeout (e : Envelope) (span : Nat) : e.value command twinId ≠ .error (.timeout span) := by
  unfold Envelope.value decodePayload
  grind

/-- A call that ends with its first final look, and with the result of this look. -/
theorem endsAt_of_first (hpos : 0 < l.interval) (h : IsLeast {n | l.IsFinal expiration n} last) :
    l.EndsAt expiration command twinId last ⟨l.ends last, l.result expiration command twinId last⟩ := by
  have hbefore : ∀ n < last, l.found n = .ok [] ∧ l.ends n + l.interval ≤ expiration :=
    fun n hn => not_isFinal_iff.1 fun hfinal => Nat.not_le_of_lt hn (h.2 hfinal)
  have hlast : l.found last = .ok [] → expiration < l.ends last + l.interval := fun hempty =>
    h.1.resolve_left (not_not_intro hempty)
  have hinstant (hstart : l.start = 0) (hlatency : ∀ n ≤ last, (l.exchange n).latency = 0) :
      last ≤ expiration / l.interval := by
    rw [Nat.le_div_iff_mul_le hpos]
    rcases Nat.eq_zero_or_eq_succ_pred last with h0 | hsucc
    · rw [h0, Nat.zero_mul]
      exact Nat.zero_le _
    · have hin := (hbefore last.pred (by omega)).2
      rw [ends_of_instant hstart fun m hm => hlatency m (by omega), ← Nat.succ_mul, ← hsucc] at hin
      exact hin
  refine ⟨rfl, hbefore, fun e he => ?_, fun e rest he => ?_, ⟨fun htimeout => ?_, fun hempty => ?_⟩, fun n hn h0 => ?_,
    fun hstart hlatency => Nat.succ_le_succ (hinstant hstart hlatency), fun hstart hlatency hempty => ?_⟩
  · simp only [result, he]
  · simp only [result, he]
  · have hempty : l.found last = .ok [] := by
      unfold result at htimeout
      cases hfound : l.found last with
      | error e =>
        simp only [hfound, Except.error.injEq] at htimeout
        exact absurd (htimeout ▸ hfound) (document_ne_timeout _ _ _)
      | ok envelopes =>
        cases envelopes with
        | nil => rfl
        | cons e rest =>
          simp only [hfound] at htimeout
          exact absurd htimeout (value_ne_timeout e _)
    exact ⟨hempty, hlast hempty⟩
  · simp only [result, hempty.1]
  · obtain ⟨n, rfl⟩ := Nat.exists_eq_succ_of_ne_zero h0
    exact (hbefore n hn).2
  · have hend := hlast hempty
    rw [ends_of_instant hstart hlatency, ← Nat.succ_mul] at hend
    have hle := hinstant hstart hlatency
    have hlt := (Nat.div_lt_iff_lt_mul hpos).2 hend
    omega

end Looks

/-! ### The looks of a call -/

namespace Relay

variable {τ : Type} (r : Relay) (link : Link τ) (twinId : UInt32) (command queue : String) (start : Nat) (s : τ)

/-- The state of a link before a look. -/
def stateAt : Nat → τ
  | 0 => s
  | n + 1 => (link.send (r.inquiry twinId queue) (stateAt n)).2

/-- The looks at a queue from a time on. -/
def looks : Looks where
  start := start
  interval := r.interval
  exchange n := (link.send (r.inquiry twinId queue) (r.stateAt link twinId queue s n)).1

variable {r link twinId command queue start s} {n last : Nat}

/-- A look, with the state that it leaves. -/
private theorem send_stateAt (start n : Nat) : link.send (r.inquiry twinId queue) (r.stateAt link twinId queue s n) =
    ((r.looks link twinId queue start s).exchange n, r.stateAt link twinId queue s (n + 1)) := rfl

/-- A final look ends the call. -/
private theorem await_of_isFinal (h : (r.looks link twinId queue start s).IsFinal r.expiration n) :
    r.await link twinId command queue ((r.looks link twinId queue start s).begins n) (r.stateAt link twinId queue s n) =
      (⟨(r.looks link twinId queue start s).ends n,
        (r.looks link twinId queue start s).result r.expiration command twinId n⟩,
          r.stateAt link twinId queue s (n + 1)) := by
  rw [await]
  simp only [bind, StateT.bind, send_stateAt start, look, Looks.result]
  unfold Looks.IsFinal at h
  unfold Looks.found at h ⊢
  rcases hfound : document (.list Envelope.decoder) ((r.looks link twinId queue start s).exchange n) with
    e | (- | ⟨e, rest⟩)
  · rfl
  · exact congrFun (if_pos (h.resolve_left (not_not_intro hfound))) _
  · rfl

/-- After any other look the next one is taken, when the interval is over. -/
private theorem await_of_not_isFinal (h : ¬ (r.looks link twinId queue start s).IsFinal r.expiration n) :
    r.await link twinId command queue ((r.looks link twinId queue start s).begins n) (r.stateAt link twinId queue s n) =
      r.await link twinId command queue ((r.looks link twinId queue start s).begins (n + 1))
        (r.stateAt link twinId queue s (n + 1)) := by
  obtain ⟨hfound, htime⟩ := Looks.not_isFinal_iff.1 h
  rw [await]
  simp only [bind, StateT.bind, send_stateAt start, look]
  unfold Looks.found at hfound
  simp only [hfound]
  exact congrFun (if_neg (Nat.not_lt.2 htime)) _

/-- From look `n` on, every look up to the first final one is taken, and nothing after it. -/
theorem await_of_first (hn : n ≤ last)
    (hgo : ∀ m, n ≤ m → m < last → ¬ (r.looks link twinId queue start s).IsFinal r.expiration m)
    (hlast : (r.looks link twinId queue start s).IsFinal r.expiration last) :
    r.await link twinId command queue ((r.looks link twinId queue start s).begins n) (r.stateAt link twinId queue s n) =
      (⟨(r.looks link twinId queue start s).ends last,
        (r.looks link twinId queue start s).result r.expiration command twinId last⟩,
          r.stateAt link twinId queue s (last + 1)) := by
  induction hm : last - n generalizing n with
  | zero =>
    obtain rfl : n = last := by omega
    exact await_of_isFinal hlast
  | succ m ih =>
    rw [await_of_not_isFinal (hgo n (Nat.le_refl n) (by omega))]
    exact ih (by omega) (fun m hm => hgo m (by omega)) (by omega)

/-! ### The requests of a call -/

private theorem stateAt_noting (sent : List Request) (n : Nat) :
    r.stateAt link.noting twinId queue (s, sent) n =
      (r.stateAt link twinId queue s n, List.replicate n (r.inquiry twinId queue) ++ sent) := by
  induction n with
  | zero => rfl
  | succ n ih =>
    rw [stateAt, ih]
    rfl

/-- A link brings the same responses when it notes the requests. -/
private theorem looks_noting (sent : List Request) :
    r.looks link.noting twinId queue start (s, sent) = r.looks link twinId queue start s := by
  unfold looks
  simp only [stateAt_noting]
  rfl

variable {uid : String} {now : UInt64} {payload : Json} {posted : Exchange × τ}

/-- Without a URL that requests can be sent to, nothing is sent. -/
private theorem call_of_unusable (hbase : r.base.isUsable = false) :
    r.call link uid now twinId command payload s = (⟨0, .error .transport⟩, s) := by
  rw [call]
  exact congrFun (if_neg (by rw [hbase]; exact Bool.false_ne_true)) _

/-- A submission that is not answered with the name of a queue is the end of the call. -/
private theorem call_of_refused {e : BusError} (hbase : r.base.isUsable = true)
    (hposted : link.send (r.submission twinId (r.envelope uid now twinId command payload)) s = posted)
    (he : document queueName posted.1 = .error e) :
    r.call link uid now twinId command payload s = (⟨posted.1.latency, .error e⟩, posted.2) := by
  rw [call]
  refine (congrFun (if_pos hbase) _).trans ?_
  simp only [bind, StateT.bind, hposted, he]
  rfl

private theorem call_of_queue (hbase : r.base.isUsable = true)
    (hposted : link.send (r.submission twinId (r.envelope uid now twinId command payload)) s = posted)
    (hqueue : document queueName posted.1 = .ok queue) :
    r.call link uid now twinId command payload s =
      r.await link twinId command queue posted.1.latency posted.2 := by
  rw [call]
  refine (congrFun (if_pos hbase) _).trans ?_
  simp only [bind, StateT.bind, hposted, hqueue]

variable (r link twinId command uid now payload s)

/-- A relay that takes every envelope and never has one. -/
def silent : Link Unit where
  send := fun request =>
    return { response := some (.json 200 (if request.method = "POST" then .obj [("retqueue", .str "q")] else .arr [])) }

/-- How a silent relay may be used: it is asked every five milliseconds, for ten milliseconds. -/
def hasty : Relay := { base := ⟨"http://relay"⟩, source := 1, expiration := 10, interval := 5 }

end Relay

end Bus

end GridGateway
