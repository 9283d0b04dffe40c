import GridGateway.Client.Call

/-!
# Trying again

A call that fails for the network's or the server's sake is tried again after a while. The delays grow from try
to try up to a limit, and no delay is begun that would end after the time for the whole call is up.
-/

namespace GridGateway.Client

/-- When calls are tried again. Spans of time are in milliseconds. -/
structure RetryPolicy where
  /-- The delay after the first failure. -/
  initial : Nat := 500
  /-- The growth of the delays from one to the next. -/
  multiplier : Float := 1.5
  /-- The longest delay. -/
  maxInterval : Nat := 60000
  /-- No delay ends later than this after the start of the first try. -/
  maxElapsed : Nat := 120000

/-- The product of `acc` and the `n`-th power of `x`, by repeated squaring. -/
def powerFrom (acc x : Float) (n : Nat) : Float :=
  let acc := if n % 2 = 1 then acc * x else acc
  if n / 2 = 0 then acc else powerFrom acc (x * x) (n / 2)
termination_by n

/-- A power, rounded at every multiplication. -/
def power (x : Float) (n : Nat) : Float := powerFrom 1 x n

/-- The lesser of a double and a limit; what is no number counts as the limit. -/
def capAt (limit x : Float) : Float := if x < limit then x else limit

/-- The greatest exponent that is told apart from those beyond it. -/
def maxExponent : Nat := 2147483647

/-- The delay before the try after failure number `attempt`, which is counted from zero. -/
def RetryPolicy.backoff (p : RetryPolicy) (attempt : Nat) : Nat :=
  let grown := Float.ofNat p.initial * power p.multiplier (min attempt maxExponent)
  (capAt (Float.ofNat p.maxInterval) grown).toUInt64.toNat

/-- What a call that may be tried again came to. -/
structure Retried (α : Type) where
  /-- The times at which a try began, since the start of the first one. -/
  tries : List Nat
  /-- The time at which the call was over. -/
  elapsed : Nat
  result : Except ClientError α

/-- The same with a try before. -/
def Retried.after {α : Type} (time : Nat) (r : Retried α) : Retried α := { r with tries := time :: r.tries }

/-- Makes a call at a time and again after a failure worth it, where `delay` gives the delay after each failure
and `attempt` counts the failures so far. Nothing comes out when `fuel` tries are not enough.

The count has no limit; one that is kept in 32 bits is the same for the first `2 ^ 32` failures, and would overflow
with the next. -/
def retryFrom {γ α : Type} (delay : Nat → Nat) (maxElapsed : Nat)
    (inner : StateM γ (Nat × Except ClientError α)) : Nat → Nat → Nat → StateM γ (Option (Retried α))
  | 0, _, _ => return none
  | fuel + 1, attempt, time => do
    let (latency, result) ← inner
    let ended := time + latency
    match result with
    | .ok a => return some ⟨[time], ended, .ok a⟩
    | .error e =>
      if e.isRetryable && ended + delay attempt ≤ maxElapsed then
        let rest ← retryFrom delay maxElapsed inner fuel (attempt + 1) (ended + delay attempt)
        return rest.map (·.after time)
      else return some ⟨[time], ended, .error e⟩

/-- Makes a call of a client, and again after a failure worth it, with at most `fuel` tries. -/
def retry {γ α : Type} (p : RetryPolicy) (client : Client γ) (fuel : Nat) (c : Call α) :
    StateM γ (Option (Retried α)) :=
  retryFrom p.backoff p.maxElapsed (client.perform c) fuel 0 0

end GridGateway.Client
