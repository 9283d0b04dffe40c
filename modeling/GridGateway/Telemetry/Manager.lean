import GridGateway.Telemetry.Refresh
import GridGateway.Telemetry.Settings

/-!
# The refresher

A supervisor and a number of workers keep the telemetry records fresh. In every round the supervisor reads the
nodes page by page and hands those that are due to the workers, through a slot that holds one request; while the
slot is full the supervisor waits. A worker takes the request out of the slot, refreshes the node and comes back
for the next one.

The state of the refresher changes by moves, each of which is one action of the supervisor or of a worker without
interruption. `Manager.step` tells which moves are possible in a state and what they lead to; in which order they
are made is left open. In particular nobody has to heed the order to stop at once: until then the supervisor may
begin another round, and an idle worker may take another request.
-/

namespace GridGateway.Telemetry

open Bus

/-- A request to refresh a node. -/
structure Request where
  nodeId : UInt32
  twinId : UInt32
  deriving DecidableEq, Repr

/-- The request that refreshes a target. -/
def Target.request (t : Target) : Request := ⟨t.nodeId, t.twinId⟩

/-- A fetch that a worker is busy with. -/
structure Job where
  /-- Jobs are numbered in the order in which they are begun. -/
  number : Nat
  request : Request
  /-- The time at which the fetch is cut off. -/
  deadline : Nat
  /-- What happens next, and when. -/
  turn : Stage.Turn

/-- The time of the next event of a job. -/
def Job.due (j : Job) : Nat :=
  match j.turn with
  | .ask time _ => time
  | .over time _ => time

/-- What the supervisor is at. -/
inductive Supervisor where
  /-- Waits for the next round. -/
  | resting
  /-- Reads the page that starts at a node, with so many requests handed out in this round. -/
  | reading (offset : UInt64) (queued : Nat)
  /-- Offers a request to the workers, with more to come from the page before the next one. -/
  | offering (request : Request) (rest : List Request) (offset : UInt64) (queued : Nat)
  | stopped

/-- What the refresher works with. -/
structure Workshop (σ β : Type) where
  inventory : Inventory σ
  bus : Bus β
  settings : Settings
  /-- The time in seconds at which the refresher is started. -/
  epoch : UInt64

/-- The state of the refresher. Times are in milliseconds since its start. -/
structure Manager (σ β : Type) where
  clock : Nat := 0
  store : σ
  bus : β
  supervisor : Supervisor := .resting
  /-- When the next round begins. -/
  nextRound : Nat := 0
  /-- The request that waits for a worker. -/
  slot : Option Request := none
  /-- The number of workers that wait for a request. -/
  idle : Nat
  jobs : List Job := []
  /-- The number of jobs begun so far. -/
  begun : Nat := 0
  /-- Whether the order to stop has been given. -/
  stopping : Bool := false
  /-- How many requests were handed out in each round that is over, the last one first. -/
  rounds : List Nat := []
  /-- The pages read so far with their times, the last one first. -/
  pages : List (Nat × UInt64) := []
  /-- The questions asked so far with their times and twins, the last one first. -/
  asked : List (Nat × UInt32 × Question) := []

/-- The moves of the refresher. -/
inductive Move where
  /-- The supervisor begins a round. -/
  | wake
  /-- The supervisor reads a page. -/
  | read
  /-- The supervisor puts a request into the slot. -/
  | offer
  /-- An idle worker takes the request out of the slot. -/
  | take
  /-- The job with a number goes on. -/
  | answer (number : Nat)
  /-- Time passes. -/
  | wait (ms : Nat)
  /-- The refresher is told to stop. -/
  | stop
  /-- The supervisor heeds the order to stop: it breaks off its round or, between two rounds, ends. -/
  | leave
  /-- So many idle workers heed the order to stop. -/
  | dismiss (workers : Nat)
  deriving DecidableEq, Repr

namespace Manager

variable {σ β : Type}

/-- The refresher at its start. -/
def start (w : Workshop σ β) (store : σ) (bus : β) : Manager σ β :=
  { store := store, bus := bus, idle := max w.settings.workers.toNat 1 }

/-- The time in seconds. -/
def now (w : Workshop σ β) (m : Manager σ β) : UInt64 := w.epoch + .ofNat (m.clock / 1000)

/-- The supervisor with requests to hand out before it goes on to the page at an offset. -/
def Supervisor.handOut (offset : UInt64) (queued : Nat) : List Request → Supervisor
  | [] => .reading offset queued
  | r :: rs => .offering r rs offset queued

/-- When the round after the one that begins now is due: a period after this one was, or a period from now if it
is late. -/
def roundAfter (w : Workshop σ β) (m : Manager σ β) : Nat :=
  (if m.nextRound + 5 < m.clock then m.clock else m.nextRound) + w.settings.periodMs

/-- The size of a page. -/
def pageSize (w : Workshop σ β) : UInt64 := max w.settings.pageSize 1

/-- Ends a round in which so many requests were handed out. -/
def endRound (m : Manager σ β) (queued : Nat) : Manager σ β :=
  { m with supervisor := .resting, rounds := queued :: m.rounds }

/-- Reads a page and keeps the targets that are due. A page without targets or a page that cannot be read ends
the round. -/
def readPage (w : Workshop σ β) (m : Manager σ β) (offset : UInt64) (queued : Nat) : Manager σ β :=
  let (page, store) := (w.inventory.fetchTargets offset (pageSize w)).run m.store
  let m := { m with store := store, pages := (m.clock, offset) :: m.pages }
  match page with
  | .error _ => m.endRound queued
  | .ok [] => m.endRound queued
  | .ok targets =>
    let due := (targets.filter (·.isDue (m.now w))).map (·.request)
    { m with supervisor := Supervisor.handOut (offset + .ofNat targets.length) queued due }

/-- Begins a job. -/
def begin (w : Workshop σ β) (m : Manager σ β) (r : Request) : Manager σ β :=
  let job := ⟨m.begun, r, m.clock + w.settings.timeoutMs, .ask m.clock .first⟩
  { m with slot := none, idle := m.idle - 1, jobs := m.jobs ++ [job], begun := m.begun + 1 }

/-- The next event of a job: a question is asked, or the outcome is recorded and the worker is free. -/
def goOn (w : Workshop σ β) (m : Manager σ β) (j : Job) : Manager σ β :=
  match j.turn with
  | .ask time stage =>
    let (turn, bus) := stage.pass w.bus j.request.twinId w.settings.timeoutMs j.deadline time m.bus
    let jobs := m.jobs.map fun k => if k.number = j.number then { k with turn := turn } else k
    { m with bus := bus, jobs := jobs, asked := (m.clock, j.request.twinId, stage.question) :: m.asked }
  | .over _ result =>
    let (_, store) := record w.inventory j.request.nodeId (m.now w) result m.store
    { m with
      store := store
      jobs := m.jobs.filter (·.number ≠ j.number)
      idle := m.idle + 1 }

/-- What a move leads to; nothing if the move is not possible. -/
def step (w : Workshop σ β) (m : Manager σ β) : Move → Option (Manager σ β)
  | .wake =>
    match m.supervisor with
    | .resting =>
      if m.nextRound ≤ m.clock then
        some { m with supervisor := .reading 0 0, nextRound := m.roundAfter w }
      else none
    | _ => none
  | .read =>
    match m.supervisor with
    | .reading offset queued => some (m.readPage w offset queued)
    | _ => none
  | .offer =>
    match m.supervisor, m.slot with
    | .offering r rest offset queued, none =>
      some { m with slot := some r, supervisor := Supervisor.handOut offset (queued + 1) rest }
    | _, _ => none
  | .take =>
    match m.slot with
    | some r => if 0 < m.idle then some (m.begin w r) else none
    | none => none
  | .answer number =>
    match m.jobs.find? (·.number = number) with
    | some j => if j.due ≤ m.clock then some (m.goOn w j) else none
    | none => none
  | .wait ms => some { m with clock := m.clock + ms }
  | .stop => some { m with stopping := true }
  | .leave =>
    if m.stopping then
      match m.supervisor with
      | .resting => some { m with supervisor := .stopped }
      | .offering _ _ _ queued => some (m.endRound queued)
      | _ => none
    else none
  | .dismiss workers =>
    if m.stopping ∧ 0 < workers ∧ workers ≤ m.idle then some { m with idle := m.idle - workers } else none

end Manager

end GridGateway.Telemetry
