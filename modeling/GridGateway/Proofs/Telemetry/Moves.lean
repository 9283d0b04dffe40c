import GridGateway.Proofs.Telemetry.Records
import GridGateway.Telemetry.Manager
import Mathlib.Data.List.Nodup
import Mathlib.Data.List.Perm.Subperm

/-!
# What the refresher can do

Over a grid each move of the refresher leads to one of the states that `Manager.Step` lists (`Manager.step_of_eq`);
this is all that later proofs use of `Manager.step`.  A run is a sequence of moves (`Manager.run`); what each move
keeps, a whole run keeps (`Manager.run_induction`).
-/

namespace GridGateway

open Telemetry Bus

/-- The request that refreshes a node of a grid. -/
def Grid.NodeRecord.request (n : Grid.NodeRecord) : Request := ⟨n.nodeId, n.twinId⟩

/-- Numbers of nodes are words of 32 bits, so that the nodes of a grid whose numbers differ can be counted. -/
theorem Grid.length_nodes_le {g : Grid} (hids : (g.nodes.map (·.nodeId)).Nodup) : g.nodes.length ≤ UInt32.size := by
  have hnumbers : ((g.nodes.map (·.nodeId)).map (·.toNat)).Nodup := hids.map fun a b => UInt32.toNat_inj.1
  have hbound : (g.nodes.map (·.nodeId)).map (·.toNat) ⊆ List.range UInt32.size := by
    intro k hk
    obtain ⟨n, -, rfl⟩ := List.mem_map.1 hk
    exact List.mem_range.2 n.toNat_lt
  have hlength := (hnumbers.subperm hbound).length_le
  rwa [List.length_map, List.length_map, List.length_range] at hlength

theorem Grid.length_nodes_lt {g : Grid} (hids : (g.nodes.map (·.nodeId)).Nodup) : g.nodes.length < UInt64.size :=
  Nat.lt_of_le_of_lt (length_nodes_le hids) (by decide)

/-- The refresher's workshop over a grid. -/
def Grid.workshop {β : Type} (g : Grid) (bus : Bus β) (settings : Settings) (epoch : UInt64) :
    Workshop Records β where
  inventory := g.inventory
  bus := bus
  settings := settings
  epoch := epoch

namespace Telemetry

/-- Whether the node of a request is due on its record. -/
def Records.isDue (rs : Records) (now : UInt64) (r : Request) : Bool :=
  (Target.ofRecord r.nodeId r.twinId (rs.get? r.nodeId)).isDue now

/-- The requests that a page of nodes gives rise to. -/
def Records.dueOn (rs : Records) (now : UInt64) (page : List Grid.NodeRecord) : List Request :=
  (page.map (·.request)).filter (rs.isDue now)

theorem Records.dueOn_sublist (rs : Records) (now : UInt64) (page : List Grid.NodeRecord) :
    ((rs.dueOn now page).map (·.nodeId)).Sublist (page.map (·.nodeId)) := by
  have h := (List.filter_sublist (p := rs.isDue now) (l := page.map (·.request))).map (·.nodeId)
  rwa [List.map_map (l := page)] at h

namespace Supervisor

/-- The requests that the supervisor has still to hand out. -/
def queue : Supervisor → List Request
  | offering r rest _ _ => r :: rest
  | _ => []

/-- The nodes that the supervisor has still to read in its round. -/
def unread (g : Grid) : Supervisor → List Grid.NodeRecord
  | reading offset _ => g.nodes.drop offset.toNat
  | offering _ _ offset _ => g.nodes.drop offset.toNat
  | _ => []

end Supervisor

namespace Manager

variable {β : Type}

@[simp]
theorem queue_handOut (offset : UInt64) (queued : Nat) (rs : List Request) :
    (Supervisor.handOut offset queued rs).queue = rs := by
  cases rs <;> rfl

@[simp]
theorem unread_handOut (g : Grid) (offset : UInt64) (queued : Nat) (rs : List Request) :
    (Supervisor.handOut offset queued rs).unread g = g.nodes.drop offset.toNat := by
  cases rs <;> rfl

/-- The requests that wait for a worker, the one in the slot first. -/
def waiting (m : Manager Records β) : List Request := m.slot.toList ++ m.supervisor.queue

/-- The nodes of the page that begins at an offset. -/
def pageAt (g : Grid) (w : Workshop Records β) (offset : UInt64) : List Grid.NodeRecord :=
  (g.nodes.drop offset.toNat).take (pageSize w).toNat

theorem pageSize_pos (w : Workshop Records β) : 0 < (pageSize w).toNat := by
  change 0 < (if w.settings.pageSize ≤ 1 then 1 else w.settings.pageSize).toNat
  split
  · decide
  · next h =>
    have hlarge : 1 < w.settings.pageSize.toNat := UInt64.lt_iff_toNat_lt.1 (UInt64.not_le.1 h)
    omega

/-- A page and the nodes behind it, where the supervisor goes on. -/
theorem drop_eq_pageAt_append {g : Grid} {w : Workshop Records β} (hsize : g.nodes.length < UInt64.size)
    {offset : UInt64} (hpage : pageAt g w offset ≠ []) :
    g.nodes.drop offset.toNat =
      pageAt g w offset ++ g.nodes.drop (offset + .ofNat (pageAt g w offset).length).toNat := by
  have hprefix : pageAt g w offset <+: g.nodes.drop offset.toNat := List.take_prefix _ _
  have hlength : (pageAt g w offset).length ≤ g.nodes.length - offset.toNat := by
    rw [← List.length_drop]
    exact hprefix.length_le
  have hpos : 0 < (pageAt g w offset).length := List.length_pos_iff.2 hpage
  have hnext : (offset + .ofNat (pageAt g w offset).length).toNat = offset.toNat + (pageAt g w offset).length := by
    have hword : (UInt64.ofNat (pageAt g w offset).length).toNat = (pageAt g w offset).length :=
      UInt64.toNat_ofNat_of_lt' (by omega)
    rw [UInt64.toNat_add, hword, Nat.mod_eq_of_lt]
    change offset.toNat + (pageAt g w offset).length < UInt64.size
    omega
  rw [hnext, ← List.drop_drop]
  obtain ⟨rest, hrest⟩ := hprefix
  rw [← hrest, List.drop_left]

/-- What the moves of a refresher over a grid lead to. -/
inductive Step (g : Grid) (w : Workshop Records β) (m : Manager Records β) :
    Move → Manager Records β → Prop where
  | wake : m.supervisor = .resting → m.nextRound ≤ m.clock →
      Step g w m .wake { m with supervisor := .reading 0 0, nextRound := m.roundAfter w }
  /-- The page is empty, so that the round is over. -/
  | finish {offset : UInt64} {queued : Nat} : m.supervisor = .reading offset queued → pageAt g w offset = [] →
      Step g w m .read
        { m with supervisor := .resting, rounds := queued :: m.rounds, pages := (m.clock, offset) :: m.pages }
  | page {offset : UInt64} {queued : Nat} : m.supervisor = .reading offset queued → pageAt g w offset ≠ [] →
      Step g w m .read
        { m with
          supervisor := Supervisor.handOut (offset + .ofNat (pageAt g w offset).length) queued
            (m.store.dueOn (m.now w) (pageAt g w offset))
          pages := (m.clock, offset) :: m.pages }
  | offer {r : Request} {rest : List Request} {offset : UInt64} {queued : Nat} :
      m.supervisor = .offering r rest offset queued → m.slot = none →
      Step g w m .offer { m with slot := some r, supervisor := Supervisor.handOut offset (queued + 1) rest }
  | take {r : Request} : m.slot = some r → 0 < m.idle → Step g w m .take (m.begin w r)
  /-- A job asks its next question. -/
  | ask {j : Job} {time : Nat} {stage : Stage} : j ∈ m.jobs → j.turn = .ask time stage → time ≤ m.clock →
      Step g w m (.answer j.number)
        { m with
          bus := (stage.pass w.bus j.request.twinId w.settings.timeoutMs j.deadline time m.bus).2
          jobs := m.jobs.map fun k => if k.number = j.number then
            { k with turn := (stage.pass w.bus j.request.twinId w.settings.timeoutMs j.deadline time m.bus).1 } else k
          asked := (m.clock, j.request.twinId, stage.question) :: m.asked }
  /-- A job records what it has come to, and its worker is idle again. -/
  | enter {j : Job} {time : Nat} {result : Except BusError Report} : j ∈ m.jobs → j.turn = .over time result →
      time ≤ m.clock →
      Step g w m (.answer j.number)
        { m with
          store := m.store.enter (.ofResult j.request.nodeId (m.now w) result)
          jobs := m.jobs.filter (·.number ≠ j.number)
          idle := m.idle + 1 }
  | wait (ms : Nat) : Step g w m (.wait ms) { m with clock := m.clock + ms }
  | stop : Step g w m .stop { m with stopping := true }
  | breakOff {r : Request} {rest : List Request} {offset : UInt64} {queued : Nat} : m.stopping = true →
      m.supervisor = .offering r rest offset queued → Step g w m .leave (m.endRound queued)
  | leave : m.stopping = true → m.supervisor = .resting → Step g w m .leave { m with supervisor := .stopped }
  | dismiss (workers : Nat) : m.stopping = true → 0 < workers → workers ≤ m.idle →
      Step g w m (.dismiss workers) { m with idle := m.idle - workers }

private theorem filter_targets (g : Grid) (w : Workshop Records β) (rs : Records) (now : UInt64) (offset : UInt64) :
    ((g.targets rs offset (pageSize w)).filter (·.isDue now)).map (·.request) = rs.dueOn now (pageAt g w offset) := by
  rw [Grid.targets, List.filter_map, List.map_map, Records.dueOn, List.filter_map]
  rfl

/-- What reading a page leads to. -/
private theorem step_readPage {g : Grid} {w : Workshop Records β} (hw : w.inventory = g.inventory)
    {m : Manager Records β} {offset : UInt64} {queued : Nat} (h : m.supervisor = .reading offset queued) :
    Step g w m .read (m.readPage w offset queued) := by
  have hread : (w.inventory.fetchTargets offset (pageSize w)).run m.store =
      (.ok (g.targets m.store offset (pageSize w)), m.store) := by rw [hw]; rfl
  have hlength : (g.targets m.store offset (pageSize w)).length = (pageAt g w offset).length := List.length_map _
  unfold readPage
  simp only [hread]
  split
  · next heq => cases heq
  · next heq =>
    have hpage : pageAt g w offset = [] := List.map_eq_nil_iff.1 (Except.ok.inj heq)
    exact .finish h hpage
  · next targets hne heq =>
    cases heq
    have hpage : pageAt g w offset ≠ [] := fun hpage => hne (List.map_eq_nil_iff.2 hpage)
    have hstep := Step.page h hpage
    rw [← filter_targets, ← hlength] at hstep
    exact hstep

/-- Each move is one of the listed ones. -/
theorem step_of_eq {g : Grid} {w : Workshop Records β} (hw : w.inventory = g.inventory) {m m' : Manager Records β}
    {v : Move} (h : m.step w v = some m') : Step g w m v m' := by
  cases v with
  | wake =>
    simp only [step] at h
    split at h
    · split at h
      · cases h; exact .wake ‹_› ‹_›
      · cases h
    · cases h
  | read =>
    simp only [step] at h
    split at h
    · cases h; exact step_readPage hw ‹_›
    · cases h
  | offer =>
    simp only [step] at h
    split at h
    · cases h; exact .offer ‹_› ‹_›
    · cases h
  | take =>
    simp only [step] at h
    split at h
    · split at h
      · cases h; exact .take ‹_› ‹_›
      · cases h
    · cases h
  | answer number =>
    simp only [step] at h
    split at h
    · next j hfind =>
      have hj : j ∈ m.jobs := List.mem_of_find?_eq_some hfind
      have hnumber := List.find?_some hfind
      obtain rfl : j.number = number := of_decide_eq_true hnumber
      split at h
      · next hdue =>
        cases h
        match hturn : j.turn with
        | .ask time stage =>
          rw [Job.due, hturn] at hdue
          simp only [goOn, hturn]
          exact .ask hj hturn hdue
        | .over time result =>
          rw [Job.due, hturn] at hdue
          have hrecord := record_grid g j.request.nodeId (m.now w) result m.store
          rw [← hw] at hrecord
          simp only [goOn, hturn, hrecord]
          exact .enter hj hturn hdue
      · cases h
    · cases h
  | wait ms => cases h; exact .wait ms
  | stop => cases h; exact .stop
  | leave =>
    simp only [step] at h
    split at h
    · split at h
      · cases h; exact .leave ‹_› ‹_›
      · cases h; exact .breakOff ‹_› ‹_›
      · cases h
    · cases h
  | dismiss workers =>
    simp only [step] at h
    split at h
    · next hcond => cases h; exact .dismiss workers hcond.1 hcond.2.1 hcond.2.2
    · cases h

/-! ### Runs -/

section

variable {σ : Type}

/-- The state after a sequence of moves, if each of them is possible when it is its turn. -/
def run (w : Workshop σ β) (m : Manager σ β) (moves : List Move) : Option (Manager σ β) :=
  moves.foldlM (fun m v => m.step w v) m

theorem run_cons_eq_some {w : Workshop σ β} {m m' : Manager σ β} {v : Move} {moves : List Move} :
    m.run w (v :: moves) = some m' ↔ ∃ next, m.step w v = some next ∧ next.run w moves = some m' := by
  simp only [run, List.foldlM_cons, Option.bind_eq_bind, Option.bind_eq_some_iff]

theorem run_append_eq_some {w : Workshop σ β} {m m' : Manager σ β} {first rest : List Move} :
    m.run w (first ++ rest) = some m' ↔ ∃ next, m.run w first = some next ∧ next.run w rest = some m' := by
  simp only [run, List.foldlM_append, Option.bind_eq_bind, Option.bind_eq_some_iff]

/-- What every move keeps, a run keeps. -/
theorem run_induction {w : Workshop σ β} {P : Manager σ β → Prop}
    (hstep : ∀ m v m', m.step w v = some m' → P m → P m') {m m' : Manager σ β} {moves : List Move}
    (hrun : m.run w moves = some m') (hm : P m) : P m' := by
  induction moves generalizing m with
  | nil => cases hrun; exact hm
  | cons v moves ih =>
    obtain ⟨next, hnext, hrest⟩ := run_cons_eq_some.1 hrun
    exact ih hrest (hstep m v next hnext hm)

end

/-! ### What a move leaves alone -/

section

variable {g : Grid} {w : Workshop Records β} {m m' : Manager Records β} {v : Move}

/-- Requests that wait have waited before, or come from the page just read. -/
theorem mem_waiting_of_step (h : Step g w m v m') {r : Request} (hr : r ∈ m'.waiting) :
    r ∈ m.waiting ∨ v = .read ∧ ∃ offset queued, m.supervisor = .reading offset queued ∧
      r ∈ m.store.dueOn (m.now w) (pageAt g w offset) := by
  cases h with
  | wake hresting => rw [waiting, hresting]; exact .inl hr
  | finish hreading => rw [waiting, hreading]; exact .inl hr
  | page hreading =>
    rw [waiting, queue_handOut] at hr
    rcases List.mem_append.1 hr with hslot | hpage
    · exact .inl (List.mem_append_left _ hslot)
    · exact .inr ⟨rfl, _, _, hreading, hpage⟩
  | offer hoffering hslot =>
    rw [waiting, queue_handOut] at hr
    rw [waiting, hoffering, hslot]
    exact .inl hr
  | take => exact .inl (List.mem_append_right _ hr)
  | breakOff =>
    rcases List.mem_append.1 hr with hslot | hqueue
    · exact .inl (List.mem_append_left _ hslot)
    · cases hqueue
  | leave _ hresting => rw [waiting, hresting]; exact .inl hr
  | _ => exact .inl hr

/-- What is worked on has been worked on before, or has just been taken out of the slot. -/
theorem mem_jobs_of_step (h : Step g w m v m') {j : Job} (hj : j ∈ m'.jobs) :
    (∃ k ∈ m.jobs, k.request = j.request) ∨ v = .take ∧ m.slot = some j.request := by
  cases h with
  | take hslot =>
    rcases List.mem_append.1 hj with hj | hj
    · exact .inl ⟨j, hj, rfl⟩
    · rw [List.mem_singleton.1 hj]
      exact .inr ⟨rfl, hslot⟩
  | ask =>
    obtain ⟨k, hk, rfl⟩ := List.mem_map.1 hj
    refine .inl ⟨k, hk, ?_⟩
    split <;> rfl
  | enter => exact .inl ⟨j, (List.mem_filter.1 hj).1, rfl⟩
  | _ => exact .inl ⟨j, hj, rfl⟩

/-- The record of a node that nobody works on does not change. -/
theorem get?_store_of_step (h : Step g w m v m') {nodeId : UInt32}
    (hjobs : ∀ j ∈ m.jobs, j.request.nodeId ≠ nodeId) :
    m'.store.get? nodeId = m.store.get? nodeId := by
  cases h with
  | enter hj => exact (Records.get?_enter ..).trans (if_neg (Ne.symm (hjobs _ hj)))
  | _ => rfl

theorem clock_le_of_step (h : Step g w m v m') : m.clock ≤ m'.clock := by
  cases h with
  | wait ms => exact Nat.le_add_right _ _
  | _ => exact Nat.le_refl _

/-- The clock never goes back. -/
theorem clock_le_of_run (hw : w.inventory = g.inventory) {moves : List Move} (hrun : m.run w moves = some m') :
    m.clock ≤ m'.clock :=
  run_induction (P := fun next => m.clock ≤ next.clock)
    (fun _ _ _ hstep hle => Nat.le_trans hle (clock_le_of_step (step_of_eq hw hstep))) hrun (Nat.le_refl _)

end

end Manager

end Telemetry

end GridGateway
