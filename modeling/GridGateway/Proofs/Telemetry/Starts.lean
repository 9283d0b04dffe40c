import GridGateway.Proofs.Query.Pages
import GridGateway.Proofs.Telemetry.Moves
import Mathlib.Data.List.Induction

/-!
# When a worker starts a fetch

The supervisor looks at a page once, and its requests may wait.  The fetch that a worker starts is the only one from
its node, and the node is due at that moment, as long as the node was free at some moment before and nobody has
started a fetch from it since (`Manager.IsClear.step`).  A round that begins when a node is free hands out one request
for it at most (`Manager.count_ahead_of_starts`).  When a round begins while a fetch of an earlier one goes on, a node
may be fetched from twice at a time (`Manager.not_every_start_is_alone`).
-/

namespace GridGateway.Telemetry

open Bus

/-! ### Time -/

/-- A node that is due stays due until something happens to its record. -/
private theorem Target.isDue_mono {t : Target} {now later : UInt64} (hle : now.toNat ≤ later.toNat)
    (h : t.isDue now = true) : t.isDue later = true := by
  unfold isDue at h ⊢
  cases hlast : t.lastFetchAttempt with
  | none => rfl
  | some last =>
    rw [hlast] at h
    have hwait : (backoffWait t.retries).toNat ≤ now.toNat - last.toNat := by
      rw [← satSub_toNat]
      exact UInt64.le_iff_toNat_le.1 (of_decide_eq_true h)
    refine decide_eq_true (UInt64.le_iff_toNat_le.2 ?_)
    rw [satSub_toNat]
    omega

namespace Manager

variable {β : Type}

/-- The time in seconds fits a word. -/
def IsTimely {σ : Type} (w : Workshop σ β) (m : Manager σ β) : Prop := w.epoch.toNat + m.clock / 1000 < UInt64.size

instance {σ : Type} (w : Workshop σ β) (m : Manager σ β) : Decidable (m.IsTimely w) := Nat.decLt _ _

private theorem now_toNat {σ : Type} {w : Workshop σ β} {m : Manager σ β} (h : m.IsTimely w) :
    (m.now w).toNat = w.epoch.toNat + m.clock / 1000 := by
  have hseconds : (UInt64.ofNat (m.clock / 1000)).toNat = m.clock / 1000 :=
    UInt64.toNat_ofNat_of_lt' (Nat.lt_of_le_of_lt (Nat.le_add_left _ _) h)
  rw [now, UInt64.toNat_add, hseconds, Nat.mod_eq_of_lt h]

private theorem IsTimely.of_le {σ : Type} {w : Workshop σ β} {m later : Manager σ β} (hle : m.clock ≤ later.clock)
    (h : later.IsTimely w) : m.IsTimely w :=
  Nat.lt_of_le_of_lt (Nat.add_le_add_left (Nat.div_le_div_right hle) _) h

private theorem now_mono {σ : Type} {w : Workshop σ β} {m later : Manager σ β} (hle : m.clock ≤ later.clock)
    (h : later.IsTimely w) : (m.now w).toNat ≤ (later.now w).toNat := by
  rw [now_toNat (h.of_le hle), now_toNat h]
  exact Nat.add_le_add_left (Nat.div_le_div_right hle) _

/-! ### Nodes nobody works on -/

/-- No request for a node waits, and none is worked on. -/
structure IsFree (m : Manager Records β) (nodeId : UInt32) : Prop where
  waiting : ∀ r ∈ m.waiting, r.nodeId ≠ nodeId
  jobs : ∀ j ∈ m.jobs, j.request.nodeId ≠ nodeId

/-- Nobody works on a node, and it is due if a request for it waits. -/
structure IsClear (w : Workshop Records β) (nodeId : UInt32) (m : Manager Records β) : Prop where
  jobs : ∀ j ∈ m.jobs, j.request.nodeId ≠ nodeId
  due : ∀ r ∈ m.waiting, r.nodeId = nodeId → m.store.isDue (m.now w) r = true

variable {g : Grid} {w : Workshop Records β} {m m' : Manager Records β} {nodeId : UInt32}

private theorem IsFree.isClear (h : m.IsFree nodeId) : m.IsClear w nodeId :=
  ⟨h.jobs, fun r hr hid => absurd hid (h.waiting r hr)⟩

/-- A node stays clear until a request for it is taken. -/
theorem IsClear.step {v : Move} (hstep : Step g w m v m') (htimely : m'.IsTimely w)
    (htake : v = .take → ∀ r ∈ m.slot, r.nodeId ≠ nodeId) (h : m.IsClear w nodeId) : m'.IsClear w nodeId := by
  refine ⟨fun j hj => ?_, fun r hr hid => ?_⟩
  · rcases mem_jobs_of_step hstep hj with ⟨k, hk, hrequest⟩ | ⟨hv, hslot⟩
    · rw [← hrequest]
      exact h.jobs k hk
    · exact htake hv _ hslot
  · have hdue : m.store.isDue (m.now w) r = true := by
      rcases mem_waiting_of_step hstep hr with hold | ⟨-, offset, queued, -, hpage⟩
      · exact h.due r hold hid
      · exact (List.mem_filter.1 hpage).2
    have hstore : m'.store.get? r.nodeId = m.store.get? r.nodeId := get?_store_of_step hstep (hid ▸ h.jobs)
    rw [Records.isDue] at hdue ⊢
    rw [hstore]
    exact Target.isDue_mono (now_mono (clock_le_of_step hstep) htimely) hdue

/-- Whether a worker takes a request for a node in the course of a run. -/
def Starts (w : Workshop Records β) (nodeId : UInt32) : Manager Records β → List Move → Prop
  | _, [] => False
  | m, v :: moves =>
    (v = .take ∧ ∃ r ∈ m.slot, r.nodeId = nodeId) ∨ ∃ next ∈ m.step w v, Starts w nodeId next moves

/-- A node that was free is clear until a request for it is taken. -/
theorem IsClear.run (hw : w.inventory = g.inventory) {moves : List Move} (hrun : m.run w moves = some m')
    (htimely : m'.IsTimely w) (hstarts : ¬ m.Starts w nodeId moves) (h : m.IsClear w nodeId) :
    m'.IsClear w nodeId := by
  induction moves generalizing m with
  | nil => cases hrun; exact h
  | cons v moves ih =>
    obtain ⟨next, hnext, hrest⟩ := run_cons_eq_some.1 hrun
    rw [Starts, not_or, not_exists] at hstarts
    refine ih hrest (fun hlater => hstarts.2 next ⟨hnext, hlater⟩) ?_
    refine h.step (step_of_eq hw hnext) (htimely.of_le (clock_le_of_run hw hrest)) fun htake r hr hid => ?_
    exact hstarts.1 ⟨htake, r, hr, hid⟩

/-! ### Rounds -/

/-- The numbers of the nodes that are still to come in a round: those for which a request waits, and those that have
not been read yet. -/
def ahead (g : Grid) (m : Manager Records β) : List UInt32 :=
  m.slot.toList.map (·.nodeId) ++ (m.supervisor.queue.map (·.nodeId) ++ (m.supervisor.unread g).map (·.nodeId))

/-- Nothing is added to what is to come in a round. -/
private theorem ahead_sublist (hsize : g.nodes.length < UInt64.size) {v : Move} (hstep : Step g w m v m')
    (hv : v ≠ .wake) :
    (m'.ahead g).Sublist (m.ahead g) := by
  cases hstep with
  | wake => exact absurd rfl hv
  | finish => exact (List.Sublist.refl _).append (List.nil_sublist _)
  | @page offset queued hreading hpage =>
    refine (List.Sublist.refl _).append ?_
    rw [queue_handOut, unread_handOut, hreading]
    change ((m.store.dueOn (m.now w) (pageAt g w offset)).map _ ++ _).Sublist ((g.nodes.drop offset.toNat).map _)
    rw [drop_eq_pageAt_append hsize hpage, List.map_append]
    exact (Records.dueOn_sublist _ _ _).append (.refl _)
  | @offer r rest offset queued hoffering hslot =>
    rw [ahead, ahead, queue_handOut, unread_handOut, hoffering, hslot]
    exact .refl _
  | @take r hslot =>
    rw [ahead, ahead, hslot]
    exact List.sublist_append_right _ _
  | breakOff => exact (List.Sublist.refl _).append (List.nil_sublist _)
  | leave => exact (List.Sublist.refl _).append (List.nil_sublist _)
  | ask => exact .refl _
  | enter => exact .refl _
  | wait => exact .refl _
  | stop => exact .refl _
  | dismiss => exact .refl _

/-- A request that is taken is what was to come first. -/
private theorem ahead_of_take (hstep : Step g w m .take m') {r : Request} (hr : m.slot = some r) :
    m.ahead g = r.nodeId :: m'.ahead g := by
  cases hstep with
  | take hslot =>
    rw [ahead, hr]
    rfl

/-- Within a round, a node for which a request is taken is to come once less. -/
theorem count_ahead_of_starts (hw : w.inventory = g.inventory) (hsize : g.nodes.length < UInt64.size)
    {moves : List Move} (hrun : m.run w moves = some m') (hwake : .wake ∉ moves) :
    (m'.ahead g).count nodeId ≤ (m.ahead g).count nodeId ∧
      (m.Starts w nodeId moves → (m'.ahead g).count nodeId < (m.ahead g).count nodeId) := by
  induction moves generalizing m with
  | nil => cases hrun; exact ⟨Nat.le_refl _, False.elim⟩
  | cons v moves ih =>
    obtain ⟨next, hnext, hrest⟩ := run_cons_eq_some.1 hrun
    have hv : v ≠ .wake := fun hv => hwake (hv ▸ List.mem_cons_self)
    have hle : (next.ahead g).count nodeId ≤ (m.ahead g).count nodeId :=
      (ahead_sublist hsize (step_of_eq hw hnext) hv).count_le _
    obtain ⟨hmono, hstarts⟩ := ih hrest fun hmem => hwake (List.mem_cons_of_mem _ hmem)
    refine ⟨Nat.le_trans hmono hle, fun h => ?_⟩
    rcases h with ⟨rfl, r, hr, rfl⟩ | ⟨later, hlater, h⟩
    · rw [ahead_of_take (step_of_eq hw hnext) hr, List.count_cons_self]
      exact Nat.lt_succ_of_le hmono
    · obtain rfl : next = later := Option.some.inj (hnext.symm.trans hlater)
      exact Nat.lt_of_lt_of_le (hstarts h) hle

/-! ### Starts -/

/-- A run comes through a state, after which it goes on with some moves. -/
def Passes {σ : Type} (w : Workshop σ β) (m : Manager σ β) (moves : List Move) (through : Manager σ β)
    (after : List Move) : Prop :=
  ∃ before, moves = before ++ after ∧ m.run w before = some through

/-- In a run the supervisor has read a page with the node of a request and has found the node due on its record. -/
def FoundDue (g : Grid) (w : Workshop Records β) (m : Manager Records β) (moves : List Move) (r : Request) : Prop :=
  ∃ reader after offset queued, Passes w m moves reader (.read :: after) ∧
    reader.supervisor = .reading offset queued ∧ r ∈ reader.store.dueOn (reader.now w) (pageAt g w offset)

/-- A fetch that is begun for a request now is the only one from its node, and the node is due on its record. -/
structure IsDueAlone (w : Workshop Records β) (m : Manager Records β) (r : Request) : Prop where
  alone : ∀ j ∈ m.jobs, j.request.nodeId ≠ r.nodeId
  due : m.store.isDue (m.now w) r = true

/-- Every request that waits has been found due. -/
private theorem foundDue_of_run (hw : w.inventory = g.inventory) (hm : m.waiting = []) {moves : List Move}
    (hrun : m.run w moves = some m') : ∀ r ∈ m'.waiting, FoundDue g w m moves r := by
  induction moves using List.reverseRecOn generalizing m' with
  | nil =>
    cases hrun
    rw [hm]
    exact fun r hr => absurd hr List.not_mem_nil
  | append_singleton moves v ih =>
    obtain ⟨previous, hprevious, hlast⟩ := run_append_eq_some.1 hrun
    obtain ⟨next, hstep, hnil⟩ := run_cons_eq_some.1 hlast
    cases hnil
    intro r hr
    rcases mem_waiting_of_step (step_of_eq hw hstep) hr with hold | ⟨rfl, offset, queued, hreading, hpage⟩
    · obtain ⟨reader, after, offset, queued, ⟨before, rfl, hbefore⟩, hfound⟩ := ih hprevious r hold
      exact ⟨reader, after ++ [v], offset, queued, ⟨before, by simp, hbefore⟩, hfound⟩
    · exact ⟨previous, [], offset, queued, ⟨moves, rfl, hprevious⟩, hreading, hpage⟩

/-- If a node is clear, the request for it in the slot is for a node that is due and that nobody works on. -/
private theorem IsClear.isDueAlone {r : Request} (h : m.IsClear w r.nodeId) (hr : m.slot = some r) :
    m.IsDueAlone w r := by
  refine ⟨h.jobs, h.due r ?_ rfl⟩
  rw [waiting, hr]
  exact List.mem_cons_self

/-- A node that is free stays free when a round begins. -/
theorem IsFree.wake (hw : w.inventory = g.inventory) (h : m.IsFree nodeId) (hwake : m.step w .wake = some m') :
    m'.IsFree nodeId := by
  have hstep := step_of_eq hw hwake
  refine ⟨fun r hr => ?_, fun j hj => ?_⟩
  · rcases mem_waiting_of_step hstep hr with hold | ⟨hread, -⟩
    · exact h.waiting r hold
    · cases hread
  · rcases mem_jobs_of_step hstep hj with ⟨k, hk, hrequest⟩ | ⟨htake, -⟩
    · rw [← hrequest]
      exact h.jobs k hk
    · cases htake

/-- At the beginning of a round a node that is free is still to come at most once. -/
private theorem count_ahead_le_one (hw : w.inventory = g.inventory) (hids : (g.nodes.map (·.nodeId)).Nodup)
    (hfree : m.IsFree nodeId) (hwake : m.step w .wake = some m') : (m'.ahead g).count nodeId ≤ 1 := by
  have hslot : nodeId ∉ m.slot.toList.map (·.nodeId) := by
    intro hmem
    obtain ⟨r, hr, hid⟩ := List.mem_map.1 hmem
    exact hfree.waiting r (List.mem_append_left _ hr) hid
  cases step_of_eq hw hwake with
  | wake =>
    change ((m.slot.toList.map (·.nodeId)) ++ g.nodes.map (·.nodeId)).count nodeId ≤ 1
    rw [List.count_append, List.count_eq_zero_of_not_mem hslot, Nat.zero_add]
    exact List.nodup_iff_count_le_one.1 hids nodeId

/-- A round that begins when a node is free takes at most one request for it: while one waits, none has been taken. -/
private theorem not_starts_of_slot (hw : w.inventory = g.inventory) (hids : (g.nodes.map (·.nodeId)).Nodup)
    (hround : (m.ahead g).count nodeId ≤ 1) {moves : List Move} (hrun : m.run w moves = some m')
    (hmoves : .wake ∉ moves) {r : Request} (hr : m'.slot = some r) (hid : r.nodeId = nodeId) :
    ¬ m.Starts w nodeId moves := by
  have hsize := Grid.length_nodes_lt hids
  have hlast : 0 < (m'.ahead g).count nodeId := by
    rw [List.count_pos_iff, ahead, hr, ← hid]
    exact List.mem_cons_self
  intro hstarts
  have hless := (count_ahead_of_starts hw hsize hrun hmoves).2 hstarts
  omega

/-- Whenever a worker takes a request, its node has been found due in the course of the run.  The fetch that it begins
is the only one from the node, and the node is due at that moment, if it is the first one since the node was free, and
in particular if the node was free when the round began. -/
theorem starts_are_due {g : Grid} {w : Workshop Records β} (hw : w.inventory = g.inventory)
    (hids : (g.nodes.map (·.nodeId)).Nodup) (store : Records) (script : β) {moves : List Move}
    {m m' : Manager Records β} (hrun : (start w store script).run w moves = some m) (htake : m.step w .take = some m')
    (htimely : m.IsTimely w) :
    ∃ r, m.slot = some r ∧ (∃ j, m'.jobs = m.jobs ++ [j] ∧ j.request = r) ∧
      FoundDue g w (start w store script) moves r ∧
      (∀ free after, Passes w (start w store script) moves free after → free.IsFree r.nodeId →
        ¬ free.Starts w r.nodeId after → m.IsDueAlone w r) ∧
      (∀ free after, Passes w (start w store script) moves free (.wake :: after) → free.IsFree r.nodeId →
        .wake ∉ after → m.IsDueAlone w r) := by
  have hslot : ∃ r, m.slot = some r ∧ m' = m.begin w r := by
    cases step_of_eq hw htake with
    | take hslot => exact ⟨_, hslot, rfl⟩
  obtain ⟨r, hr, rfl⟩ := hslot
  refine ⟨r, hr, ⟨_, rfl, rfl⟩, ?_, ?_, ?_⟩
  · refine foundDue_of_run hw rfl hrun r ?_
    rw [waiting, hr]
    exact List.mem_cons_self
  · rintro free after ⟨before, rfl, hbefore⟩ hfree hstarts
    obtain ⟨through, hthrough, hafter⟩ := run_append_eq_some.1 hrun
    obtain rfl : free = through := Option.some.inj (hbefore.symm.trans hthrough)
    exact (hfree.isClear.run hw hafter htimely hstarts).isDueAlone hr
  · rintro free after ⟨before, rfl, hbefore⟩ hfree hwake
    obtain ⟨through, hthrough, hafter⟩ := run_append_eq_some.1 hrun
    obtain rfl : free = through := Option.some.inj (hbefore.symm.trans hthrough)
    obtain ⟨next, hnext, hround⟩ := run_cons_eq_some.1 hafter
    have hstarts := not_starts_of_slot hw hids (count_ahead_le_one hw hids hfree hnext) hround hwake hr rfl
    exact ((hfree.wake hw hnext).isClear.run hw hround htimely hstarts).isDueAlone hr

/-- A grid of one node. -/
def oneNode : Grid where
  nodes := [{ nodeId := 1, twinId := 1 }]

/-- A refresher of a node that cannot be reached. -/
def lostNodeShop : Workshop Records Unit :=
  oneNode.workshop ⟨fun twinId _ => pure ⟨0, .error (.remote twinId "unreachable")⟩⟩ {} 1700000000

/-- The node is asked in vain, and a minute passes. -/
def failedRound : List Move := [.wake, .read, .offer, .take, .answer 0, .answer 0, .read, .wait 60000]

/-- The next round finds the node that failed free, and takes it again. -/
theorem failed_node_taken_again :
    (oneNode.nodes.map (·.nodeId)).Nodup ∧
    ∃ free m m', (start lostNodeShop [] ()).run lostNodeShop failedRound = some free ∧ free.IsFree 1 ∧
      (free.store.get? 1).isSome ∧
      (start lostNodeShop [] ()).run lostNodeShop (failedRound ++ [.wake, .read, .offer]) = some m ∧
      m.step lostNodeShop .take = some m' ∧ m.IsTimely lostNodeShop ∧
      m.slot = some ⟨1, 1⟩ ∧ m.IsDueAlone lostNodeShop ⟨1, 1⟩ := by
  have hids : (oneNode.nodes.map (·.nodeId)).Nodup := by decide
  have hfailed : ((start lostNodeShop [] ()).run lostNodeShop failedRound).any (fun free =>
      decide (free.waiting = []) && free.jobs.isEmpty && (free.store.get? 1).isSome) = true := by decide +kernel
  have hnext : ((start lostNodeShop [] ()).run lostNodeShop (failedRound ++ [.wake, .read, .offer])).any (fun m =>
      (m.step lostNodeShop .take).isSome && decide (m.IsTimely lostNodeShop) &&
        decide (m.slot = some ⟨1, 1⟩)) = true := by
    decide +kernel
  obtain ⟨free, hfree, hstate⟩ := (Option.any_eq_true _ _).1 hfailed
  obtain ⟨m, hrun, hm⟩ := (Option.any_eq_true _ _).1 hnext
  simp only [Bool.and_eq_true, decide_eq_true_eq, List.isEmpty_iff] at hstate hm
  obtain ⟨⟨hwaiting, hjobs⟩, hrecord⟩ := hstate
  obtain ⟨⟨htake, htimely⟩, hslot⟩ := hm
  obtain ⟨m', htake⟩ := Option.isSome_iff_exists.1 htake
  have hfree' : free.IsFree 1 := ⟨by rw [hwaiting]; nofun, by rw [hjobs]; nofun⟩
  obtain ⟨r, hr, -, -, -, hround⟩ :=
    starts_are_due (g := oneNode) (w := lostNodeShop) rfl hids [] () hrun htake htimely
  obtain rfl : r = ⟨1, 1⟩ := Option.some.inj (hr.symm.trans hslot)
  exact ⟨hids, free, m, m', hfree, hfree', hrecord, hrun, htake, htimely, hslot,
    hround free _ ⟨failedRound, rfl, hfree⟩ hfree' (by decide)⟩

/-- A refresher of a node whose replies take ten seconds, in rounds that are a second apart. -/
def slowNodeShop : Workshop Records Unit :=
  oneNode.workshop ⟨fun _ _ => pure ⟨10000, .ok .null⟩⟩ { workers := 2, period := 1 } 1700000000

/-- The first round hands the node to a worker, and the second one begins while the fetch goes on. -/
def overlappingRounds : List Move :=
  [.wake, .read, .offer, .take, .answer 0, .read, .wait 1000, .wake, .read, .offer]

/-- Rounds that overlap start a second fetch from a node while the first one goes on. -/
theorem not_every_start_is_alone :
    ¬ ∀ (g : Grid) (w : Workshop Records Unit), w.inventory = g.inventory → (g.nodes.map (·.nodeId)).Nodup →
      ∀ (store : Records) (moves : List Move) (m m' : Manager Records Unit),
        (start w store ()).run w moves = some m → m.step w .take = some m' → m.IsTimely w →
        ∀ r, m.slot = some r → m.IsDueAlone w r := by
  intro hclaim
  have hoverlap : ((start slowNodeShop [] ()).run slowNodeShop overlappingRounds).any (fun m =>
      (m.step slowNodeShop .take).isSome && decide (m.IsTimely slowNodeShop) && decide (m.slot = some ⟨1, 1⟩) &&
        m.jobs.any (·.request.nodeId = 1)) = true := by
    decide +kernel
  obtain ⟨m, hrun, hm⟩ := (Option.any_eq_true _ _).1 hoverlap
  simp only [Bool.and_eq_true, decide_eq_true_eq, List.any_eq_true] at hm
  obtain ⟨⟨⟨htake, htimely⟩, hslot⟩, j, hj, hbusy⟩ := hm
  obtain ⟨m', htake⟩ := Option.isSome_iff_exists.1 htake
  exact (hclaim oneNode slowNodeShop rfl (by decide) [] _ m m' hrun htake htimely _ hslot).alone j hj hbusy

end Manager

end GridGateway.Telemetry
