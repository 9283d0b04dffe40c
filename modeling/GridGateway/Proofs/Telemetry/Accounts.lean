import GridGateway.Proofs.Telemetry.History
import GridGateway.Proofs.Telemetry.Jobs

/-!
# The accounts of a round

Entries about different nodes lead to the same records in every order (`Records.settle_perm`).  So it is enough to
know of a round which nodes have been read and which requests have been settled: the others are worked on or wait, and
none is lost or done twice (`Manager.Account`).  Whatever the supervisor and the workers do, this stays so
(`Manager.Account.step`).
-/

namespace GridGateway.Telemetry

open Bus

/-! ### Entries about different nodes -/

/-- Entries about different nodes lead to the same records in every order. -/
private theorem Records.foldl_enter_perm {first second : List Entry} (hperm : first.Perm second)
    (hids : (first.map (·.nodeId)).Nodup) (rs : Records) : first.foldl enter rs = second.foldl enter rs := by
  apply hperm.foldl_eq'
  intro d hd e he rs
  by_cases h : d.nodeId = e.nodeId
  · obtain rfl : d = e := List.inj_on_of_nodup_map hids hd he h
    rfl
  · exact enter_comm rs h

/-- The entry that is made for a request by a bus that answers at once. -/
def Request.entry (answers : Answers) (now : UInt64) (r : Request) : Entry :=
  .ofResult r.nodeId now (reportOf answers r.twinId)

/-- The records with the entries made for some requests. -/
def Records.settle (answers : Answers) (now : UInt64) (rs : Records)
    (requests : List Request) : Records :=
  (requests.map (·.entry answers now)).foldl enter rs

section

variable {answers : Answers} {now : UInt64} {rs : Records} {requests : List Request}

private theorem map_nodeId_entry (answers : Answers) (now : UInt64) (requests : List Request) :
    (requests.map (·.entry answers now)).map (·.nodeId) = requests.map (·.nodeId) :=
  List.map_map

theorem Records.get?_settle_of_not_mem {nodeId : UInt32} (h : nodeId ∉ requests.map (·.nodeId)) :
    (rs.settle answers now requests).get? nodeId = rs.get? nodeId := by
  rw [← map_nodeId_entry answers now] at h
  rw [settle, get?_foldl_enter, Entry.about, filter_key_eq_nil h, List.foldl_nil]

theorem Records.get?_settle_of_mem (hids : (requests.map (·.nodeId)).Nodup) {r : Request} (hr : r ∈ requests) :
    (rs.settle answers now requests).get? r.nodeId =
      some ((r.entry answers now).update (rs.get? r.nodeId)) := by
  rw [← map_nodeId_entry answers now] at hids
  have he : r.entry answers now ∈ requests.map (·.entry answers now) := List.mem_map_of_mem hr
  have habout := filter_key_eq_singleton hids he
  change Entry.about r.nodeId _ = _ at habout
  rw [settle, get?_foldl_enter, habout, List.foldl_cons, List.foldl_nil]

theorem Records.settle_perm {first second : List Request} (hperm : first.Perm second)
    (hids : (first.map (·.nodeId)).Nodup) : rs.settle answers now first = rs.settle answers now second := by
  apply foldl_enter_perm (hperm.map _)
  rwa [map_nodeId_entry]

private theorem Records.settle_append_singleton (rs : Records) (requests : List Request) (r : Request) :
    rs.settle answers now (requests ++ [r]) = (rs.settle answers now requests).enter (r.entry answers now) := by
  simp only [settle, List.map_append, List.foldl_append, List.map_cons, List.map_nil, List.foldl_cons, List.foldl_nil]

/-- Settled requests do not matter to nodes that they are not about. -/
private theorem Records.dueOn_settle {page : List Grid.NodeRecord}
    (h : ∀ n ∈ page, n.nodeId ∉ requests.map (·.nodeId)) :
    (rs.settle answers now requests).dueOn now page = rs.dueOn now page := by
  apply List.filter_congr
  intro r hr
  obtain ⟨n, hn, rfl⟩ := List.mem_map.1 hr
  have hsame : (rs.settle answers now requests).get? n.nodeId = rs.get? n.nodeId := get?_settle_of_not_mem (h n hn)
  change Target.isDue (.ofRecord _ _ (Records.get? _ n.nodeId)) _ = Target.isDue (.ofRecord _ _ (rs.get? n.nodeId)) _
  rw [hsame]

end

/-- The moves of the supervisor and the workers within a round, while no time passes and nobody is told to stop. -/
def Move.IsWork : Move → Prop
  | .read | .offer | .take | .answer _ => True
  | _ => False

instance : (v : Move) → Decidable v.IsWork
  | .read | .offer | .take | .answer _ => .isTrue trivial
  | .wake | .wait _ | .stop | .leave | .dismiss _ => .isFalse id

/-! ### Accounts -/

namespace Manager

variable {β : Type} {g : Grid} {answers : Answers} {w : Workshop Records β} {m m' : Manager Records β} {v : Move}

/-- The supervisor has counted the requests handed out so far in the only round: those that have been taken and the one
that waits in the slot. -/
def HasCounted (m : Manager Records β) : Prop :=
  match m.supervisor with
  | .reading _ queued => queued = m.begun + m.slot.toList.length ∧ m.rounds = []
  | .offering _ _ _ queued => queued = m.begun + m.slot.toList.length ∧ m.rounds = []
  | .resting => m.rounds = [m.begun + m.slot.toList.length]
  | .stopped => False

/-- The accounts of the first round over a grid that had some records at the beginning: which nodes have been read and
which requests have been settled so far. -/
structure Account (g : Grid) (answers : Answers) (now : UInt64) (rs : Records)
    (m : Manager Records β) (read : List Grid.NodeRecord) (settled : List Request) : Prop where
  nodes : read ++ m.supervisor.unread g = g.nodes
  requests : (settled ++ (m.jobs.map (·.request) ++ m.waiting)).Perm (rs.dueOn now read)
  store : m.store = rs.settle answers now settled
  begun : m.begun = settled.length + m.jobs.length
  counted : m.HasCounted

variable {now : UInt64} {rs : Records} {read : List Grid.NodeRecord} {settled : List Request}

theorem HasCounted.congr (hsupervisor : m'.supervisor = m.supervisor) (hrounds : m'.rounds = m.rounds)
    (hcount : m'.begun + m'.slot.toList.length = m.begun + m.slot.toList.length) (h : m.HasCounted) :
    m'.HasCounted := by
  unfold HasCounted
  rw [hsupervisor, hrounds, hcount]
  exact h

private theorem hasCounted_handOut {offset : UInt64} {queued : Nat} {requests : List Request}
    (hsupervisor : m.supervisor = Supervisor.handOut offset queued requests)
    (hqueued : queued = m.begun + m.slot.toList.length) (hrounds : m.rounds = []) : m.HasCounted := by
  unfold HasCounted
  rw [hsupervisor]
  cases requests <;> exact ⟨hqueued, hrounds⟩

private theorem dueOn_append (read page : List Grid.NodeRecord) :
    rs.dueOn now (read ++ page) = rs.dueOn now read ++ rs.dueOn now page := by
  rw [Records.dueOn, List.map_append, List.filter_append]
  rfl

theorem pageAt_eq_nil_iff {offset : UInt64} : pageAt g w offset = [] ↔ g.nodes.drop offset.toNat = [] := by
  have hpos := pageSize_pos w
  rw [pageAt, List.take_eq_nil_iff]
  exact or_iff_right (by omega)

/-- What is read next is still as it was at the beginning, since no request for it has been settled. -/
private theorem Account.dueOn_page (hids : (g.nodes.map (·.nodeId)).Nodup) (h : Account g answers now rs m read settled)
    {page rest : List Grid.NodeRecord} (hpage : m.supervisor.unread g = page ++ rest) :
    m.store.dueOn now page = rs.dueOn now page := by
  rw [h.store]
  apply Records.dueOn_settle
  intro n hn hmem
  have hread : n.nodeId ∈ read.map (·.nodeId) := by
    apply (rs.dueOn_sublist now read).subset
    apply (h.requests.map (·.nodeId)).subset
    rw [List.map_append]
    exact List.mem_append_left _ hmem
  have hapart : (read ++ (page ++ rest)).map (·.nodeId) = g.nodes.map (·.nodeId) := by rw [← hpage, h.nodes]
  rw [← hapart, List.map_append, List.nodup_append] at hids
  have hunread : n.nodeId ∈ (page ++ rest).map (·.nodeId) := List.mem_map_of_mem (List.mem_append_left _ hn)
  exact hids.2.2 _ hread _ hunread rfl

/-- The nodes on a page are read, and those that are due wait. -/
theorem Account.page (hids : (g.nodes.map (·.nodeId)).Nodup) (hnow : m.now w = now) {offset : UInt64} {queued : Nat}
    (hreading : m.supervisor = .reading offset queued) (hpage : pageAt g w offset ≠ [])
    (h : Account g answers now rs m read settled) :
    Account g answers now rs
      { m with
        supervisor := Supervisor.handOut (offset + .ofNat (pageAt g w offset).length) queued
          (m.store.dueOn (m.now w) (pageAt g w offset))
        pages := (m.clock, offset) :: m.pages }
      (read ++ pageAt g w offset) settled := by
  have hsize := Grid.length_nodes_lt hids
  have hunread : m.supervisor.unread g = _ :=
    (congrArg (Supervisor.unread g) hreading).trans (drop_eq_pageAt_append hsize hpage)
  -- nothing settled so far is about the page, so that the same nodes are due on it as at the beginning
  have hdue := h.dueOn_page hids hunread
  obtain ⟨hnodes, hrequests, hstore, hbegun, hcounted⟩ := h
  rw [HasCounted, hreading] at hcounted
  rw [hunread] at hnodes
  rw [waiting, hreading] at hrequests
  refine ⟨?_, ?_, hstore, hbegun, ?_⟩
  · rw [unread_handOut, List.append_assoc]
    exact hnodes
  · rw [waiting, queue_handOut, dueOn_append, hnow, hdue]
    have hmore := hrequests.append_right (rs.dueOn now (pageAt g w offset))
    simpa only [Supervisor.queue, List.append_nil, List.append_assoc] using hmore
  · exact hasCounted_handOut rfl hcounted.1 hcounted.2

/-- A job that is over is settled with what its twin answers. -/
theorem Account.enter (hnow : m.now w = now) (hsound : m.IsSound answers) {j : Job} (hj : j ∈ m.jobs) {time : Nat}
    {result : Except BusError Report} (hturn : j.turn = .over time result)
    (h : Account g answers now rs m read settled) :
    Account g answers now rs
      { m with
        store := m.store.enter (.ofResult j.request.nodeId (m.now w) result)
        jobs := m.jobs.filter (·.number ≠ j.number)
        idle := m.idle + 1 }
      read (settled ++ [j.request]) := by
  have hresult : result = reportOf answers j.request.twinId := by
    rw [← (hsound.jobs j hj).outcome, hturn]
    rfl
  have hjobs := hsound.perm_jobs hj
  refine ⟨h.nodes, ?_, ?_, ?_, h.counted⟩
  · have hmoved := ((hjobs.map Job.request).symm.append_right m.waiting).append_left settled
    rw [List.append_assoc]
    exact hmoved.trans h.requests
  · rw [Records.settle_append_singleton, ← h.store, Request.entry, ← hresult, hnow]
  · have hlength := hjobs.length_eq
    change m.begun = (settled ++ [j.request]).length + (m.jobs.filter fun k => k.number ≠ j.number).length
    rw [List.length_append, List.length_singleton, h.begun, hlength, List.length_cons]
    omega

/-- What the supervisor and the workers do keeps the accounts. -/
theorem Account.step (hids : (g.nodes.map (·.nodeId)).Nodup) (hnow : m.now w = now) (hsound : m.IsSound answers)
    (hstep : Step g w m v m') (hv : v.IsWork) (h : Account g answers now rs m read settled) :
    ∃ read settled, Account g answers now rs m' read settled := by
  cases hstep with
  | wake | wait | stop | breakOff | leave | dismiss => cases hv
  | @finish offset queued hreading hpage =>
    obtain ⟨hnodes, hrequests, hstore, hbegun, hcounted⟩ := h
    rw [hreading, Supervisor.unread, pageAt_eq_nil_iff.1 hpage] at hnodes
    rw [waiting, hreading] at hrequests
    rw [HasCounted, hreading] at hcounted
    refine ⟨read, settled, hnodes, hrequests, hstore, hbegun, ?_⟩
    change queued :: m.rounds = _
    rw [hcounted.1, hcounted.2]
  | page hreading hpage => exact ⟨_, settled, h.page hids hnow hreading hpage⟩
  | @offer r rest offset queued hoffering hslot =>
    obtain ⟨hnodes, hrequests, hstore, hbegun, hcounted⟩ := h
    rw [hoffering] at hnodes
    rw [waiting, hoffering, hslot] at hrequests
    rw [HasCounted, hoffering, hslot] at hcounted
    refine ⟨read, settled, ?_, ?_, hstore, hbegun, ?_⟩
    · rw [unread_handOut]
      exact hnodes
    · rw [waiting, queue_handOut]
      exact hrequests
    · exact hasCounted_handOut rfl (congrArg (· + 1) hcounted.1) hcounted.2
  | @take r hslot =>
    have hrequests := h.requests
    rw [waiting, hslot] at hrequests
    refine ⟨read, settled, h.nodes, ?_, h.store, ?_, ?_⟩
    · change (settled ++ ((m.jobs ++ [_]).map Job.request ++ ([] ++ m.supervisor.queue))).Perm _
      rw [List.map_append, List.append_assoc]
      exact hrequests
    · change m.begun + 1 = settled.length + (m.jobs ++ [_]).length
      rw [h.begun, List.length_append]
      rfl
    · refine h.counted.congr (m := m) rfl rfl ?_
      rw [hslot]
      rfl
  | @ask j time stage hj hturn hdue =>
    refine ⟨read, settled, h.nodes, ?_, h.store, ?_, h.counted⟩
    · change (settled ++ ((m.jobs.map (Job.turned j.number _)).map Job.request ++ m.waiting)).Perm _
      rw [List.map_map]
      simpa only [Function.comp_def, Job.request_turned] using h.requests
    · rw [List.length_map]
      exact h.begun
  | enter hj hturn => exact ⟨read, _, h.enter hnow hsound hj hturn⟩

end Manager

end GridGateway.Telemetry
