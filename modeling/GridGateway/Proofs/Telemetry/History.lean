import GridGateway.Proofs.Runs
import GridGateway.Proofs.Telemetry.Records
import Mathlib.Data.List.Induction
import Mathlib.Data.List.TakeWhile

/-!
# Records as histories

Whatever outcomes are recorded, in whatever order, the record of a node is told by the entries about this node alone
(`Records.get?_foldl_enter`).  They are run through from the first one to the last (`Record.ofEntries`), and what the
fields of the record say about them is `Record.Tells`: one entry more keeps it true (`Entry.tells_update`), so that it
holds for every history (`Record.tells_ofEntries`).
-/

namespace GridGateway

open Telemetry

/-- Asks an inventory to keep an entry. -/
def Inventory.enter {σ : Type} (inv : Inventory σ) (e : Entry) : Ask σ Unit :=
  match e.outcome with
  | .ok report => inv.recordSuccess e.nodeId report e.time
  | .error reason => inv.recordFailure e.nodeId reason e.time

namespace Telemetry

open Bus

namespace Entry

/-- Whether a fetch brought a report. -/
def isSuccess (e : Entry) : Bool :=
  match e.outcome with
  | .ok _ => true
  | .error _ => false

/-- The report that a fetch brought. -/
def report? (e : Entry) : Option Report :=
  match e.outcome with
  | .ok report => some report
  | .error _ => none

/-- Why a fetch brought no report. -/
def reason? (e : Entry) : Option String :=
  match e.outcome with
  | .ok _ => none
  | .error reason => some reason

/-- The entries about a node, in the order in which they were made. -/
def about (nodeId : UInt32) (history : List Entry) : List Entry := history.filter (·.nodeId = nodeId)

/-- The number of failures in a history. -/
def failures (history : List Entry) : Nat := history.countP fun e => !e.isSuccess

/-- The number of failures since the last success of a history, or since its beginning. -/
def failuresInARow (history : List Entry) : Nat := (history.reverse.takeWhile fun e => !e.isSuccess).length

/-- The last success of a history. -/
def lastSuccess? (history : List Entry) : Option Entry := history.reverse.find? (·.isSuccess)

@[simp]
theorem failuresInARow_append_singleton (history : List Entry) (e : Entry) :
    failuresInARow (history ++ [e]) = if e.isSuccess then 0 else failuresInARow history + 1 := by
  rw [failuresInARow, List.reverse_append, List.reverse_singleton, List.singleton_append, List.takeWhile_cons]
  cases e.isSuccess <;> rfl

@[simp]
theorem lastSuccess?_append_singleton (history : List Entry) (e : Entry) :
    lastSuccess? (history ++ [e]) = if e.isSuccess then some e else lastSuccess? history := by
  rw [lastSuccess?, List.reverse_append, List.reverse_singleton, List.singleton_append, List.find?_cons]
  cases e.isSuccess <;> rfl

private theorem failuresInARow_le (history : List Entry) : failuresInARow history ≤ failures history := by
  have hall : ∀ e ∈ history.reverse.takeWhile fun e => !e.isSuccess, (!e.isSuccess) = true :=
    fun e he => List.mem_takeWhile_imp (p := fun e : Entry => !e.isSuccess) he
  calc failuresInARow history
      = (history.reverse.takeWhile fun e => !e.isSuccess).countP fun e => !e.isSuccess :=
        (List.countP_eq_length.2 hall).symm
    _ ≤ history.reverse.countP fun e => !e.isSuccess := (List.takeWhile_sublist _).countP_le
    _ = failures history := List.countP_reverse

end Entry

open Entry

/-- What a record keeps of the history of a node, which may be empty. -/
structure Record.Keeps (r : Record) (history : List Entry) : Prop where
  retries : r.retries.toNat = failuresInARow history
  lastFetchSuccess : r.lastFetchSuccess = (lastSuccess? history).map (·.time)
  report : r.report = ((lastSuccess? history).bind (·.report?)).getD {}

/-- What a record tells of the history of a node, whose last entry is given. -/
structure Record.Tells (r : Record) (history : List Entry) (last : Entry) : Prop extends r.Keeps history where
  status : r.status = .up ↔ last.isSuccess = true
  lastError : r.lastError = last.reason?
  lastFetchAttempt : r.lastFetchAttempt = some last.time

/-- The record that a history of one node leaves, if there was none before. -/
def Record.ofEntries (history : List Entry) : Option Record :=
  history.foldl (fun before e => some (e.update before)) none

private theorem Record.ofEntries_append_singleton (history : List Entry) (e : Entry) :
    ofEntries (history ++ [e]) = some (e.update (ofEntries history)) := by
  simp only [ofEntries, List.foldl_append, List.foldl_cons, List.foldl_nil]

/-- Only the entries about a node have a say in its record. -/
theorem Records.get?_foldl_enter (history : List Entry) (rs : Records) (nodeId : UInt32) :
    (history.foldl Records.enter rs).get? nodeId =
      (about nodeId history).foldl (fun before e => some (e.update before)) (rs.get? nodeId) := by
  induction history generalizing rs with
  | nil => rfl
  | cons e history ih =>
    rw [List.foldl_cons, ih, get?_enter, about, about, List.filter_cons]
    by_cases h : e.nodeId = nodeId
    · rw [if_pos h.symm, if_pos (decide_eq_true h), List.foldl_cons]
    · rw [if_neg (Ne.symm h), if_neg (by simpa using h)]

/-- One entry more: a success overwrites everything, a failure counts and keeps what the last success left. -/
theorem Entry.tells_update {before : Option Record} {history : List Entry} {e : Entry}
    (h : (before.getD {}).Keeps history) (hfew : failuresInARow (history ++ [e]) < UInt32.size) :
    (e.update before).Tells (history ++ [e]) e := by
  have hrow := failuresInARow_append_singleton history e
  have hlast := lastSuccess?_append_singleton history e
  obtain ⟨nodeId, outcome, time⟩ := e
  cases outcome with
  | ok report =>
    change failuresInARow _ = 0 at hrow
    change lastSuccess? _ = some _ at hlast
    refine ⟨⟨hrow.symm, ?_, ?_⟩, iff_of_true rfl rfl, rfl, rfl⟩
    · rw [hlast]; rfl
    · rw [hlast]; rfl
  | error reason =>
    change failuresInARow _ = failuresInARow history + 1 at hrow
    change lastSuccess? _ = lastSuccess? history at hlast
    refine ⟨⟨?_, ?_, ?_⟩, iff_of_false (fun h => nomatch h) (fun h => nomatch h), rfl, rfl⟩
    · rw [hrow, ← h.retries] at hfew ⊢
      change ((before.getD {}).retries + 1).toNat = _
      rw [UInt32.toNat_add, UInt32.toNat_one, Nat.mod_eq_of_lt hfew]
    · rw [hlast]; exact h.lastFetchSuccess
    · rw [hlast]; exact h.report

private theorem Record.keeps_ofEntries {history : List Entry} (hfew : failures history < UInt32.size) :
    ((ofEntries history).getD {}).Keeps history := by
  induction history using List.reverseRecOn with
  | nil => exact ⟨rfl, rfl, rfl⟩
  | append_singleton history e ih =>
    have hbefore : failures history ≤ failures (history ++ [e]) := (List.sublist_append_left _ _).countP_le
    rw [ofEntries_append_singleton]
    exact (tells_update (ih (Nat.lt_of_le_of_lt hbefore hfew)) (Nat.lt_of_le_of_lt (failuresInARow_le _) hfew)).toKeeps

/-- The record of a node tells its history, as long as its failures can be counted. -/
theorem Record.tells_ofEntries {history : List Entry} {last : Entry}
    (hfew : failures (history ++ [last]) < UInt32.size) :
    ∃ r, ofEntries (history ++ [last]) = some r ∧ r.Tells (history ++ [last]) last := by
  have hbefore : failures history ≤ failures (history ++ [last]) := (List.sublist_append_left _ _).countP_le
  refine ⟨_, ofEntries_append_singleton history last, ?_⟩
  exact tells_update (keeps_ofEntries (Nat.lt_of_le_of_lt hbefore hfew)) (Nat.lt_of_le_of_lt (failuresInARow_le _) hfew)

/-- A grid that is asked to keep a history makes its entries one after the other. -/
private theorem run_enter_grid (g : Grid) (history : List Entry) (rs : Records) :
    (history.forM g.inventory.enter).run rs = (.ok (), history.foldl Records.enter rs) := by
  induction history generalizing rs with
  | nil => rfl
  | cons e history ih =>
    have hstep : (g.inventory.enter e).run rs = (.ok (), rs.enter e) := by
      obtain ⟨nodeId, outcome, time⟩ := e
      cases outcome <;> rfl
    exact (run_bind_of_ok hstep).trans (ih (rs.enter e))

/-- What the history of a node says about its record: there is none as long as the history is empty. -/
def TellsHistory (record : Option Record) (history : List Entry) : Prop :=
  match history.getLast? with
  | none => record = none
  | some last => ∃ r, record = some r ∧ r.Tells history last

private theorem tellsHistory_ofEntries {history : List Entry} (hfew : failures history < UInt32.size) :
    TellsHistory (Record.ofEntries history) history := by
  cases history using List.reverseRecOn with
  | nil => rfl
  | append_singleton before last =>
    rw [TellsHistory, List.getLast?_concat]
    exact Record.tells_ofEntries hfew

/-- The bookkeeping of a node, as far as its history tells it. -/
def Target.ofHistory (nodeId twinId : UInt32) (history : List Entry) : Target where
  nodeId := nodeId
  twinId := twinId
  retries := .ofNat (failuresInARow history)
  lastFetchAttempt := history.getLast?.map (·.time)

private theorem Target.ofRecord_ofEntries (nodeId twinId : UInt32) {history : List Entry}
    (hfew : failures history < UInt32.size) :
    Target.ofRecord nodeId twinId (Record.ofEntries history) = Target.ofHistory nodeId twinId history := by
  cases history using List.reverseRecOn with
  | nil => rfl
  | append_singleton before last =>
    obtain ⟨r, hr, htells⟩ := Record.tells_ofEntries hfew
    have hretries : r.retries = .ofNat (failuresInARow (before ++ [last])) := by
      rw [← htells.retries, UInt32.ofNat_toNat]
    have hattempt : r.lastFetchAttempt = (before ++ [last]).getLast?.map (·.time) := by
      rw [List.getLast?_concat]; exact htells.lastFetchAttempt
    rw [hr, Target.ofHistory, ← hretries, ← hattempt]
    rfl

/-- Whatever is recorded, starting without any records: the record of a node tells the history of this node and
depends on nothing else, and so does the bookkeeping that the refresher reads. -/
theorem records_tell_history (g : Grid) (history : List Entry) (hfew : failures history < UInt32.size) :
    ∃ records, (history.forM g.inventory.enter).run [] = (.ok (), records) ∧
      (∀ nodeId, ∃ record, (g.inventory.telemetry nodeId).run records = (.ok record, records) ∧
        record = Record.ofEntries (about nodeId history) ∧ TellsHistory record (about nodeId history)) ∧
      ∀ offset count, (g.inventory.fetchTargets offset count).run records =
        (.ok (((g.nodes.drop offset.toNat).take count.toNat).map fun n =>
          .ofHistory n.nodeId n.twinId (about n.nodeId history)), records) := by
  have hget (nodeId) : (history.foldl Records.enter []).get? nodeId = Record.ofEntries (about nodeId history) :=
    Records.get?_foldl_enter history [] nodeId
  have habout (nodeId) : failures (about nodeId history) < UInt32.size :=
    Nat.lt_of_le_of_lt List.filter_sublist.countP_le hfew
  refine ⟨_, run_enter_grid g history [], fun nodeId => ?_, fun offset count => ?_⟩
  · exact ⟨_, rfl, hget nodeId, by rw [hget]; exact tellsHistory_ofEntries (habout nodeId)⟩
  · refine Prod.ext (congrArg Except.ok ?_) rfl
    refine List.map_congr_left fun n _ => ?_
    rw [hget, Target.ofRecord_ofEntries _ _ (habout n.nodeId)]

/-- A grid in which one node has a history and another one has none. -/
def twoNodes : Grid where
  nodes := [{ nodeId := 7, twinId := 107 }, { nodeId := 9, twinId := 109 }]

/-- Fetches with mixed outcomes, among them one from a node that is not in the grid any more. -/
def mixedHistory : List Entry :=
  [⟨7, .error "unreachable", 10⟩, ⟨7, .ok { hypervisor := "kvm" }, 20⟩, ⟨8, .error "no reply", 25⟩,
    ⟨7, .error "no reply", 30⟩]

/-- The failure at the end keeps the report and the time of the success before. -/
theorem failure_keeps_last_report :
    failures mixedHistory < UInt32.size ∧
    ∃ records, (mixedHistory.forM twoNodes.inventory.enter).run [] = (.ok (), records) ∧
      (twoNodes.inventory.telemetry 7).run records = (.ok (some {
        report := { hypervisor := "kvm" }, status := .down, retries := 1, lastError := some "no reply",
        lastFetchAttempt := some 30, lastFetchSuccess := some 20 }), records) ∧
      (twoNodes.inventory.fetchTargets 0 20).run records =
        (.ok [⟨7, 107, 1, some 30⟩, ⟨9, 109, 0, none⟩], records) := by
  have hfew : failures mixedHistory < UInt32.size := by decide
  obtain ⟨records, hrun, htelemetry, htargets⟩ := records_tell_history twoNodes mixedHistory hfew
  obtain ⟨record, hrecord, rfl, -⟩ := htelemetry 7
  exact ⟨hfew, records, hrun, hrecord, htargets 0 20⟩

end Telemetry

end GridGateway
