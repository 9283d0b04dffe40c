import GridGateway.Grid.Inventory
import GridGateway.Telemetry.Refresh

/-!
# Entries in the records

The records of the nodes are a table: what is put under one number is found there (`Records.get?_put_self`), leaves
the other numbers alone (`Records.get?_put_of_ne`), and commutes with what is put under another one
(`Records.put_comm`).  An entry is the outcome of one fetch from one node; entries about different nodes commute
(`Records.enter_comm`), and a grid keeps exactly the entries that it is asked to keep (`record_grid`).
-/

namespace GridGateway.Telemetry

open Bus

namespace Records

variable {rs : Records} {m n : UInt32} {a b : Record}

private theorem get?_cons (m : UInt32) (a : Record) (rs : Records) (n : UInt32) :
    get? ((m, a) :: rs) n = if m = n then some a else rs.get? n := by
  unfold get?
  rw [List.find?_cons]
  by_cases h : m = n <;> simp [h]

@[simp]
theorem get?_put_self (rs : Records) (n : UInt32) (a : Record) : (rs.put n a).get? n = some a := by
  induction rs with
  | nil => rw [put, get?_cons, if_pos rfl]
  | cons r rs ih =>
    unfold put
    split
    · rw [get?_cons, if_pos rfl]
    · split
      · rw [get?_cons, if_pos rfl]
      · next hne => rw [get?_cons, if_neg (Ne.symm hne), ih]

theorem get?_put_of_ne (h : m ≠ n) : (rs.put n a).get? m = rs.get? m := by
  induction rs with
  | nil => rw [put, get?_cons, if_neg h.symm]
  | cons r rs ih =>
    obtain ⟨k, old⟩ := r
    unfold put
    split
    · rw [get?_cons, if_neg h.symm]
    · split
      · next heq =>
        -- the record put there replaces one that was not asked for either
        have hk : k ≠ m := fun hk => h (heq.trans hk).symm
        rw [get?_cons, get?_cons, if_neg h.symm, if_neg hk]
      · rw [get?_cons, get?_cons, ih]

theorem put_comm (rs : Records) (h : m ≠ n) : (rs.put m a).put n b = (rs.put n b).put m a := by
  induction rs with
  | nil => grind [put]
  | cons r rs ih =>
    -- the head stands before, at or behind the place of either number
    grind [put]

end Records

/-- The outcome of a fetch from a node at a time: the report, or the reason why there is none. -/
structure Entry where
  nodeId : UInt32
  outcome : Except String Report
  time : UInt64

/-- The record of a node after an entry about it, given the record before. -/
def Entry.update (e : Entry) (before : Option Record) : Record :=
  match e.outcome with
  | .ok report => .succeed report e.time
  | .error reason => (before.getD {}).fail reason e.time

namespace Records

variable {rs : Records}

/-- The records with an entry made. -/
def enter (rs : Records) (e : Entry) : Records := rs.put e.nodeId (e.update (rs.get? e.nodeId))

theorem get?_enter (rs : Records) (e : Entry) (n : UInt32) :
    (rs.enter e).get? n = if n = e.nodeId then some (e.update (rs.get? n)) else rs.get? n := by
  unfold enter
  split
  · next h => rw [h, get?_put_self]
  · next h => rw [get?_put_of_ne h]

/-- Entries about different nodes may be made in any order. -/
theorem enter_comm (rs : Records) {d e : Entry} (h : d.nodeId ≠ e.nodeId) :
    (rs.enter d).enter e = (rs.enter e).enter d := by
  have hd : (rs.enter e).get? d.nodeId = rs.get? d.nodeId := by rw [get?_enter, if_neg h]
  have he : (rs.enter d).get? e.nodeId = rs.get? e.nodeId := by rw [get?_enter, if_neg h.symm]
  rw [enter, he, enter.eq_def (rs.enter e), hd]
  exact put_comm rs h

/-- After a success the record of a node holds the report and the time of it, and nothing of what was there before; no
other record has changed. -/
structure Renewed (before after : Records) (nodeId : UInt32) (report : Report) (time : UInt64) : Prop where
  own : after.get? nodeId = some {
    report := report, status := .up, retries := 0, lastError := none,
    lastFetchAttempt := some time, lastFetchSuccess := some time }
  others : ∀ n, n ≠ nodeId → after.get? n = before.get? n

/-- After a failure the record of a node has one more retry, the reason and the time of it; the report and the time of
the last success are as they were.  No other record has changed. -/
structure FailedOnceMore (before after : Records) (nodeId : UInt32) (reason : String) (time : UInt64) : Prop where
  first : before.get? nodeId = none → after.get? nodeId = some {
    report := {}, status := .down, retries := 1, lastError := some reason,
    lastFetchAttempt := some time, lastFetchSuccess := none }
  again : ∀ r, before.get? nodeId = some r → after.get? nodeId = some {
    report := r.report, status := .down, retries := r.retries + 1, lastError := some reason,
    lastFetchAttempt := some time, lastFetchSuccess := r.lastFetchSuccess }
  others : ∀ n, n ≠ nodeId → after.get? n = before.get? n

theorem renewed_enter (rs : Records) (nodeId : UInt32) (report : Report) (time : UInt64) :
    rs.Renewed (rs.enter ⟨nodeId, .ok report, time⟩) nodeId report time where
  own := (get?_enter ..).trans (if_pos rfl)
  others _ hn := (get?_enter ..).trans (if_neg hn)

theorem failedOnceMore_enter (rs : Records) (nodeId : UInt32) (reason : String) (time : UInt64) :
    rs.FailedOnceMore (rs.enter ⟨nodeId, .error reason, time⟩) nodeId reason time where
  first hnone := by
    rw [get?_enter, if_pos rfl, hnone]
    rfl
  again r hr := by
    rw [get?_enter, if_pos rfl, hr]
    rfl
  others _ hn := (get?_enter ..).trans (if_neg hn)

end Records

/-- The entry that a result of a fetch makes. -/
def Entry.ofResult (nodeId : UInt32) (time : UInt64) (result : Except BusError Report) : Entry :=
  ⟨nodeId, result.mapError BusError.message, time⟩

/-- A grid keeps the result of a fetch as an entry. -/
theorem record_grid (g : Grid) (nodeId : UInt32) (time : UInt64) (result : Except BusError Report) (rs : Records) :
    record g.inventory nodeId time result rs = ((), rs.enter (.ofResult nodeId time result)) := by
  cases result with
  | ok report => rfl
  | error e => rfl

end GridGateway.Telemetry
