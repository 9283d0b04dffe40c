import GridGateway.Proofs.Runs
import GridGateway.Sql.Inventory

/-!
# What is sent in a conversation

A conversation only ever adds to the statements sent.  `SendsOnly P t` says that all those added by `t` have the
property `P`, whatever the database answers; it is enough to know it of the single statements (`SendsOnly.query`).
When every statement succeeds, each one is sent once (`query_of_done`).
-/

namespace GridGateway.Sql

variable {P : Statement → Prop} {α β : Type}

/-- A part of a conversation that sends only statements with a property, whatever the answers. -/
def SendsOnly (P : Statement → Prop) (m : StateM Session α) : Prop :=
  ∀ s, ∃ added, (m s).2.sent = added ++ s.sent ∧ ∀ x ∈ added, P x

theorem checked_ok_bind (a : α) (k : α → Talk β) : (checked (.ok a) >>= k) = k a := rfl

namespace SendsOnly

theorem pure (a : α) : SendsOnly P (pure a) := fun _ => ⟨[], rfl, fun _ h => (nomatch h)⟩

theorem bind {m : StateM Session α} {k : α → StateM Session β} (hm : SendsOnly P m)
    (hk : ∀ a, SendsOnly P (k a)) : SendsOnly P (m >>= k) := by
  intro s
  obtain ⟨first, hfirst, hP⟩ := hm s
  obtain ⟨next, hnext, hP'⟩ := hk (m s).1 (m s).2
  refine ⟨next ++ first, ?_, ?_⟩
  · show (k (m s).1 (m s).2).2.sent = _
    rw [hnext, hfirst, List.append_assoc]
  · intro x hx
    rcases List.mem_append.1 hx with hx | hx
    · exact hP' x hx
    · exact hP x hx

theorem send {x : Statement} (hx : P x) : SendsOnly P (send x) := by
  intro s
  have hadded : ∀ y ∈ [x], P y := List.forall_mem_singleton.2 hx
  unfold Sql.send
  cases s.replies with
  | nil => exact ⟨[x], rfl, hadded⟩
  | cons r rs => exact ⟨[x], rfl, hadded⟩

/-- Conversations that may end with an error, one after the other. -/
theorem next {t : Talk α} {k : α → Talk β} (ht : SendsOnly P t.run) (hk : ∀ a, SendsOnly P (k a).run) :
    SendsOnly P (t >>= k).run := by
  rw [ExceptT.run_bind]
  refine ht.bind fun r => ?_
  cases r with
  | ok a => exact hk a
  | error e => exact .pure _

/-- A statement may be sent twice, with the setup script in between. -/
theorem query {q : Fragment} (hq : P q.statement) (hsetup : P setupStatement) (e : Expect α) :
    SendsOnly P (query q e).run := by
  have hattempt : SendsOnly P (attempt q e) := (send hq).bind fun _ => .pure _
  have hrun : SendsOnly P runSetup := (send hsetup).bind fun _ => .pure _
  rw [Sql.query, ExceptT.run_mk]
  refine hattempt.bind fun r => ?_
  cases r with
  | ok a => exact .pure _
  | error first =>
    show SendsOnly P (if _ then _ else _)
    split
    · refine hrun.bind fun r' => ?_
      cases r' with
      | error _ => exact .pure _
      | ok _ =>
        refine hattempt.bind fun r'' => ?_
        cases r'' <;> exact .pure _
    · exact .pure _

/-- Both statements of a listing: the one that counts, which may be left out, and the page. -/
theorem listPage {pick : UInt64 → UInt64} {columns : String} {source order : Fragment} {read : RowReader α}
    {limit : Query.Limit} (hsetup : P setupStatement)
    (hcount : (limit.retCount || limit.randomize) = true → P (select countColumns source).statement)
    (hpage : ∀ total, P (select columns source ++ order ++
      window limit.size (pageStart pick limit total)).statement) :
    SendsOnly P (listPage pick columns source order read limit).run := by
  have hmatches : SendsOnly P (countMatches limit source).run := by
    unfold countMatches
    split
    · next h => exact query (hcount h) hsetup _
    · exact pure _
  exact hmatches.next fun total => (query (hpage total) hsetup _).next fun _ => .pure _

/-- The statement that looks up a row. -/
theorem findRow {columns : String} {source : Fragment} {read : RowReader α} {absent : InventoryError}
    (hsetup : P setupStatement) (hlookup : P (select columns source).statement) :
    SendsOnly P (findRow columns source read absent).run := by
  refine (query hlookup hsetup _).next fun row => ?_
  cases row with
  | some a => exact .pure _
  | none => exact .pure _

end SendsOnly

/-! ### Conversations without failures -/

/-- A conversation in which every statement succeeds from now on. -/
def allDone (sent : List Statement) : Session := { sent := sent }

theorem query_of_done {q : Fragment} {e : Expect α} {a : α} (h : e.value .done = .ok a) (sent : List Statement) :
    (query q e).run (allDone sent) = (.ok a, allDone (q.statement :: sent)) := by
  have hattempt : attempt q e (allDone sent) = (.ok a, allDone (q.statement :: sent)) := by
    rw [← h]
    rfl
  rw [query, ExceptT.run_mk]
  simp only [bind, StateT.bind, hattempt]
  rfl

theorem listPage_of_done (pick : UInt64 → UInt64) (columns : String) (source order : Fragment) (read : RowReader α)
    (limit : Query.Limit) (sent : List Statement) :
    (listPage pick columns source order read limit).run (allDone sent) =
      (.ok ([], limit.shownCount 0),
        allDone ((select columns source ++ order ++ window limit.size (pageStart pick limit 0)).statement ::
          if limit.retCount || limit.randomize then (select countColumns source).statement :: sent else sent)) := by
  have hmatches : (countMatches limit source).run (allDone sent) =
      (.ok 0, allDone
        (if limit.retCount || limit.randomize then (select countColumns source).statement :: sent else sent)) := by
    unfold countMatches
    split
    · exact query_of_done rfl sent
    · rfl
  unfold listPage
  rw [run_bind_of_ok hmatches, run_bind_of_ok (query_of_done rfl _)]
  rfl

theorem findRow_of_done (columns : String) (source : Fragment) (read : RowReader α) (absent : InventoryError)
    (sent : List Statement) :
    (findRow columns source read absent).run (allDone sent) =
      (.error absent, allDone ((select columns source).statement :: sent)) := by
  unfold findRow
  rw [run_bind_of_ok (query_of_done rfl sent)]
  rfl

end GridGateway.Sql
