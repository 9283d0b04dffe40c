import GridGateway.Proofs.Sql.Conversation
import GridGateway.Proofs.Sql.Numbering
import GridGateway.Proofs.Sql.Shape

/-!
# The statements behind a question

`Question.Plans` lists the statements that belong to each question to the database: the count and the page of a
listing, the lookup of one node or farm, the figures, and what is asked and written about telemetry.  Apart from the
setup script these are the only ones ever sent (`Question.ask_sendsOnly`), their texts depend on no value
(`Question.Alike.shape_eq`), and their placeholders are numbered like their parameters (`Question.Plans.numbered`).
-/

namespace GridGateway.Sql

open Query Telemetry Fragment

/-- A question to the inventory of the database, or an order to it. -/
inductive Question where
  | nodes (now : UInt64) (f : NodeFilter) (limit : Limit)
  | node (now : UInt64) (nodeId : UInt32)
  | farms (f : FarmFilter) (limit : Limit)
  | farm (farmId : UInt32)
  | twins (f : TwinFilter) (limit : Limit)
  | contracts (f : ContractFilter) (limit : Limit)
  | counters (now : UInt64) (f : StatsFilter)
  | fetchTargets (offset count : UInt64)
  | telemetry (nodeId : UInt32)
  | recordSuccess (nodeId : UInt32) (report : Bus.Report) (time : UInt64)
  | recordFailure (nodeId : UInt32) (reason : String) (time : UInt64)

/-- A conversation whose outcome does not matter. -/
def forget {α : Type} (t : Talk α) : StateM Session Unit := do
  let _ ← t.run
  return ()

/-- Asks a question. -/
def Question.ask (pick : UInt64 → UInt64) : Question → StateM Session Unit
  | nodes now f limit => forget ((inventory pick).nodes now f limit)
  | node now nodeId => forget ((inventory pick).node now nodeId)
  | farms f limit => forget ((inventory pick).farms f limit)
  | farm farmId => forget ((inventory pick).farm farmId)
  | twins f limit => forget ((inventory pick).twins f limit)
  | contracts f limit => forget ((inventory pick).contracts f limit)
  | counters now f => forget ((inventory pick).counters now f)
  | fetchTargets offset count => forget ((inventory pick).fetchTargets offset count)
  | telemetry nodeId => forget ((inventory pick).telemetry nodeId)
  | recordSuccess nodeId report time => forget ((inventory pick).recordSuccess nodeId report time)
  | recordFailure nodeId reason time => forget ((inventory pick).recordFailure nodeId reason time)

/-- The statements sent, the last one first, when a question is asked of a database that gives these replies. -/
def Question.sent (q : Question) (pick : UInt64 → UInt64) (replies : List Reply) : List Statement :=
  (q.ask pick { replies := replies }).2.sent

/-- What a listing is made of. -/
structure Listing where
  columns : String
  source : Fragment
  order : Fragment

/-- The listing that a question asks for, if its filter is understood. -/
inductive Question.Lists : Question → Limit → Listing → Prop
  | nodes {now : UInt64} {f : NodeFilter} {limit : Limit} {source : Fragment}
      (h : nodeSource? .view f now = .ok source) :
      Lists (.nodes now f limit) limit ⟨nodeColumns, source, nodeOrder f⟩
  | farms {f : FarmFilter} {limit : Limit} : Lists (.farms f limit) limit ⟨farmColumns, farmSource f, farmOrder⟩
  | twins {f : TwinFilter} {limit : Limit} : Lists (.twins f limit) limit ⟨twinColumns, twinSource f, twinOrder⟩
  | contracts {f : ContractFilter} {limit : Limit} {source : Fragment} (h : contractSource? f = .ok source) :
      Lists (.contracts f limit) limit ⟨contractColumns, source, contractOrder⟩

/-- What a statement is for. -/
inductive Part where
  | count
  | page
  | lookup
  | figures
  | countries
  | bookkeeping

/-- The statements that belong to a question.  The number of matches is counted only when the limit needs it, and a
page starts anywhere only when it is a random one. -/
inductive Question.Plans : Question → Part → Fragment → Prop
  | count {q : Question} {limit : Limit} {l : Listing} (h : q.Lists limit l)
      (needed : (limit.retCount || limit.randomize) = true) : Plans q .count (select countColumns l.source)
  | page {q : Question} {limit : Limit} {l : Listing} (h : q.Lists limit l) {start : UInt64}
      (starts : limit.randomize = true ∨ start = limit.offset) :
      Plans q .page (select l.columns l.source ++ l.order ++ window limit.size start)
  | node {now : UInt64} {nodeId : UInt32} :
      Plans (.node now nodeId) .lookup
        (select nodeColumns (nodeSource (.ofNode nodeId) none { nodeId := some nodeId.toUInt64 } now))
  | farm {farmId : UInt32} :
      Plans (.farm farmId) .lookup (select farmColumns (farmSource { farmId := some farmId.toUInt64 }))
  | figures {now : UInt64} {f : StatsFilter} {status : Option Status} (h : f.wantedStatus = .ok status) :
      Plans (.counters now f) .figures (countersQuery status now)
  | countries {now : UInt64} {f : StatsFilter} {status : Option Status} (h : f.wantedStatus = .ok status) :
      Plans (.counters now f) .countries (distributionQuery status now)
  | fetchTargets {offset count : UInt64} :
      Plans (.fetchTargets offset count) .bookkeeping (Sql.fetchTargets offset count)
  | telemetry {nodeId : UInt32} : Plans (.telemetry nodeId) .bookkeeping (telemetryOf nodeId)
  | recordSuccess {nodeId : UInt32} {report : Bus.Report} {time : UInt64} :
      Plans (.recordSuccess nodeId report time) .bookkeeping (Sql.recordSuccess nodeId report time)
  | recordFailure {nodeId : UInt32} {reason : String} {time : UInt64} :
      Plans (.recordFailure nodeId reason time) .bookkeeping (Sql.recordFailure nodeId reason time)

/-- Questions of one kind whose filters, if they have any, have the same fields. -/
inductive Question.Alike : Question → Question → Prop
  | nodes {now now' : UInt64} {f f' : NodeFilter} {limit limit' : Limit} (h : NodesAlike f f') :
      Alike (.nodes now f limit) (.nodes now' f' limit')
  | node {now now' : UInt64} {nodeId nodeId' : UInt32} : Alike (.node now nodeId) (.node now' nodeId')
  | farms {f f' : FarmFilter} {limit limit' : Limit} (h : SameFields FarmFilter.slots f f') :
      Alike (.farms f limit) (.farms f' limit')
  | farm {farmId farmId' : UInt32} : Alike (.farm farmId) (.farm farmId')
  | twins {f f' : TwinFilter} {limit limit' : Limit} (h : SameFields TwinFilter.slots f f') :
      Alike (.twins f limit) (.twins f' limit')
  | contracts {f f' : ContractFilter} {limit limit' : Limit} (h : SameFields ContractFilter.slots f f') :
      Alike (.contracts f limit) (.contracts f' limit')
  | counters {now now' : UInt64} {f f' : StatsFilter} (h : f.wantedStatus = f'.wantedStatus) :
      Alike (.counters now f) (.counters now' f')
  | fetchTargets {offset count offset' count' : UInt64} :
      Alike (.fetchTargets offset count) (.fetchTargets offset' count')
  | telemetry {nodeId nodeId' : UInt32} : Alike (.telemetry nodeId) (.telemetry nodeId')
  | recordSuccess {nodeId nodeId' : UInt32} {report report' : Bus.Report} {time time' : UInt64} :
      Alike (.recordSuccess nodeId report time) (.recordSuccess nodeId' report' time')
  | recordFailure {nodeId nodeId' : UInt32} {reason reason' : String} {time time' : UInt64} :
      Alike (.recordFailure nodeId reason time) (.recordFailure nodeId' reason' time')

/-! ### Texts -/

/-- The conditions of a node filter that is understood. -/
theorem nodeSource_eq_ok {r : Resources} {f : NodeFilter} {now : UInt64} {source : Fragment}
    (h : nodeSource? r f now = .ok source) :
    ∃ status, f.wantedStatus = .ok status ∧ source = nodeSource r status f now := by
  unfold nodeSource? at h
  cases hs : f.wantedStatus with
  | error e =>
    rw [hs] at h
    cases h
  | ok status =>
    rw [hs] at h
    cases h
    exact ⟨status, rfl, rfl⟩

/-- The part of a statement about nodes in front of its conditions. -/
def nodeFront (columns : String) (resources : Resources) : Fragment :=
  select columns ([.sql " FROM node"] ++ resources.join ++ [.sql nodeJoins] ++ whereTrue)

theorem select_nodeSource (columns : String) (resources : Resources) (status : Option Status) (f : NodeFilter)
    (now : UInt64) : select columns (nodeSource resources status f now) =
      nodeFront columns resources ++ (statusCondition now status ++ nodeConditions f) := by
  simp only [select, nodeSource, nodeFront, List.append_assoc, List.cons_append]

/-- The conditions of a contract filter that is understood. -/
theorem contractSource_eq_ok {f : ContractFilter} {source : Fragment} (h : contractSource? f = .ok source) :
    ∃ state kind, f.wantedState = .ok state ∧ f.wantedKind = .ok kind ∧
      source = contractConditions state kind f := by
  unfold contractSource? at h
  cases hs : f.wantedState with
  | error e =>
    rw [hs] at h
    cases h
  | ok state =>
    cases hk : f.wantedKind with
    | error e =>
      rw [hs, hk] at h
      cases h
    | ok kind =>
      rw [hs, hk] at h
      cases h
      exact ⟨state, kind, rfl, rfl, rfl⟩

namespace Question

/-- Listings of one shape have the same columns, and sources and orders of one shape. -/
private theorem Alike.lists {q q' : Question} (h : q.Alike q') {limit limit' : Limit} {l l' : Listing}
    (hl : q.Lists limit l) (hl' : q'.Lists limit' l') :
    l.columns = l'.columns ∧ l.source.shape = l'.source.shape ∧ l.order.shape = l'.order.shape := by
  cases hl with
  | nodes hs =>
    cases h with
    | nodes h =>
      cases hl' with
      | nodes hs' =>
        obtain ⟨status, hw, rfl⟩ := nodeSource_eq_ok hs
        obtain ⟨status', hw', rfl⟩ := nodeSource_eq_ok hs'
        obtain rfl : status = status' := Except.ok.inj (hw.symm.trans (h.status.trans hw'))
        exact ⟨rfl, h.shape_nodeSource rfl status _ _, h.shape_nodeOrder⟩
  | farms =>
    cases h with
    | farms h =>
      cases hl' with
      | farms => exact ⟨rfl, shape_farmSource h, rfl⟩
  | twins =>
    cases h with
    | twins h =>
      cases hl' with
      | twins => exact ⟨rfl, shape_twinSource h, rfl⟩
  | contracts hs =>
    cases h with
    | contracts h =>
      cases hl' with
      | contracts hs' =>
        obtain ⟨state, kind, hw, hk, rfl⟩ := contractSource_eq_ok hs
        obtain ⟨state', kind', hw', hk', rfl⟩ := contractSource_eq_ok hs'
        exact ⟨rfl, shape_contractConditions h hw hk hw' hk', rfl⟩

theorem Alike.shape_eq {q q' : Question} (h : q.Alike q') {part : Part} {p p' : Fragment}
    (hp : q.Plans part p) (hp' : q'.Plans part p') : p.shape = p'.shape := by
  cases hp with
  | count hl _ =>
    cases hp' with
    | count hl' _ =>
      obtain ⟨_, hsource, _⟩ := h.lists hl hl'
      rw [shape_select, shape_select, hsource]
  | page hl _ =>
    cases hp' with
    | page hl' _ =>
      obtain ⟨hcolumns, hsource, horder⟩ := h.lists hl hl'
      simp only [shape_append, shape_select, hcolumns, hsource, horder]
      rfl
  | node =>
    cases h with
    | node =>
      cases hp' with
      | node =>
        rw [shape_select, shape_select]
        exact congrArg ([some "SELECT ", some nodeColumns] ++ ·)
          ((nodesAlike_ofNumber _ _).shape_nodeSource rfl none _ _)
  | farm =>
    cases h with
    | farm =>
      cases hp' with
      | farm => rw [shape_select, shape_select, shape_farmSource (sameFields_farmNumber _ _)]
  | figures hs =>
    cases h with
    | counters h =>
      cases hp' with
      | figures hs' =>
        cases hs.symm.trans (h.trans hs')
        exact shape_countersQuery _ _ _
  | countries hs =>
    cases h with
    | counters h =>
      cases hp' with
      | countries hs' =>
        cases hs.symm.trans (h.trans hs')
        exact shape_distributionQuery _ _ _
  | fetchTargets => cases h with | fetchTargets => cases hp' with | fetchTargets => rfl
  | telemetry => cases h with | telemetry => cases hp' with | telemetry => rfl
  | recordSuccess => cases h with | recordSuccess => cases hp' with | recordSuccess => rfl
  | recordFailure => cases h with | recordFailure => cases hp' with | recordFailure => rfl

/-! ### Numbers -/

private theorem Lists.neat {q : Question} {limit : Limit} {l : Listing} (h : q.Lists limit l) :
    Clean l.columns ∧ Neat l.source ∧ Neat l.order := by
  cases h with
  | nodes h =>
    obtain ⟨status, _, rfl⟩ := nodeSource_eq_ok h
    exact ⟨clean_nodeColumns, neat_nodeSource _ _ _ _, neat_nodeOrder _⟩
  | farms => exact ⟨clean_farmColumns, neat_farmSource _, neat_farmOrder⟩
  | twins => exact ⟨clean_twinColumns, neat_twinSource _, neat_twinOrder⟩
  | contracts h =>
    obtain ⟨state, kind, _, _, rfl⟩ := contractSource_eq_ok h
    exact ⟨clean_contractColumns, neat_contractConditions _ _ _, neat_contractOrder⟩

theorem Plans.numbered {q : Question} {part : Part} {p : Fragment} (h : q.Plans part p) : Numbered p := by
  cases h with
  | count hl _ => exact (neat_select clean_countColumns hl.neat.2.1).numbered
  | page hl _ =>
    obtain ⟨hcolumns, hsource, horder⟩ := hl.neat
    exact (neat_select hcolumns hsource |>.append horder |>.append (neat_window _ _)).numbered
  | node => exact (neat_select clean_nodeColumns (neat_nodeSource _ _ _ _)).numbered
  | farm => exact (neat_select clean_farmColumns (neat_farmSource _)).numbered
  | figures _ => exact (neat_countersQuery _ _).numbered
  | countries _ => exact (neat_distributionQuery _ _).numbered
  | fetchTargets => exact numbered_fetchTargets _ _
  | telemetry => exact numbered_telemetryOf _
  | recordSuccess => exact numbered_recordSuccess _ _ _
  | recordFailure => exact numbered_recordFailure _ _ _

/-! ### Runs -/

/-- What may be sent when a question is asked. -/
def MaySend (q : Question) (s : Statement) : Prop :=
  s = setupStatement ∨ ∃ part p, q.Plans part p ∧ s = p.statement

private theorem Plans.maySend {q : Question} {part : Part} {p : Fragment} (h : q.Plans part p) :
    q.MaySend p.statement :=
  .inr ⟨part, p, h, rfl⟩

private theorem sendsOnly_forget {α : Type} {P : Statement → Prop} {t : Talk α} (h : SendsOnly P t.run) :
    SendsOnly P (forget t) :=
  h.bind fun _ => .pure _

private theorem Lists.sendsOnly {q : Question} {limit : Limit} {l : Listing} (h : q.Lists limit l) {α : Type}
    (pick : UInt64 → UInt64) (read : RowReader α) :
    SendsOnly q.MaySend (listPage pick l.columns l.source l.order read limit).run := by
  refine .listPage (.inl rfl) (fun needed => (Plans.count h needed).maySend) fun total => ?_
  refine (Plans.page h ?_).maySend
  unfold pageStart
  split
  · next hr => exact .inl hr
  · exact .inr rfl

/-- Whatever the database answers, only planned statements and the setup script are sent. -/
theorem ask_sendsOnly (pick : UInt64 → UInt64) (q : Question) : SendsOnly q.MaySend (q.ask pick) := by
  cases q with
  | nodes now f limit =>
    refine sendsOnly_forget ?_
    show SendsOnly _ (listNodes pick now f limit).run
    unfold listNodes
    cases h : nodeSource? .view f now with
    | error e => exact .pure _
    | ok source =>
      rw [checked_ok_bind]
      exact (Lists.nodes h).sendsOnly pick _
  | node now nodeId => exact sendsOnly_forget (.findRow (.inl rfl) Plans.node.maySend)
  | farms f limit => exact sendsOnly_forget (Lists.farms.sendsOnly pick _)
  | farm farmId => exact sendsOnly_forget (.findRow (.inl rfl) Plans.farm.maySend)
  | twins f limit => exact sendsOnly_forget (Lists.twins.sendsOnly pick _)
  | contracts f limit =>
    refine sendsOnly_forget ?_
    show SendsOnly _ (listContracts pick f limit).run
    unfold listContracts
    cases h : contractSource? f with
    | error e => exact .pure _
    | ok source =>
      rw [checked_ok_bind]
      exact ((Lists.contracts h).sendsOnly pick _).next fun _ => .next (.pure _) fun _ => .pure _
  | counters now f =>
    refine sendsOnly_forget ?_
    show SendsOnly _ (countGrid now f).run
    unfold countGrid
    cases h : f.wantedStatus with
    | error e => exact .pure _
    | ok status =>
      rw [checked_ok_bind]
      refine .next (.query (Plans.figures h).maySend (.inl rfl) _) fun _ => ?_
      exact .next (.query (Plans.countries h).maySend (.inl rfl) _) fun _ => .pure _
  | fetchTargets offset count => exact sendsOnly_forget (.query Plans.fetchTargets.maySend (.inl rfl) _)
  | telemetry nodeId => exact sendsOnly_forget (.query Plans.telemetry.maySend (.inl rfl) _)
  | recordSuccess nodeId report time => exact sendsOnly_forget (.query Plans.recordSuccess.maySend (.inl rfl) _)
  | recordFailure nodeId reason time => exact sendsOnly_forget (.query Plans.recordFailure.maySend (.inl rfl) _)

private theorem sent_of_run {q : Question} {pick : UInt64 → UInt64} {α : Type} {t : Talk α}
    (hq : q.ask pick = forget t) {r : Except InventoryError α} {sent : List Statement}
    (h : t.run (allDone []) = (r, allDone sent)) : q.sent pick [] = sent := by
  show (q.ask pick (allDone [])).2.sent = sent
  rw [hq]
  show (t.run (allDone [])).2.sent = sent
  rw [h]
  rfl

/-- When every statement succeeds, a listing is the count, if it is needed, and the page. -/
private theorem Lists.sent_eq {q : Question} {limit : Limit} {l : Listing} (h : q.Lists limit l)
    (pick : UInt64 → UInt64) :
    q.sent pick [] =
      (select l.columns l.source ++ l.order ++ window limit.size (pageStart pick limit 0)).statement ::
        if limit.retCount || limit.randomize then [(select countColumns l.source).statement] else [] := by
  cases h with
  | @nodes now f _ source hs =>
    refine sent_of_run (t := listNodes pick now f limit) rfl ?_ (r := .ok ([], limit.shownCount 0))
    unfold listNodes
    rw [hs, checked_ok_bind, listPage_of_done]
  | farms => exact sent_of_run rfl (listPage_of_done ..)
  | twins => exact sent_of_run rfl (listPage_of_done ..)
  | @contracts f _ source hs =>
    refine sent_of_run (t := listContracts pick f limit) rfl ?_ (r := .ok ([], limit.shownCount 0))
    unfold listContracts
    rw [hs, checked_ok_bind, run_bind_of_ok (listPage_of_done ..)]
    rfl

private theorem sent_counters {now : UInt64} {f : StatsFilter} {status : Option Status}
    (h : f.wantedStatus = .ok status) (pick : UInt64 → UInt64) :
    (counters now f).sent pick [] =
      [(distributionQuery status now).statement, (countersQuery status now).statement] := by
  obtain ⟨figures, hfigures⟩ : ∃ figures, (Expect.one readCounters).value .done = .ok figures := ⟨_, rfl⟩
  refine sent_of_run (t := countGrid now f) rfl ?_ (r := .ok { figures with nodesDistribution := [] })
  unfold countGrid
  rw [h, checked_ok_bind, run_bind_of_ok (query_of_done hfigures []), run_bind_of_ok (query_of_done rfl _)]
  rfl

/-- Every planned statement is sent by some run. -/
private theorem Plans.mem_sent {q : Question} {part : Part} {p : Fragment} (h : q.Plans part p) :
    ∃ pick, p.statement ∈ q.sent pick [] := by
  cases h with
  | count hl needed =>
    refine ⟨id, ?_⟩
    rw [hl.sent_eq, if_pos needed]
    exact .tail _ (List.mem_singleton_self _)
  | @page _ limit l hl start starts =>
    refine ⟨fun _ => start, ?_⟩
    have hstart : pageStart (fun _ => start) limit 0 = start := by
      unfold pageStart
      split
      · rfl
      · next hr => exact (starts.resolve_left hr).symm
    rw [hl.sent_eq, hstart]
    exact List.mem_cons_self ..
  | node => exact ⟨id, by rw [sent_of_run rfl (findRow_of_done ..)]; exact List.mem_singleton_self _⟩
  | farm => exact ⟨id, by rw [sent_of_run rfl (findRow_of_done ..)]; exact List.mem_singleton_self _⟩
  | figures hs => exact ⟨id, by rw [sent_counters hs]; exact .tail _ (List.mem_singleton_self _)⟩
  | countries hs => exact ⟨id, by rw [sent_counters hs]; exact List.mem_cons_self ..⟩
  | fetchTargets => exact ⟨id, by rw [sent_of_run rfl (query_of_done rfl _)]; exact List.mem_singleton_self _⟩
  | telemetry => exact ⟨id, by rw [sent_of_run rfl (query_of_done rfl _)]; exact List.mem_singleton_self _⟩
  | recordSuccess => exact ⟨id, by rw [sent_of_run rfl (query_of_done rfl _)]; exact List.mem_singleton_self _⟩
  | recordFailure => exact ⟨id, by rw [sent_of_run rfl (query_of_done rfl _)]; exact List.mem_singleton_self _⟩

end Question

/-! ### Values and texts -/

/-- The texts of statements hold no values: questions of one kind, whose filters have the same fields and agree in
the status and the flags that choose a clause, send the same texts for each part, whatever values, times, limits and
numbers they ask with.  And in each statement the placeholders are `$1`, `$2`, … up to the number of parameters.
These statements are the ones that are sent: nothing else is, apart from the setup script, and each one is in some
run. -/
theorem texts_hold_no_values :
    (∀ (q q' : Question) (part : Part) (p p' : Fragment), q.Alike q' → q.Plans part p → q'.Plans part p' →
      p.statement.sql = p'.statement.sql) ∧
    (∀ (q : Question) (part : Part) (p : Fragment), q.Plans part p → p.statement.IsNumbered) ∧
    (∀ (q : Question) (pick : UInt64 → UInt64) (replies : List Reply), ∀ s ∈ q.sent pick replies,
      s = setupStatement ∨ ∃ part p, q.Plans part p ∧ s = p.statement) ∧
    ∀ (q : Question) (part : Part) (p : Fragment), q.Plans part p →
      ∃ pick replies, p.statement ∈ q.sent pick replies := by
  refine ⟨?_, ?_, ?_, ?_⟩
  · intro q q' part p p' halike hp hp'
    exact text_eq_of_shape_eq (halike.shape_eq hp hp')
  · intro q part p hp
    exact hp.numbered.statement
  · intro q pick replies s hs
    obtain ⟨added, hsent, hadded⟩ := q.ask_sendsOnly pick { replies := replies }
    have hs : s ∈ added := by
      have hmem : s ∈ (q.ask pick { replies := replies }).2.sent := hs
      rwa [hsent, List.append_nil] at hmem
    exact hadded s hs
  · intro q part p hp
    obtain ⟨pick, hmem⟩ := hp.mem_sent
    exact ⟨pick, [], hmem⟩

/-- A country that tries to end the statement, and to name a value of its own, changes nothing of the text. -/
theorem quoted_country_keeps_text :
    ∃ p p' : Fragment,
      (Question.nodes 0 { country := some "Belgium", availableFor := some 7 } {}).Plans .page p ∧
      (Question.nodes 1 { country := some "'; DROP TABLE node; -- $9", availableFor := some 8 }
        { page := 4, size := 9 }).Plans .page p' ∧
      p.statement.params ≠ p'.statement.params ∧ p.statement.sql = p'.statement.sql ∧ p'.statement.IsNumbered := by
  have hsame : NodesAlike { country := some "Belgium", availableFor := some 7 }
      { country := some "'; DROP TABLE node; -- $9", availableFor := some 8 } :=
    ⟨by unfold SameFields; decide, rfl, rfl, rfl, rfl⟩
  refine ⟨_, _, .page (.nodes rfl) (.inr rfl), .page (.nodes rfl) (.inr rfl), by decide, ?_, ?_⟩
  · exact texts_hold_no_values.1 _ _ .page _ _ (.nodes hsame) (.page (.nodes rfl) (.inr rfl))
      (.page (.nodes rfl) (.inr rfl))
  · exact texts_hold_no_values.2.1 _ .page _ (.page (.nodes rfl) (.inr rfl))

end GridGateway.Sql
