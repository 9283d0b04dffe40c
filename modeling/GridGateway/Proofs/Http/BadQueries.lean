import GridGateway.Proofs.Grid.Answers
import GridGateway.Proofs.Http.Calls
import GridGateway.Proofs.Http.OnDemand
import GridGateway.Proofs.Query.Refusals
import GridGateway.Proofs.Runs
import GridGateway.Proofs.Sql.Recovery

/-!
# Bad queries

The routes for listings and for the figures read their query before they ask anything: the filter, its words, the limit
(`Http.Endpoint.read`).  A query is refused for the first thing that is wrong with it (`Http.Endpoint.refusal?_read`),
and then nothing has been touched (`Http.Service.respond_of_refused`).  Once a query is understood, the stores fail for
internal reasons only (`IsStore.isSteady`), so a request is answered or fails as an internal error
(`Http.Service.respond_of_understood`).
-/

namespace GridGateway

open Query

/-- An error that no question can be blamed for. -/
def InventoryError.IsInternal : InventoryError → Prop
  | .database _ | .decode .. => True
  | _ => False

/-- A question that fails for internal reasons only. -/
def FailsInternally {σ α : Type} (q : Ask σ α) : Prop := Ends (fun _ => True) InventoryError.IsInternal q

namespace Sql

variable {α : Type}

/-- What comes of two steps comes of the second one. -/
private theorem fst_bind {γ : Type} {P : γ → Prop} {m : StateM Session α} {k : α → StateM Session γ}
    (h : ∀ a s, P (k a s).1) (s : Session) : P ((m >>= k) s).1 := h _ _

/-- Whatever happens, the error of a statement is one of the database. -/
private theorem query_failsInternally (q : Fragment) (e : Expect α) : FailsInternally (query q e) := by
  refine fst_bind fun r s => ?_
  cases r with
  | ok a => trivial
  | error first =>
    show Settles _ _ ((if DatabaseError.isMissingObject first then _ else _ : StateM Session _) s).1
    split
    · refine fst_bind (fun r s => ?_) s
      cases r with
      | error _ => trivial
      | ok _ =>
        refine fst_bind (fun r s => ?_) s
        cases r <;> trivial
    · trivial

private theorem listPage_failsInternally (pick : UInt64 → UInt64) (columns : String) (source order : Fragment)
    (read : RowReader α) (limit : Limit) : FailsInternally (listPage pick columns source order read limit) := by
  have hcount : FailsInternally (countMatches limit source) := by
    unfold countMatches
    split
    · exact query_failsInternally _ _
    · exact .pure trivial
  exact hcount.bind fun _ _ => (query_failsInternally _ _).bind fun _ _ => .pure trivial

/-- Rows that make no sense as contracts are an internal matter. -/
private theorem contracts_failInternally (rows : List ContractRow) :
    FailsInternally (ExceptT.mk (pure (rows.mapM ContractRow.contract)) : Talk (List Contract)) := by
  intro s
  change Settles _ _ (rows.mapM ContractRow.contract)
  have hrow (r : ContractRow) (e : InventoryError) (h : r.contract = .error e) : e.IsInternal := by
    rw [ContractRow.contract] at h
    cases hkind : ContractKind.ofLabel? r.kind with
    | none => rw [hkind] at h; cases h; trivial
    | some kind => rw [hkind] at h; cases kind <;> cases h
  cases hrows : rows.mapM ContractRow.contract with
  | ok contracts => trivial
  | error e =>
    rw [← refusal?_eq_some_iff, refusal?_mapM] at hrows
    obtain ⟨r, -, hr⟩ := List.exists_of_findSome?_eq_some hrows
    exact hrow r e (refusal?_eq_some_iff.1 hr)

end Sql

/-! ### Inventories -/

/-- Listings and figures fail for internal reasons only, once their filters are understood. -/
structure Inventory.IsSteady {σ : Type} (inv : Inventory σ) : Prop where
  nodes : ∀ now f limit, f.validate = .ok () → FailsInternally (inv.nodes now f limit)
  farms : ∀ f limit, FailsInternally (inv.farms f limit)
  twins : ∀ f limit, FailsInternally (inv.twins f limit)
  contracts : ∀ f limit, f.validate = .ok () → FailsInternally (inv.contracts f limit)
  counters : ∀ now f status, f.wantedStatus = .ok status → FailsInternally (inv.counters now f)

/-- The inventories that there are: a grid in memory, and the database, whatever it replies. -/
inductive IsStore : {σ : Type} → Inventory σ → Prop
  | grid (g : Grid) : IsStore (Grid.inventory g)
  | database (pick : UInt64 → UInt64) : IsStore (Sql.inventory pick)

/-- The state and the kind of a filter of contracts that is understood. -/
private theorem wanted_of_validate {f : ContractFilter} (h : f.validate = .ok ()) :
    ∃ state kind, f.wantedState = .ok state ∧ f.wantedKind = .ok kind := by
  rw [ContractFilter.validate] at h
  cases hstate : f.wantedState with
  | error e => rw [hstate] at h; cases h
  | ok state =>
    cases hkind : f.wantedKind with
    | error e => rw [hstate, hkind] at h; cases h
    | ok kind => exact ⟨state, kind, rfl, rfl⟩

private theorem Sql.inventory_isSteady (pick : UInt64 → UInt64) : (Sql.inventory pick).IsSteady where
  nodes := by
    intro now f limit hf
    obtain ⟨source, hsource⟩ := exists_eq_ok_of_map ((nodeSource_map .view f now).trans hf)
    show FailsInternally (checked (nodeSource? .view f now) >>= _)
    rw [hsource, checked_ok_bind]
    exact listPage_failsInternally _ _ _ _ _ _
  farms := fun f limit => listPage_failsInternally _ _ _ _ _ _
  twins := fun f limit => listPage_failsInternally _ _ _ _ _ _
  contracts := by
    intro f limit hf
    obtain ⟨source, hsource⟩ := exists_eq_ok_of_map ((contractSource_map f).trans hf)
    show FailsInternally (checked (contractSource? f) >>= _)
    rw [hsource, checked_ok_bind]
    exact (listPage_failsInternally _ _ _ _ _ _).bind fun page _ =>
      (contracts_failInternally page.1).bind fun _ _ => .pure trivial
  counters := by
    intro now f status hf
    show FailsInternally (checked f.wantedStatus >>= _)
    rw [hf, checked_ok_bind]
    exact (query_failsInternally _ _).bind fun _ _ => (query_failsInternally _ _).bind fun _ _ => .pure trivial

private theorem Grid.inventory_isSteady (g : Grid) : (Grid.inventory g).IsSteady where
  nodes := by
    intro now f limit hf records
    obtain ⟨status, hstatus⟩ := exists_eq_ok_of_map hf
    show Settles _ _ (g.listNodes now f limit)
    rw [g.listNodes_of_status now hstatus]
    trivial
  farms := fun f limit records => trivial
  twins := fun f limit records => trivial
  contracts := by
    intro f limit hf records
    obtain ⟨state, kind, hstate, hkind⟩ := wanted_of_validate hf
    show Settles _ _ (g.listContracts f limit)
    rw [g.listContracts_of_valid hstate hkind]
    trivial
  counters := by
    intro now f status hf records
    show Settles _ _ ((checked f.wantedStatus).map (g.figures now))
    rw [hf]
    trivial

theorem IsStore.isSteady {σ : Type} {inv : Inventory σ} (h : IsStore inv) : inv.IsSteady := by
  cases h with
  | grid g => exact g.inventory_isSteady
  | database pick => exact Sql.inventory_isSteady pick

/-! ### Routes whose queries are read -/

namespace Http

variable {σ β α γ δ : Type}

/-- What is read from the query of a route before the inventory is asked: the filter, then its words, then the limit. -/
def Endpoint.read (query : String) : Endpoint → Except QueryError Unit
  | .nodes | .gateways => do
    let filter : NodeFilter ← Params.ofQuery query
    filter.validate
    let _ : Limit ← Params.ofQuery query
    return ()
  | .farms => do
    let _ : FarmFilter ← Params.ofQuery query
    let _ : Limit ← Params.ofQuery query
    return ()
  | .twins => do
    let _ : TwinFilter ← Params.ofQuery query
    let _ : Limit ← Params.ofQuery query
    return ()
  | .contracts => do
    let filter : ContractFilter ← Params.ofQuery query
    filter.validate
    let _ : Limit ← Params.ofQuery query
    return ()
  | .stats => do
    let filter : StatsFilter ← Params.ofQuery query
    let _ ← filter.wantedStatus
    return ()
  | _ => return ()

/-- What is wrong with the status in a query. -/
def statusFault? : List (String × String) → Option QueryError := wordFault? "status" "up, down" Status.ofName?

/-- What is wrong with the pairs of a query for a route: the first fault of a pair for the filter, an unknown word, or
the first fault of a pair for the limit. -/
def Endpoint.fault? (ps : List (String × String)) : Endpoint → Option QueryError
  | .nodes | .gateways =>
    (ps.findSome? (Slot.faultIn? NodeFilter.slots)).or ((statusFault? ps).or (ps.findSome? Limit.fault?))
  | .farms => (ps.findSome? (Slot.faultIn? FarmFilter.slots)).or (ps.findSome? Limit.fault?)
  | .twins => (ps.findSome? (Slot.faultIn? TwinFilter.slots)).or (ps.findSome? Limit.fault?)
  | .contracts =>
    (ps.findSome? (Slot.faultIn? ContractFilter.slots)).or
      ((wordFault? "state" "Created, GracePeriod, Deleted" ContractState.ofWord? ps).or
        ((wordFault? "type" "node, name, rent" ContractKind.ofWord? ps).or (ps.findSome? Limit.fault?)))
  | .stats => (ps.findSome? (Slot.faultIn? StatsFilter.slots)).or (statusFault? ps)
  | _ => none

/-- The paths whose queries are read, in either set. -/
def queryPaths : List (String × Endpoint) :=
  [("/nodes", .nodes), ("/gateways", .gateways), ("/farms", .farms), ("/twins", .twins), ("/contracts", .contracts),
    ("/stats", .stats)]

/-- One check and then another one, which depends on what was read. -/
private theorem refusal?_next {r : Except QueryError α} {k : α → Except QueryError γ} {first rest : Option QueryError}
    (hr : refusal? r = first) (hk : ∀ a, r = .ok a → refusal? (k a) = rest) : refusal? (r >>= k) = first.or rest := by
  subst hr
  cases r with
  | error e => rfl
  | ok a => exact hk a rfl

/-- The query of a route is refused for the first thing that is wrong with it. -/
theorem Endpoint.refusal?_read (endpoint : Endpoint) (query : String) :
    refusal? (endpoint.read query) = endpoint.fault? (decodePairs query) := by
  have hlimit : refusal? (do let _ : Limit ← Params.ofQuery query; return ()) =
      (decodePairs query).findSome? Limit.fault? :=
    (refusal?_next (judges_limit.refusal?_ofQuery query) fun _ _ => rfl).trans Option.or_none
  have hstatus {f : NodeFilter} (hf : Params.ofQuery query = .ok f) :
      refusal? f.validate = statusFault? (decodePairs query) :=
    (refusal?_map _).trans (NodeFilter.status_textField.refusal?_choice hf _ _)
  cases endpoint with
  | nodes | gateways =>
    exact refusal?_next ((judges_ofSlots _ _).refusal?_ofQuery query) fun f hf =>
      refusal?_next (hstatus hf) fun _ _ => hlimit
  | farms | twins => exact refusal?_next ((judges_ofSlots _ _).refusal?_ofQuery query) fun _ _ => hlimit
  | contracts =>
    refine refusal?_next ((judges_ofSlots _ _).refusal?_ofQuery query) fun f hf => ?_
    have hkind : refusal? (do let _ ← f.wantedKind; return ()) =
        wordFault? "type" "node, name, rent" ContractKind.ofWord? (decodePairs query) :=
      (refusal?_next (ContractFilter.kind_textField.refusal?_choice hf _ _) fun _ _ => rfl).trans Option.or_none
    rw [← Option.or_assoc]
    refine refusal?_next ?_ fun _ _ => hlimit
    exact refusal?_next (ContractFilter.state_textField.refusal?_choice hf _ _) fun _ _ => hkind
  | stats =>
    refine refusal?_next ((judges_ofSlots _ _).refusal?_ofQuery query) fun f hf => ?_
    exact (refusal?_next (StatsFilter.status_textField.refusal?_choice hf _ _) fun _ _ => rfl).trans Option.or_none
  | _ => rfl

/-! ### Refused queries -/

/-- A check that is refused, at once or later on. -/
private theorem Work.Yields.refused {state : σ × β} {r : Except QueryError α} {k : α → Except QueryError δ}
    {w : α → Work σ β γ} {e : QueryError} (h : (r >>= k) = .error e)
    (hw : ∀ a, r = .ok a → k a = .error e → (w a).Yields state (.error (.ofQuery e))) :
    (Http.checked r >>= w).Yields state (.error (.ofQuery e)) := by
  cases r with
  | error e' => cases h; rfl
  | ok a => exact hw a rfl h

/-- A route whose query is refused answers with the refusal, and leaves the state as it is. -/
theorem Service.respond_of_refused (s : Service σ β) (now : UInt64) (shape : Shape) {endpoint : Endpoint}
    {query : String} {e : QueryError} (h : endpoint.read query = .error e) (state : σ × β) :
    (s.respond now ⟨shape, endpoint⟩ query).Yields state (.error (.ofQuery e)) := by
  cases endpoint with
  | nodes | gateways =>
    exact .refused h fun f _ h => .refused h fun _ _ h => .refused h fun _ _ h => nomatch h
  | farms | twins => exact .refused h fun f _ h => .refused h fun _ _ h => nomatch h
  | contracts => exact .refused h fun f _ h => .refused h fun _ _ h => .refused h fun _ _ h => nomatch h
  | stats => exact .refused h fun f _ h => .refused h fun _ _ h => nomatch h
  | _ => cases h

/-! ### Queries that are understood -/

/-- A page or figures that are answered, or an internal failure. -/
def EndsWell (w : Work σ β Response) : Prop := Ends (·.status = 200) (·.response.status = 500) w

/-- Checks that are all passed. -/
private theorem EndsWell.passed {r : Except QueryError α} {k : α → Except QueryError δ} {w : α → Work σ β Response}
    {d : δ} (h : (r >>= k) = .ok d) (hw : ∀ a, r = .ok a → k a = .ok d → EndsWell (w a)) :
    EndsWell (checked r >>= w) := by
  cases r with
  | error e' => cases h
  | ok a => exact hw a rfl h

/-- A question that fails for internal reasons only. -/
private theorem EndsWell.consulted {q : Ask σ α} {w : α → Work σ β Response} (hq : FailsInternally q)
    (hw : ∀ a, EndsWell (w a)) : EndsWell (consult q >>= w) := by
  suffices hfirst : Ends (fun _ => True) (·.response.status = 500) (consult q : Work σ β α) from
    hfirst.bind fun a _ => hw a
  rintro ⟨store, script⟩
  have hend := hq store
  change Settles _ _ ((q.run store).1.mapError Failure.ofInventory)
  cases hrun : (q.run store).1 with
  | ok a => trivial
  | error e =>
    rw [hrun] at hend
    cases e with
    | database reason => rfl
    | decode what reason => rfl
    | nodeNotFound => exact hend.elim
    | farmNotFound => exact hend.elim
    | invalidFilter reason => exact hend.elim

private theorem EndsWell.listing (items : List Json) (limit : Limit) (count : UInt64) :
    EndsWell (pure (listing items limit count) : Work σ β Response) := by
  refine Ends.pure ?_
  unfold Http.listing
  split <;> rfl

/-- A route whose query is understood answers, or fails for an internal reason. -/
theorem Service.respond_of_understood {s : Service σ β} (hs : s.inventory.IsSteady) (now : UInt64) (shape : Shape)
    {endpoint : Endpoint} {query : String} (h : endpoint.read query = .ok ())
    (hendpoint : endpoint ∈ queryPaths.map Prod.snd) : EndsWell (s.respond now ⟨shape, endpoint⟩ query) := by
  cases endpoint with
  | nodes | gateways =>
    exact .passed h fun f _ h => .passed h fun _ hvalid h => .passed h fun limit _ _ =>
      .consulted (hs.nodes now _ _ hvalid) fun _ => .listing _ _ _
  | farms => exact .passed h fun f _ h => .passed h fun _ _ _ => .consulted (hs.farms _ _) fun _ => .listing _ _ _
  | twins => exact .passed h fun f _ h => .passed h fun _ _ _ => .consulted (hs.twins _ _) fun _ => .listing _ _ _
  | contracts =>
    exact .passed h fun f _ h => .passed h fun _ hvalid h => .passed h fun limit _ _ =>
      .consulted (hs.contracts _ _ hvalid) fun _ => .listing _ _ _
  | stats =>
    exact .passed h fun f _ h => .passed h fun status hstatus _ =>
      .consulted (hs.counters now f status hstatus) fun _ => .pure rfl
  | index | ping | version | node _ | nodeStatus _ => simp [queryPaths] at hendpoint

private theorem ofPath?_queryPaths {front : String} (hfront : front ∈ ["", nestedPath]) {p : String × Endpoint}
    (hp : p ∈ queryPaths) : ∃ shape, Route.ofPath? (front ++ p.1) = some ⟨shape, p.2⟩ := by
  simp only [queryPaths, List.mem_cons, List.not_mem_nil, or_false] at hfront hp
  rcases hfront with rfl | rfl
  · refine ⟨.flat, ?_⟩
    rcases hp with rfl | rfl | rfl | rfl | rfl | rfl <;> decide +kernel
  · refine ⟨.nested, ?_⟩
    rcases hp with rfl | rfl | rfl | rfl | rfl | rfl <;> decide +kernel

private theorem Service.serve_of_refused (s : Service σ β) (now : UInt64) {target : Target} {route : Route}
    (hroute : Route.ofPath? target.path = some route) {e : QueryError} (h : route.endpoint.read target.query = .error e)
    (state : σ × β) : s.serve now { target := target } state = ((Failure.ofQuery e).response.permitted, state) :=
  s.serve_of_run none hroute (s.respond_of_refused now route.shape h state)

private theorem Service.status_of_understood {s : Service σ β} (hs : s.inventory.IsSteady) (now : UInt64)
    {target : Target}
    {route : Route} (hroute : Route.ofPath? target.path = some route) (h : route.endpoint.read target.query = .ok ())
    (hendpoint : route.endpoint ∈ queryPaths.map Prod.snd) (state : σ × β) :
    (s.serve now { target := target } state).1.status ∈ [200, 500] := by
  have hends := Service.respond_of_understood hs now route.shape h hendpoint state
  rcases hrun : (s.respond now route target.query).run state with ⟨r, after⟩
  have hserve := s.serve_of_run none hroute hrun
  rw [hrun] at hends
  rw [hserve, List.mem_pair]
  cases r with
  | ok response => exact .inl hends
  | error e => exact .inr hends

/-- Whatever the store, a query is refused just when the filter of the route, its words or the limit cannot be read
from it.  The response then tells the first thing that is wrong, and nothing is asked, sent or written.  All other
failures are internal.  Where a key comes more than once, its word is that of the last pair. -/
theorem bad_queries_are_refused {inv : Inventory σ} (hinv : IsStore inv) (bus : Option (Bus β)) (timeout : Nat)
    (version : String) (now : UInt64) :
    ∀ front ∈ ["", nestedPath], ∀ p ∈ queryPaths, ∀ (query : String) (state : σ × β),
      let s : Service σ β := ⟨inv, bus, timeout, version⟩
      let request : Request := { target := ⟨front ++ p.1, query⟩ }
      ((s.serve now request state).1.status = 400 ↔ ∃ e, p.2.read query = .error e) ∧
      (∀ e, p.2.read query = .error e →
        p.2.fault? (decodePairs query) = some e ∧
        s.serve now request state = ((Response.json 400 (.obj [("error", .str e.message)])).permitted, state) ∧
        ∀ notes, (s.noting.serve now request notes).2 = notes) ∧
      (p.2.read query = .ok () → (s.serve now request state).1.status ∈ [200, 500]) := by
  intro front hfront p hp query state s request
  obtain ⟨shape, hroute⟩ : ∃ shape, Route.ofPath? request.target.path = some ⟨shape, p.2⟩ :=
    ofPath?_queryPaths hfront hp
  have hrefused (e : QueryError) (h : p.2.read query = .error e) :
      s.serve now request state = ((Response.json 400 (.obj [("error", .str e.message)])).permitted, state) :=
    s.serve_of_refused now hroute h state
  have hunderstood (h : p.2.read query = .ok ()) : (s.serve now request state).1.status ∈ [200, 500] :=
    Service.status_of_understood hinv.isSteady now hroute h (List.mem_map_of_mem hp) state
  refine ⟨⟨fun hstatus => ?_, ?_⟩, fun e h => ⟨?_, hrefused e h, fun notes => ?_⟩, hunderstood⟩
  · cases h : p.2.read query with
    | error e => exact ⟨e, rfl⟩
    | ok _ =>
      have hother := hunderstood h
      rw [hstatus] at hother
      simp at hother
  · rintro ⟨e, h⟩
    rw [hrefused e h]
    rfl
  · rw [← Endpoint.refusal?_read, h]
    rfl
  · exact congrArg Prod.snd (s.noting.serve_of_refused now hroute h notes)

/-- A status that is none is refused before a size of zero is, and no statement is sent. -/
theorem unknown_status_is_refused :
    IsStore (Sql.inventory id) ∧ nestedPath ∈ ["", nestedPath] ∧ ("/gateways", .gateways) ∈ queryPaths ∧
    Endpoint.gateways.read "size=0&status=old" = .error (.invalidChoice "status" "old" "up, down") ∧
    (Service.mk (Sql.inventory id) (none : Option (Bus Unit)) 30000 "1.0").serve 9
        { target := ⟨nestedPath ++ "/gateways", "size=0&status=old"⟩ } ({}, ()) =
      ((Response.json 400 (.obj [("error",
        .str (QueryError.invalidChoice "status" "old" "up, down").message)])).permitted, ({}, ())) := by
  have hstore : IsStore (Sql.inventory id) := .database id
  have hfront : nestedPath ∈ ["", nestedPath] := by simp
  have hpath : ("/gateways", Endpoint.gateways) ∈ queryPaths := by simp [queryPaths]
  have hread : Endpoint.gateways.read "size=0&status=old" = .error (.invalidChoice "status" "old" "up, down") := by
    rw [← refusal?_eq_some_iff, Endpoint.refusal?_read]
    decide +kernel
  obtain ⟨-, hrefused, -⟩ := bad_queries_are_refused hstore (none : Option (Bus Unit)) 30000 "1.0" 9 _ hfront _ hpath
    "size=0&status=old" ({}, ())
  exact ⟨hstore, hfront, hpath, hread, (hrefused _ hread).2.1⟩

/-- Of two words for one key that are both unknown, it is not the first one that the response tells. -/
theorem first_word_is_not_told :
    decodePairs "status=a&status=b" = [("status", "a"), ("status", "b")] ∧
    Status.ofName? "a" = none ∧ Status.ofName? "b" = none ∧
    ((Grid.service (β := Unit) {} "1.0" 30000).serve 9 { target := ⟨"/nodes", "status=a&status=b"⟩ } ([], ())).1 =
      (Response.json 400 (.obj [("error",
        .str (QueryError.invalidChoice "status" "b" "up, down").message)])).permitted ∧
    (QueryError.invalidChoice "status" "b" "up, down").message ≠
      (QueryError.invalidChoice "status" "a" "up, down").message := by
  have hread : Endpoint.nodes.read "status=a&status=b" = .error (.invalidChoice "status" "b" "up, down") := by
    rw [← refusal?_eq_some_iff, Endpoint.refusal?_read]
    decide +kernel
  have hroute : Route.ofPath? (Target.mk "/nodes" "status=a&status=b").path = some ⟨.flat, .nodes⟩ := by decide +kernel
  refine ⟨by decide +kernel, by decide, by decide, ?_, by decide +kernel⟩
  exact congrArg Prod.fst (Service.serve_of_refused _ 9 hroute hread _)

end Http

end GridGateway
