import GridGateway.Client.Remote
import GridGateway.Proofs.Grid.Answers
import GridGateway.Proofs.Http.OverGrid
import GridGateway.Proofs.Http.Paths

/-!
# A client of a grid

A client that calls the gateway of a grid gets the answers of the grid itself. `Grid.reply` says what they are:
refused queries and unknown nodes are reported with their texts, and everything else is what the grid answers when
it is asked directly.
-/

namespace GridGateway

open Http Query
open Telemetry (Records)

/-- The link to a service at the time `now`. The target of a request travels as text. -/
def Http.Service.link {σ β : Type} (s : Service σ β) (now : UInt64) : Link (σ × β) := ⟨fun r state =>
  let (response, state) := s.serve now { r with target := Target.ofText r.target.text } state
  ({ response := some response }, state)⟩

namespace Client

/-- A refused query as a client is told. -/
def ClientError.ofQuery (e : QueryError) : ClientError := .status 400 e.message

/-- An error of the inventory as a client is told. -/
def ClientError.ofInventory : InventoryError → ClientError
  | .nodeNotFound => .status 404 "node not found"
  | .farmNotFound => .status 404 "farm not found"
  | .invalidFilter reason => .ofQuery reason
  | .database reason => .status 500 ("database error: " ++ reason.message)
  | .decode what reason => .status 500 ("malformed " ++ what ++ " in database row: " ++ reason)

end Client

open Client (Call ClientError)

/-- What a grid itself answers to a question, for a client. -/
def Grid.told {α : Type} (records : Records) (q : Ask Records α) : Except ClientError α :=
  (Grid.asked records q).mapError .ofInventory

/-- The detail of a node of a grid. -/
def Grid.detail (g : Grid) (now : UInt64) (records : Records) (nodeId : UInt32) :
    Except ClientError (NodeDetail Node) := do
  let node ← Grid.told records ((Grid.inventory g).node now nodeId)
  let known := records.selfDescription nodeId
  return ⟨node, known.1, known.2⟩

/-- What a grid itself answers to a call at the time `now`. -/
def Grid.reply (g : Grid) (version : String) (now : UInt64) (records : Records) :
    {α : Type} → Call α → Except ClientError α
  | _, .ping => return ()
  | _, .version => return ⟨version⟩
  | _, .nodes f l => do
    let _ ← f.validate.mapError .ofQuery
    let _ ← l.check.mapError .ofQuery
    Grid.told records ((Grid.inventory g).nodes now f l.withCount)
  | _, .gateways f l => do
    let _ ← f.validate.mapError .ofQuery
    let _ ← l.check.mapError .ofQuery
    Grid.told records ((Grid.inventory g).nodes now { f with domain := some true, ipv4 := some true } l.withCount)
  | _, .node nodeId => g.detail now records nodeId
  | _, .gateway nodeId => g.detail now records nodeId
  | _, .nodeStatus nodeId => do
    let node ← Grid.told records ((Grid.inventory g).node now nodeId)
    return ⟨node.status⟩
  | _, .farms f l => do
    let _ ← l.check.mapError .ofQuery
    Grid.told records ((Grid.inventory g).farms f l)
  | _, .twins f l => do
    let _ ← l.check.mapError .ofQuery
    Grid.told records ((Grid.inventory g).twins f l)
  | _, .contracts f l => do
    let _ ← f.validate.mapError .ofQuery
    let _ ← l.check.mapError .ofQuery
    Grid.told records ((Grid.inventory g).contracts f l)
  | _, .counters f => do
    let _ ← f.wantedStatus.mapError .ofQuery
    Grid.told records ((Grid.inventory g).counters now f)

namespace Client

/-! ### Paths of the calls -/

/-- The segments of the path of a call. -/
private def parts : {α : Type} → Call α → List String
  | _, .ping => ["ping"]
  | _, .version => ["version"]
  | _, .nodes _ _ => ["nodes"]
  | _, .gateways _ _ => ["gateways"]
  | _, .node id => ["nodes", Text.decimal id.toNat]
  | _, .gateway id => ["gateways", Text.decimal id.toNat]
  | _, .nodeStatus id => ["nodes", Text.decimal id.toNat, "status"]
  | _, .farms _ _ => ["farms"]
  | _, .twins _ _ => ["twins"]
  | _, .contracts _ _ => ["contracts"]
  | _, .counters _ => ["stats"]

/-- The endpoint that a call is for. -/
def Call.endpoint : {α : Type} → Call α → Endpoint
  | _, .ping => .ping
  | _, .version => .version
  | _, .nodes _ _ => .nodes
  | _, .gateways _ _ => .gateways
  | _, .node id => .node (Text.decimal id.toNat)
  | _, .gateway id => .node (Text.decimal id.toNat)
  | _, .nodeStatus id => .nodeStatus (Text.decimal id.toNat)
  | _, .farms _ _ => .farms
  | _, .twins _ _ => .twins
  | _, .contracts _ _ => .contracts
  | _, .counters _ => .stats

private theorem nodePath_eq_joinSegments (listing : String) (id : UInt32) :
    Call.nodePath listing id = joinSegments [listing, Text.decimal id.toNat] := by
  simp [Call.nodePath, joinSegments, String.append_assoc]

private theorem path_eq_joinSegments {α : Type} (c : Call α) : c.path = joinSegments (parts c) := by
  cases c with
  | node id => exact nodePath_eq_joinSegments "nodes" id
  | gateway id => exact nodePath_eq_joinSegments "gateways" id
  | nodeStatus id =>
    rw [Call.path, nodePath_eq_joinSegments]
    simp [parts, joinSegments, String.append_assoc]
  | _ => simp [Call.path, parts, joinSegments]

/-- The segments of a path are letters and digits. -/
private theorem parts_plain {α : Type} (c : Call α) :
    ∀ part ∈ parts c, part.toList.all Text.isUnreservedChar = true := by
  have hdecimal (n : Nat) : (Text.decimal n).toList.all Text.isUnreservedChar = true :=
    List.all_eq_true.mpr (Text.unreserved_decimal n)
  cases c with
  | node id => exact List.forall_mem_cons.mpr ⟨by decide, List.forall_mem_singleton.mpr (hdecimal _)⟩
  | gateway id => exact List.forall_mem_cons.mpr ⟨by decide, List.forall_mem_singleton.mpr (hdecimal _)⟩
  | nodeStatus id =>
    have hrest : ∀ part ∈ [Text.decimal id.toNat, "status"], part.toList.all Text.isUnreservedChar = true :=
      List.forall_mem_cons.mpr ⟨hdecimal _, List.forall_mem_singleton.mpr (by decide)⟩
    exact List.forall_mem_cons.mpr ⟨by decide, hrest⟩
  | _ => exact List.forall_mem_singleton.mpr (by decide)

private theorem not_mem_part {ch : Char} (hch : Text.isUnreservedChar ch = false) {part : String}
    (hpart : part.toList.all Text.isUnreservedChar = true) : ch ∉ part.toList := by
  intro h
  rw [List.all_eq_true.mp hpart ch h] at hch
  cases hch

/-- The path of a call is routed to the endpoint of the call. -/
private theorem ofPath?_path {α : Type} (c : Call α) : Route.ofPath? c.path = some ⟨.flat, c.endpoint⟩ := by
  have hsegments : segments c.path = parts c := by
    rw [path_eq_joinSegments]
    exact segments_joinSegments fun part hpart => not_mem_part (by decide) (parts_plain c part hpart)
  rw [Route.ofPath?, hsegments]
  cases c with
  | node id => simp [parts, Endpoint.ofSegments?, Call.endpoint, Text.decimal_ne_empty]
  | gateway id => simp [parts, Endpoint.ofSegments?, Call.endpoint, Text.decimal_ne_empty]
  | nodeStatus id => simp [parts, Endpoint.ofSegments?, Call.endpoint]
  | _ => simp [parts, Endpoint.ofSegments?, Call.endpoint]

/-- The keys of the pairs that a call sends need no escapes. -/
private theorem queryPairs_plain {α : Type} (c : Call α) :
    ∀ pair ∈ c.queryPairs, ∀ ch ∈ pair.1.toList, Text.isUnreservedChar ch = true := by
  cases c with
  | nodes f l => exact Params.plain_of_mem_pairs NodeFilter.table f l
  | gateways f l => exact Params.plain_of_mem_pairs NodeFilter.table f l
  | farms f l => exact Params.plain_of_mem_pairs FarmFilter.table f l
  | twins f l => exact Params.plain_of_mem_pairs TwinFilter.table f l
  | contracts f l => exact Params.plain_of_mem_pairs ContractFilter.table f l
  | counters f =>
    exact fun pair hpair => Params.plain_of_mem_pairs StatsFilter.table f {} pair (List.mem_append_left _ hpair)
  | _ => exact fun _ h => nomatch h

/-- The target of a call survives being sent as text. -/
private theorem target_of_text {α : Type} (c : Call α) {base : BaseUrl} (hroot : base.path = "") :
    Target.ofText (c.request base).target.text = ⟨c.path, c.query⟩ := by
  have htarget : (c.request base).target = ⟨c.path, c.query⟩ := by
    rw [Call.request, BaseUrl.target, hroot, String.empty_append]
  have hmark {ch : Char} (hch : Text.isUnreservedChar ch = false) (hslash : ch ≠ '/') : ch ∉ c.path.toList := by
    intro h
    rw [path_eq_joinSegments] at h
    rcases mem_joinSegments h with h | ⟨part, hpart, h⟩
    · exact hslash h
    · exact not_mem_part hch (parts_plain c part hpart) h
  have hne : c.path ≠ "" := by
    cases c <;> simp [Call.path, Call.nodePath]
  have hquestion : '?' ∉ c.path.toList := hmark (by decide) (by decide)
  have hhash : '#' ∉ c.path.toList := hmark (by decide) (by decide)
  rw [htarget]
  refine Target.ofText_text hne hquestion hhash ?_
  intro h
  rcases mem_encodePairs (queryPairs_plain c) h with h | h | h | h
  · cases h
  · cases h
  · cases h
  · exact absurd h (by decide)

/-! ### Outcomes -/

/-- The response to a request with this result. -/
def responseTo : Except Failure Response → Response
  | .ok response => response
  | .error e => e.response

/-- What a client makes of the result of a request at the gateway. -/
def Call.outcome {α : Type} (c : Call α) (r : Except Failure Response) : Except ClientError α :=
  c.answer (responseTo r).permitted

/-- A call goes through the link to a service as the service responds to it. -/
private theorem perform_of_yields {σ β α : Type} {s : Service σ β} {now : UInt64} {base : BaseUrl}
    (husable : base.isUsable = true) (hroot : base.path = "") (c : Call α) {state : σ × β}
    {r : Except Failure Response} (h : (s.respond now ⟨.flat, c.endpoint⟩ c.query).Yields state r) :
    (remote base (s.link now)).perform c state = ((0, c.outcome r), state) := by
  have hrun : (s.respond now ⟨.flat, c.endpoint⟩ c.query).run state = (r, state) := h
  have hget : s.get now ⟨.flat, c.endpoint⟩ c.query state = (responseTo r, state) := by
    simp only [Service.get, bind, StateT.bind, hrun]
    cases r <;> rfl
  have hserve : s.serve now { c.request base with target := Target.ofText (c.request base).target.text } state =
      ((responseTo r).permitted, state) := by
    rw [target_of_text c hroot]
    exact Service.serve_of_get rfl (ofPath?_path c) hget
  simp only [remote, husable, ↓reduceIte]
  change StateT.bind ((s.link now).send (c.request base)) _ state = _
  simp only [StateT.bind, Service.link, hserve]
  rfl

/-- The document of an error is read back as its message. -/
private theorem errorMessage_errorJson (message : String) :
    errorMessage (Body.json (Failure.errorJson message)).content = message := by
  have hread : ((Json.Record.pure id |>.required "error" .string).decoder "ErrorBody").Reads 1
      (Failure.errorJson message) message :=
    (Json.Record.Reads.pure id |>.required (.string message)).decoder (by simp)
  rw [errorMessage, Body.content]
  simp only [hread.ofText (by decide)]

/-- What a client makes of a failure whose message comes as a document. -/
private theorem outcome_error {α : Type} (c : Call α) {e : Failure} {code : Nat} {message : String}
    (he : e.response = .json code (Failure.errorJson message)) (hcode : (200 ≤ code && code < 300) = false) :
    c.outcome (.error e) = .error (.status code message) := by
  have hsuccess : e.response.permitted.isSuccess = false := by rw [he]; exact hcode
  have hmessage : errorMessage e.response.permitted.body.content = message := by
    rw [he]
    exact errorMessage_errorJson message
  simp only [Call.outcome, responseTo, Call.answer, hsuccess, Bool.false_eq_true, ↓reduceIte, hmessage]
  rw [he]
  rfl

/-- A refused query ends a request, and any other goes on. -/
private theorem outcome_checked {α β : Type} (c : Call α) (r : Except QueryError β)
    (k : β → Except Failure Response) :
    c.outcome (r.mapError .ofQuery >>= k) = r.mapError .ofQuery >>= fun b => c.outcome (k b) := by
  cases r with
  | ok b => rfl
  | error e => exact outcome_error c (e := .badRequest e.message) rfl (by decide)

/-- An error of the inventory ends a request, and any other goes on. -/
private theorem outcome_told {α β : Type} (c : Call α) (records : Records) (q : Ask Records β)
    (k : β → Except Failure Response) :
    c.outcome ((Grid.asked records q).mapError .ofInventory >>= k) =
      Grid.told records q >>= fun b => c.outcome (k b) := by
  rw [Grid.told]
  cases Grid.asked records q with
  | ok b => rfl
  | error e =>
    cases e with
    | nodeNotFound => exact outcome_error c (e := .notFound _) rfl (by decide)
    | farmNotFound => exact outcome_error c (e := .notFound _) rfl (by decide)
    | invalidFilter reason => exact outcome_error c (e := .badRequest _) rfl (by decide)
    | database reason => exact outcome_error c (e := .internal _) rfl (by decide)
    | decode what reason => exact outcome_error c (e := .internal _) rfl (by decide)

/-- A document that is read back is the answer. -/
private theorem outcome_document {α : Type} (c : Call α) {dec : Json.Decoder α} {v : Json} {a : α}
    (hc : ∀ count body, c.read count body = readBody dec body) (levels : Nat) (h : dec.Reads levels v a)
    (hlevels : levels < Json.depthLimit) : c.outcome (.ok (.json 200 v)) = .ok a := by
  change c.read _ v.text = _
  rw [hc, readBody, h.ofText hlevels]
  rfl

/-- A page whose items are read back is the answer, together with the number of matches if that is told. -/
private theorem outcome_listing {α : Type} (c : Call (List α × UInt64)) {dec : Json.Decoder α} {write : α → Json}
    {items : List α} {l : Limit} {count : UInt64}
    (hc : ∀ count body, c.read count body = readBody (pageOf dec count) body) (levels : Nat)
    (h : ∀ x ∈ items, dec.Reads levels (write x) x) (hlevels : levels + 1 < Json.depthLimit)
    (hcount : l.retCount = false → count = 0) :
    c.outcome (.ok (listing (items.map write) l count)) = .ok (items, count) := by
  have hpage : (pageOf dec count).Reads (levels + 1) (Json.list write items) (items, count) :=
    (Json.Decoder.Reads.list h).map _
  have hanswer {r : Response} (hbody : r.body = .json (Json.list write items)) (hsuccess : r.isSuccess = true)
      (hmatches : Response.matches r = count) : c.answer r = .ok (items, count) := by
    rw [Call.answer, if_pos hsuccess, hmatches, hc, hbody, Body.content, readBody, hpage.ofText hlevels]
    rfl
  rw [Call.outcome, responseTo, listing]
  split
  · refine hanswer rfl rfl ?_
    change (Text.uint64? (Text.decimal count.toNat)).getD 0 = count
    rw [Text.uint64?_decimal]
    rfl
  · next hret => exact hanswer rfl rfl (hcount (Bool.eq_false_iff.mpr hret)).symm

private theorem outcome_ping : Call.ping.outcome (.ok (.json 200 (.obj [("ping", .str "pong")]))) = .ok () := by
  have hpong : pong.Reads 1 (.obj [("ping", .str "pong")]) "pong" :=
    (Json.Record.Reads.pure id |>.required (.string "pong")).decoder (by simp)
  have hread : readBody pong (Json.obj [("ping", .str "pong")]).text = .ok "pong" := by
    rw [readBody, hpong.ofText (by decide)]
    rfl
  change (do
    let reply ← readBody pong (Json.obj [("ping", .str "pong")]).text
    if reply = "pong" then return () else throw _) = _
  rw [hread]
  rfl

/-- The rest of a request changes nothing when it gives back what came before. -/
private theorem bind_eq_self {ε α : Type} {x : Except ε α} {k : α → Except ε α} (h : ∀ a, x = .ok a → k a = .ok a) :
    x >>= k = x := by
  cases x with
  | error e => rfl
  | ok a => exact h a rfl

private theorem told_eq_ok {α : Type} {records : Records} {q : Ask Records α} {a : α}
    (h : Grid.told records q = .ok a) : Grid.asked records q = .ok a := by
  rw [Grid.told] at h
  cases hq : Grid.asked records q with
  | error e => rw [hq] at h; cases h
  | ok b => rw [hq] at h; cases h; rfl

section Calls

variable {β : Type} (g : Grid) (version : String) (timeout : Nat) (records : Records) (script : β) (now : UInt64)

/-- The result of a page is what the grid tells, if its items are read back and there is no count unless one is
told. -/
private theorem outcome_page {α : Type} (c : Call (List α × UInt64)) {q : Ask Records (List α × UInt64)}
    {l shown : Limit} {dec : Json.Decoder α} {write : α → Json}
    (hc : ∀ count body, c.read count body = readBody (pageOf dec count) body)
    (levels : Nat) (hlevels : levels + 1 < Json.depthLimit)
    (hpage : ∀ page, Grid.asked records q = .ok page →
      (∀ x ∈ page.1, dec.Reads levels (write x) x) ∧ (shown.retCount = false → page.2 = 0)) :
    c.outcome (do
      let _ ← l.check.mapError .ofQuery
      let page ← (Grid.asked records q).mapError .ofInventory
      .ok (listing (page.1.map write) shown page.2)) = (do
      let _ ← l.check.mapError .ofQuery
      Grid.told records q) := by
  rw [outcome_checked]
  refine bind_congr fun _ => ?_
  rw [outcome_told]
  refine bind_eq_self fun page htold => ?_
  obtain ⟨hitems, hcount⟩ := hpage page (told_eq_ok htold)
  exact outcome_listing c hc levels hitems hlevels hcount

/-- The result of a page of nodes is what the grid tells. -/
private theorem outcome_nodes (c : Call (List Node × UInt64)) (f : NodeFilter) (l : Limit)
    (hc : ∀ count body, c.read count body = readBody (pageOf Node.decoder count) body) :
    c.outcome (do
      let _ ← f.validate.mapError .ofQuery
      let _ ← l.check.mapError .ofQuery
      let page ← (Grid.asked records ((Grid.inventory g).nodes now f l.withCount)).mapError .ofInventory
      .ok (listing (page.1.map Shape.flat.node) l.withCount page.2)) = (do
      let _ ← f.validate.mapError .ofQuery
      let _ ← l.check.mapError .ofQuery
      Grid.told records ((Grid.inventory g).nodes now f l.withCount)) := by
  rw [outcome_checked]
  refine bind_congr fun _ => ?_
  refine outcome_page records c hc 2 (by decide) fun page hpage => ⟨fun n hn => ?_, fun h => nomatch h⟩
  exact Node.reads (g.unmapped_of_listNodes now hpage hn)

/-- The result of the detail of a node is what the grid tells. -/
private theorem outcome_detail (c : Call (NodeDetail Node)) (nodeId : UInt32)
    (hc : ∀ count body, c.read count body = readBody (NodeDetail.decoder Node.record) body) :
    c.outcome (do
      let node ← (Grid.asked records ((Grid.inventory g).node now nodeId)).mapError .ofInventory
      let known := records.selfDescription node.nodeId
      .ok (.json 200 (Shape.flat.detail known.1 known.2 node))) = g.detail now records nodeId := by
  rw [outcome_told, Grid.detail]
  cases htold : Grid.told records ((Grid.inventory g).node now nodeId) with
  | error e => rfl
  | ok node =>
    have hfind : g.findNode now nodeId = .ok node := told_eq_ok htold
    obtain ⟨hid, hplace⟩ := g.nodeId_of_findNode now hfind
    subst hid
    exact outcome_document c hc 2 (NodeDetail.reads hplace) (by decide)

private theorem outcome_nodeStatus (nodeId : UInt32) :
    (Call.nodeStatus nodeId).outcome (do
      let node ← (Grid.asked records ((Grid.inventory g).node now nodeId)).mapError .ofInventory
      .ok (.json 200 (NodeStatus.mk node.status).toJson)) = g.reply version now records (.nodeStatus nodeId) := by
  rw [outcome_told, Grid.reply]
  refine bind_congr fun node => ?_
  exact outcome_document (Call.nodeStatus nodeId) (fun _ _ => rfl) 1 (NodeStatus.reads _) (by decide)

private theorem outcome_farms (f : FarmFilter) (l : Limit) :
    (Call.farms f l).outcome (do
      let _ ← l.check.mapError .ofQuery
      let page ← (Grid.asked records ((Grid.inventory g).farms f l)).mapError .ofInventory
      .ok (listing (page.1.map Farm.toJson) l page.2)) = g.reply version now records (.farms f l) := by
  refine outcome_page records _ (fun _ _ => rfl) 3 (by decide) fun page hpage => ?_
  cases hpage
  exact ⟨fun farm _ => farm.reads, fun h => Grid.count_cut _ h⟩

private theorem outcome_twins (f : TwinFilter) (l : Limit) :
    (Call.twins f l).outcome (do
      let _ ← l.check.mapError .ofQuery
      let page ← (Grid.asked records ((Grid.inventory g).twins f l)).mapError .ofInventory
      .ok (listing (page.1.map Twin.toJson) l page.2)) = g.reply version now records (.twins f l) := by
  refine outcome_page records _ (fun _ _ => rfl) 1 (by decide) fun page hpage => ?_
  cases hpage
  exact ⟨fun twin _ => twin.reads, fun h => Grid.count_cut _ h⟩

private theorem outcome_contracts (f : ContractFilter) (l : Limit) :
    (Call.contracts f l).outcome (do
      let _ ← f.validate.mapError .ofQuery
      let _ ← l.check.mapError .ofQuery
      let page ← (Grid.asked records ((Grid.inventory g).contracts f l)).mapError .ofInventory
      .ok (listing (page.1.map Contract.toJson) l page.2)) = g.reply version now records (.contracts f l) := by
  rw [outcome_checked, Grid.reply]
  refine bind_congr fun _ => ?_
  refine outcome_page records _ (fun _ _ => rfl) 3 (by decide) fun page hpage => ?_
  exact ⟨fun contract _ => contract.reads, fun h => g.count_listContracts hpage h⟩

private theorem outcome_counters (f : StatsFilter) :
    (Call.counters f).outcome (do
      let _ ← f.wantedStatus.mapError .ofQuery
      let counters ← (Grid.asked records ((Grid.inventory g).counters now f)).mapError .ofInventory
      .ok (.json 200 counters.toJson)) = g.reply version now records (.counters f) := by
  rw [outcome_checked, Grid.reply]
  refine bind_congr fun _ => ?_
  rw [outcome_told]
  refine bind_eq_self fun counters hcounters => ?_
  exact outcome_document (Call.counters f) (fun _ _ => rfl) 2
    (Counters.reads (g.ascending_of_counters now (told_eq_ok hcounters))) (by decide)

end Calls

/-- A client over the gateway of a grid gets the answers of the grid itself, whatever it calls, and neither the
telemetry nor anything else changes. -/
theorem remote_over_grid {β : Type} {base : BaseUrl} (husable : base.isUsable = true) (hroot : base.path = "")
    (g : Grid) (version : String) (timeout : Nat) (now : UInt64) (records : Records) (script : β) {α : Type}
    (c : Call α) :
    (remote base ((g.service version timeout).link now)).perform c (records, script) =
      ((0, g.reply version now records c), (records, script)) := by
  have hperform {r : Except Failure Response}
      (h : ((g.service version timeout).respond now ⟨.flat, c.endpoint⟩ c.query).Yields (records, script) r)
      (hr : c.outcome r = g.reply version now records c) :
      (remote base ((g.service version timeout).link now)).perform c (records, script) =
        ((0, g.reply version now records c), (records, script)) := by
    rw [perform_of_yields husable hroot c h, hr]
  cases c with
  | ping => exact hperform (.pure _) outcome_ping
  | version =>
    exact hperform (.pure _) (outcome_document Call.version (fun _ _ => rfl) 1 (Version.reads _) (by decide))
  | nodes f l =>
    have hf := Params.ofQuery_filter NodeFilter.table (by decide) f l
    have hl := Params.ofQuery_limit NodeFilter.table (by decide) f l
    exact hperform (.filter hf (Service.listNodes_yields g version timeout records script now .flat f hl))
      (outcome_nodes g records now (.nodes f l) f l fun _ _ => rfl)
  | gateways f l =>
    have hf := Params.ofQuery_filter NodeFilter.table (by decide) f l
    have hl := Params.ofQuery_limit NodeFilter.table (by decide) f l
    exact hperform (.filter hf (Service.listNodes_yields g version timeout records script now .flat _ hl))
      (outcome_nodes g records now (.gateways f l) _ l fun _ _ => rfl)
  | node id =>
    exact hperform (Service.nodeDetail_yields g version timeout records script now .flat id)
      (outcome_detail g records now _ id fun _ _ => rfl)
  | gateway id =>
    exact hperform (Service.nodeDetail_yields g version timeout records script now .flat id)
      (outcome_detail g records now _ id fun _ _ => rfl)
  | nodeStatus id =>
    exact hperform (Service.nodeStatus_yields g version timeout records script now id)
      (outcome_nodeStatus g version records now id)
  | farms f l =>
    have hf := Params.ofQuery_filter FarmFilter.table (by decide) f l
    have hl := Params.ofQuery_limit FarmFilter.table (by decide) f l
    exact hperform (Service.listFarms_yields g version timeout records script f hf hl)
      (outcome_farms g version records now f l)
  | twins f l =>
    have hf := Params.ofQuery_filter TwinFilter.table (by decide) f l
    have hl := Params.ofQuery_limit TwinFilter.table (by decide) f l
    exact hperform (Service.listTwins_yields g version timeout records script f hf hl)
      (outcome_twins g version records now f l)
  | contracts f l =>
    have hf := Params.ofQuery_filter ContractFilter.table (by decide) f l
    have hl := Params.ofQuery_limit ContractFilter.table (by decide) f l
    exact hperform (Service.listContracts_yields g version timeout records script f hf hl)
      (outcome_contracts g version records now f l)
  | counters f =>
    have hf := Params.ofQuery_toQuery StatsFilter.table f
    exact hperform (Service.statistics_yields g version timeout records script now f hf)
      (outcome_counters g version records now f)

/-- The status of a node that has just reported, asked for at a gateway on this machine. -/
theorem status_over_grid :
    (BaseUrl.ofText "http://localhost:8080/").isUsable = true ∧ (BaseUrl.ofText "http://localhost:8080/").path = "" ∧
    (remote (BaseUrl.ofText "http://localhost:8080/")
      ((Grid.service { nodes := [{ nodeId := 7, updatedAt := 100 }] } "1.0" 30000).link 100)).perform (.nodeStatus 7)
      (([] : Records), ()) = ((0, .ok ⟨.up⟩), ([], ())) :=
  have husable : (BaseUrl.ofText "http://localhost:8080/").isUsable = true := by decide
  have hroot : (BaseUrl.ofText "http://localhost:8080/").path = "" := by decide
  ⟨husable, hroot, remote_over_grid husable hroot _ "1.0" 30000 100 [] () (.nodeStatus 7)⟩

end Client

end GridGateway
