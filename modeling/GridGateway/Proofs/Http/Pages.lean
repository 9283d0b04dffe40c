import GridGateway.Proofs.Grid.Pages
import GridGateway.Proofs.Http.OverGrid

/-!
# Listings over HTTP

A response to a request for a listing shows a page of it (`Response.ShowsPage`): the documents at exact positions, and
headers that tell how long the listing is and how many pages it has.  Listings of nodes and gateways always have these
headers, all others when they are asked for.  `pages_tile_listings` puts this together with what a page is when the
grid itself is asked.
-/

namespace GridGateway

open Query Telemetry

namespace Http

variable {σ β : Type}

/-- A response with a page of a listing.  The headers are there when the figures about the listing are told. -/
structure Response.ShowsPage (r : Response) (T : List Json) (page size : UInt64) (told : Bool) : Prop where
  success : r.status = 200
  documents : r.body = .json (.arr (T.extract ((page.toNat - 1) * size.toNat) (page.toNat * size.toNat)))
  countTold : r.header? "count" = if told then some (Text.decimal T.length) else none
  sizeTold : r.header? "size" = if told then some (Text.decimal size.toNat) else none
  pagesTold : r.header? "pages" = if told then some (Text.decimal (T.length ⌈/⌉ size.toNat)) else none

/-- Every `GET` to an endpoint shows a page of a listing, provided that a filter and a limit are read from its query.
In which form the documents come depends on the path, and whether the figures are told on the limit. -/
def Service.ShowsPages {F : Type} [Params F] (s : Service σ β) (now : UInt64) (state : σ × β) (endpoint : Endpoint)
    (f : F) (T : Shape → List Json) (told : Limit → Bool) : Prop :=
  ∀ (path query : String) (shape : Shape) (l : Limit), Route.ofPath? path = some ⟨shape, endpoint⟩ →
    Params.ofQuery query = .ok f → Params.ofQuery query = .ok l →
    ∃ r : Response, s.serve now { target := ⟨path, query⟩ } state = (r, state) ∧
      r.ShowsPage (T shape) l.page l.size (told l)

/-- The response with a page that is cut from a listing shows that page. -/
private theorem showsPage_listing {α : Type} (write : α → Json) {T : List α} (hT : T.length < UInt64.size) {l : Limit}
    (hl : l.IsPositive) :
    (listing ((Grid.cut l T).1.map write) l (Grid.cut l T).2).permitted.ShowsPage (T.map write) l.page l.size
      l.retCount := by
  have hpage : 1 ≤ l.page.toNat := UInt64.le_iff_toNat_le.1 hl.1
  have hsize : 1 ≤ l.size.toNat := UInt64.le_iff_toNat_le.1 hl.2
  have hbody : (Grid.cut l T).1.map write =
      (T.map write).extract ((l.page.toNat - 1) * l.size.toNat) (l.page.toNat * l.size.toNat) := by
    rw [Grid.cut_eq_extract hT hpage, List.extract_eq_take_drop, List.extract_eq_take_drop, List.map_take,
      List.map_drop]
  have hlength : (UInt64.ofNat T.length).toNat = (T.map write).length := by
    rw [List.length_map]
    exact UInt64.toNat_ofNat_of_lt' hT
  have hpages : (l.pages (.ofNat T.length)).toNat = (T.map write).length ⌈/⌉ l.size.toNat := by
    rw [Limit.pages_toNat hsize, hlength, Nat.ceilDiv_eq_add_pred_div]
  have hcount : (Grid.cut l T).2 = if l.retCount then .ofNat T.length else 0 := rfl
  rw [hbody, hcount, listing]
  cases l.retCount with
  | true =>
    exact ⟨rfl, rfl, congrArg (fun n => some (Text.decimal n)) hlength, rfl,
      congrArg (fun n => some (Text.decimal n)) hpages⟩
  | false => exact ⟨rfl, rfl, rfl, rfl, rfl⟩

/-- An endpoint whose work comes to pages that are cut from a listing shows its pages. -/
private theorem Service.showsPages_of_yields {F α : Type} [Params F] {s : Service σ β} {now : UInt64} {state : σ × β}
    {endpoint : Endpoint} {f : F} {T : List α} (write : Shape → α → Json) (told : Limit → Limit)
    (hT : T.length < UInt64.size) (htold : ∀ l, (told l).page = l.page ∧ (told l).size = l.size)
    (h : ∀ query shape l, Params.ofQuery query = .ok f → l.check = .ok () →
      Params.ofQuery query = l.check.map (fun _ => l) →
      (s.respond now ⟨shape, endpoint⟩ query).Yields state
        (.ok (listing ((Grid.cut (told l) T).1.map (write shape)) (told l) (Grid.cut (told l) T).2))) :
    s.ShowsPages now state endpoint f (fun shape => T.map (write shape)) fun l => (told l).retCount := by
  intro path query shape l hroute hf hl
  have hpositive : l.IsPositive := Limit.isPositive_of_ofPairs hl
  have hcheck : l.check = .ok () := l.check_eq_ok_iff.2 hpositive
  obtain ⟨hpage, hsize⟩ := htold l
  refine ⟨_, Service.serve_of_yields hroute (h query shape l hf hcheck ?_), ?_⟩
  · rw [hl, hcheck]
    rfl
  · rw [← hpage, ← hsize]
    exact showsPage_listing (write shape) hT (by rw [Limit.IsPositive, hpage, hsize]; exact hpositive)

/-- A listing of nodes with a valid filter and limit comes to the page, with the figures told. -/
theorem Service.listNodes_yields_page (g : Grid) (version : String) (timeout : Nat) (records : Records) (script : β)
    (now : UInt64) (shape : Shape) {f : NodeFilter} {status : Option Status} (hstatus : f.wantedStatus = .ok status)
    {query : String} {l : Limit} (hcheck : l.check = .ok ())
    (hl : Params.ofQuery query = l.check.map fun _ => l) :
    ((g.service version timeout).listNodes shape now f query).Yields (records, script)
      (.ok (listing ((Grid.cut l.withCount (g.matchingNodes now status f)).1.map shape.node) l.withCount
        (Grid.cut l.withCount (g.matchingNodes now status f)).2)) := by
  have hvalid : f.validate = .ok () := by rw [NodeFilter.validate, hstatus]; rfl
  have hpage : Grid.asked records ((Grid.inventory g).nodes now f l.withCount) =
      .ok (Grid.cut l.withCount (g.matchingNodes now status f)) := g.listNodes_of_status now hstatus _
  have hwork := Service.listNodes_yields g version timeout records script now shape f hl
  rw [hvalid, hcheck, hpage] at hwork
  exact hwork

end Http

namespace Grid

open Http

/-- What is kept of a table that fits into memory fits, too. -/
private theorem length_sortBy_filter {α : Type} {xs : List α} (h : xs.length < UInt64.size) (key : α → Nat)
    (p : α → Bool) : (sortBy key (xs.filter p)).length < UInt64.size := by
  rw [(sortBy_perm _ _).length_eq]
  exact Nat.lt_of_le_of_lt (List.length_filter_le _ _) h

section

variable {g : Grid} (hg : g.FitsMemory) (now : UInt64) (records : Records)
include hg

/-! ### The grid itself -/

private theorem length_matchingNodes (status : Option Status) (f : NodeFilter) :
    (g.matchingNodes now status f).length < UInt64.size :=
  Nat.lt_of_le_of_lt (g.length_matchingNodes_le now status f) hg.nodes

private theorem length_matchingFarms (f : FarmFilter) : (g.matchingFarms f).length < UInt64.size := by
  refine length_sortBy_filter ?_ _ _
  rw [List.length_map]
  exact hg.farms

private theorem length_matchingTwins (f : TwinFilter) : (g.matchingTwins f).length < UInt64.size :=
  length_sortBy_filter hg.twins _ _

private theorem length_matchingContracts (state : Option ContractState) (kind : Option ContractKind)
    (f : ContractFilter) :
    (g.matchingContracts state kind f).length < UInt64.size :=
  length_sortBy_filter hg.contracts _ _

private theorem tiles_nodes {f : NodeFilter} {status : Option Status} (hstatus : f.wantedStatus = .ok status) :
    Tiles (g.matchingNodes now status f) fun l => asked records ((inventory g).nodes now f l) := by
  have hserve : (fun l => asked records ((inventory g).nodes now f l)) =
      fun l => .ok (cut l (g.matchingNodes now status f)) := funext (g.listNodes_of_status now hstatus)
  rw [hserve]
  exact tiles_cut (length_matchingNodes hg now status f)

private theorem tiles_contracts {f : ContractFilter} {state : Option ContractState} {kind : Option ContractKind}
    (hstate : f.wantedState = .ok state) (hkind : f.wantedKind = .ok kind) :
    Tiles (g.matchingContracts state kind f) fun l => asked records ((inventory g).contracts f l) := by
  have hserve : (fun l => asked records ((inventory g).contracts f l)) =
      fun l => .ok (cut l (g.matchingContracts state kind f)) := funext (g.listContracts_of_valid hstate hkind)
  rw [hserve]
  exact tiles_cut (length_matchingContracts hg state kind f)

/-! ### Its service -/

variable {β : Type} (version : String) (timeout : Nat) (script : β)

private theorem showsPages_nodes {f : NodeFilter} {status : Option Status} (hstatus : f.wantedStatus = .ok status) :
    (g.service version timeout).ShowsPages now (records, script) .nodes f
      (fun shape => (g.matchingNodes now status f).map shape.node) fun _ => true := by
  refine Service.showsPages_of_yields Shape.node Limit.withCount (length_matchingNodes hg now status f)
    (fun _ => ⟨rfl, rfl⟩) fun query shape l hf hcheck hl => ?_
  exact .filter hf (Service.listNodes_yields_page g version timeout records script now shape hstatus hcheck hl)

private theorem showsPages_gateways {f : NodeFilter} {status : Option Status} (hstatus : f.wantedStatus = .ok status) :
    (g.service version timeout).ShowsPages now (records, script) .gateways f
      (fun shape => (g.matchingNodes now status { f with domain := some true, ipv4 := some true }).map shape.node)
      fun _ => true := by
  have hshown : ({ f with domain := some true, ipv4 := some true } : NodeFilter).wantedStatus = .ok status := hstatus
  refine Service.showsPages_of_yields Shape.node Limit.withCount (length_matchingNodes hg now status _)
    (fun _ => ⟨rfl, rfl⟩) fun query shape l hf hcheck hl => ?_
  have hwork := Service.listNodes_yields_page g version timeout records script now shape hshown hcheck hl
  exact .filter hf hwork

private theorem showsPages_farms (f : FarmFilter) :
    (g.service version timeout).ShowsPages now (records, script) .farms f
      (fun _ => (g.matchingFarms f).map Farm.toJson) (·.retCount) := by
  refine Service.showsPages_of_yields (fun _ => Farm.toJson) id (length_matchingFarms hg f)
    (fun _ => ⟨rfl, rfl⟩) fun query shape l hf hcheck hl => ?_
  have hwork := Service.listFarms_yields g version timeout records script f hf hl
  rw [hcheck] at hwork
  exact hwork

private theorem showsPages_twins (f : TwinFilter) :
    (g.service version timeout).ShowsPages now (records, script) .twins f
      (fun _ => (g.matchingTwins f).map Twin.toJson) (·.retCount) := by
  refine Service.showsPages_of_yields (fun _ => Twin.toJson) id (length_matchingTwins hg f)
    (fun _ => ⟨rfl, rfl⟩) fun query shape l hf hcheck hl => ?_
  have hwork := Service.listTwins_yields g version timeout records script f hf hl
  rw [hcheck] at hwork
  exact hwork

private theorem showsPages_contracts {f : ContractFilter} {state : Option ContractState} {kind : Option ContractKind}
    (hstate : f.wantedState = .ok state) (hkind : f.wantedKind = .ok kind) :
    (g.service version timeout).ShowsPages now (records, script) .contracts f
      (fun _ => (g.matchingContracts state kind f).map Contract.toJson) (·.retCount) := by
  refine Service.showsPages_of_yields (fun _ => Contract.toJson) id
    (length_matchingContracts hg state kind f) (fun _ => ⟨rfl, rfl⟩) fun query shape l hf hcheck hl => ?_
  have hvalid : f.validate = .ok () := by rw [ContractFilter.validate, hstate, hkind]; rfl
  have hpage : asked records ((inventory g).contracts f l) = .ok (cut l (g.matchingContracts state kind f)) :=
    g.listContracts_of_valid hstate hkind l
  have hwork := Service.listContracts_yields g version timeout records script f hf hl
  rw [hvalid, hcheck, hpage] at hwork
  exact hwork

end

/-- Pages tile the listings of a grid.  For every filter whose words can be read there is one list of the matches, in
order, of which the pages are cut, both by the grid itself and by its service.  In a listing of nodes for a twin the
nodes that the twin rents come first.  Nodes and gateways always come with the figures about the listing, farms, twins
and contracts when these are asked for. -/
theorem pages_tile_listings {β : Type} (g : Grid) (hg : g.FitsMemory) (version : String) (timeout : Nat) (now : UInt64)
    (records : Records) (script : β) :
    (∀ f status, f.wantedStatus = .ok status → ∃ T,
      T.Perm ((g.nodes.filter (g.nodeMatches now status f)).map (g.serve now)) ∧ g.NodesOrdered f T ∧
      Tiles T (fun l => asked records ((inventory g).nodes now f l)) ∧
      (g.service version timeout).ShowsPages now (records, script) .nodes f (fun shape => T.map shape.node)
        fun _ => true) ∧
    (∀ f status, f.wantedStatus = .ok status → ∃ T,
      T.Perm ((g.nodes.filter (g.nodeMatches now status { f with domain := some true, ipv4 := some true })).map
        (g.serve now)) ∧ g.NodesOrdered f T ∧
      Tiles T (fun l => asked records ((inventory g).nodes now { f with domain := some true, ipv4 := some true } l)) ∧
      (g.service version timeout).ShowsPages now (records, script) .gateways f (fun shape => T.map shape.node)
        fun _ => true) ∧
    (∀ f, ∃ T, T.Perm ((g.farms.map (·.serve)).filter (farmMatches f)) ∧
      OrderedBy (·.farmId.toNat) (g.farms.map (·.farmId.toNat)) T ∧
      Tiles T (fun l => asked records ((inventory g).farms f l)) ∧
      (g.service version timeout).ShowsPages now (records, script) .farms f (fun _ => T.map Farm.toJson)
        (·.retCount)) ∧
    (∀ f, ∃ T, T.Perm (g.twins.filter (twinMatches f)) ∧
      OrderedBy (·.twinId.toNat) (g.twins.map (·.twinId.toNat)) T ∧
      Tiles T (fun l => asked records ((inventory g).twins f l)) ∧
      (g.service version timeout).ShowsPages now (records, script) .twins f (fun _ => T.map Twin.toJson)
        (·.retCount)) ∧
    (∀ f state kind, f.wantedState = .ok state → f.wantedKind = .ok kind → ∃ T,
      T.Perm (g.contracts.filter (contractMatches state kind f)) ∧
      OrderedBy (·.contractId.toNat) (g.contracts.map (·.contractId.toNat)) T ∧
      Tiles T (fun l => asked records ((inventory g).contracts f l)) ∧
      (g.service version timeout).ShowsPages now (records, script) .contracts f (fun _ => T.map Contract.toJson)
        (·.retCount)) := by
  refine ⟨fun f status hstatus => ?_, fun f status hstatus => ?_, fun f => ?_, fun f => ?_,
    fun f state kind hstate hkind => ?_⟩
  · exact ⟨g.matchingNodes now status f, sortBy_perm _ _, g.matchingNodes_ordered now status f,
      tiles_nodes hg now records hstatus, showsPages_nodes hg now records version timeout script hstatus⟩
  · have hshown : ({ f with domain := some true, ipv4 := some true } : NodeFilter).wantedStatus = .ok status := hstatus
    exact ⟨g.matchingNodes now status _, sortBy_perm _ _, g.matchingNodes_ordered now status _,
      tiles_nodes hg now records hshown, showsPages_gateways hg now records version timeout script hstatus⟩
  · have hkeys : (((g.farms.map (·.serve)).filter (farmMatches f)).map (·.farmId.toNat)).Sublist
        (g.farms.map (·.farmId.toNat)) := by
      have h := (List.filter_sublist (p := farmMatches f) (l := g.farms.map (·.serve))).map (·.farmId.toNat)
      rwa [List.map_map (l := g.farms)] at h
    exact ⟨g.matchingFarms f, sortBy_perm _ _, orderedBy_sortBy hkeys, tiles_cut (length_matchingFarms hg f),
      showsPages_farms hg now records version timeout script f⟩
  · exact ⟨g.matchingTwins f, sortBy_perm _ _, orderedBy_sortBy (List.filter_sublist.map _),
      tiles_cut (length_matchingTwins hg f), showsPages_twins hg now records version timeout script f⟩
  · exact ⟨g.matchingContracts state kind f, sortBy_perm _ _, orderedBy_sortBy (List.filter_sublist.map _),
      tiles_contracts hg records hstate hkind, showsPages_contracts hg now records version timeout script hstate hkind⟩

/-- Three nodes of which a twin rents one. -/
def threeNodes : Grid where
  nodes := [{ nodeId := 3 }, { nodeId := 1 }, { nodeId := 2 }]
  rentContracts := [{ contractId := 9, twinId := 7, nodeId := 2, state := "Created" }]

/-- The last of two pages of the nodes for that twin, as it is requested. -/
theorem last_page_for_renter :
    threeNodes.FitsMemory ∧ ({ availableFor := some 7 } : NodeFilter).wantedStatus = .ok none ∧
    Route.ofPath? "/nodes" = some ⟨.flat, .nodes⟩ ∧
    Params.ofQuery "available_for=7&size=2&page=2" = .ok ({ availableFor := some 7 } : NodeFilter) ∧
    Params.ofQuery "available_for=7&size=2&page=2" = .ok ({ page := 2, size := 2 } : Limit) ∧
    ∃ T, T.length = 3 ∧ threeNodes.NodesOrdered { availableFor := some 7 } T ∧
      ∃ r, (threeNodes.service "1.0" 30000).serve 0 { target := ⟨"/nodes", "available_for=7&size=2&page=2"⟩ }
          (([] : Records), ()) = (r, ([], ())) ∧
        r.header? "count" = some "3" ∧ r.header? "size" = some "2" ∧ r.header? "pages" = some "2" := by
  have hg : threeNodes.FitsMemory := ⟨by decide, by decide, by decide, by decide⟩
  have hstatus : ({ availableFor := some 7 } : NodeFilter).wantedStatus = .ok none := rfl
  have hroute : Route.ofPath? "/nodes" = some ⟨.flat, .nodes⟩ := by decide +kernel
  have hf : Params.ofQuery "available_for=7&size=2&page=2" = .ok ({ availableFor := some 7 } : NodeFilter) := by
    decide +kernel
  have hl : Params.ofQuery "available_for=7&size=2&page=2" = .ok ({ page := 2, size := 2 } : Limit) := by
    decide +kernel
  obtain ⟨T, hperm, hordered, -, hpages⟩ := (pages_tile_listings threeNodes hg "1.0" 30000 0 [] ()).1 _ _ hstatus
  obtain ⟨r, hserve, -, -, hcount, hsize, htold⟩ := hpages _ _ _ _ hroute hf hl
  have hlength : T.length = 3 := hperm.length_eq.trans (by decide +kernel)
  rw [List.length_map, hlength] at hcount htold
  exact ⟨hg, hstatus, hroute, hf, hl, T, hlength, hordered, r, hserve, hcount, hsize, htold⟩

end Grid

end GridGateway
