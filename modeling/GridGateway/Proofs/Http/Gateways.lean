import GridGateway.Proofs.Grid.Matching
import GridGateway.Proofs.Grid.Sorting
import GridGateway.Proofs.Http.OverGrid

/-!
# Gateways

Gateways are the nodes with a domain and an address of the fourth version.  A query for gateways is a query for nodes
with two pairs added (`Http.Service.respond_gateways`), whatever stands in front of them, since the last pair of a key
wins.  In a grid the listing of gateways is what is kept of the listing of nodes (`Grid.matchingNodes_gateways`).
-/

namespace GridGateway

open Query Telemetry

/-! ### Queries -/

namespace Query

/-- The pairs that are added to a query for gateways. -/
private theorem decodePairs_gateways (query : String) :
    decodePairs (query ++ "&domain=true&ipv4=true") = decodePairs query ++ [("domain", "true"), ("ipv4", "true")] := by
  have hadded : decodePairs "domain=true&ipv4=true" = [("domain", "true"), ("ipv4", "true")] := by decide +kernel
  rw [← hadded, ← decodePairs_join query (by decide), String.append_assoc]
  rfl

/-- A filter is read as before, and then the two constraints are set, whatever they were. -/
private theorem Params.ofQuery_gateways (query : String) :
    (Params.ofQuery (query ++ "&domain=true&ipv4=true") : Except QueryError NodeFilter) =
      (Params.ofQuery query).map fun f : NodeFilter => { f with domain := some true, ipv4 := some true } := by
  unfold ofQuery ofPairs
  rw [decodePairs_gateways, List.foldlM_append]
  cases (decodePairs query).foldlM step (unset : NodeFilter) <;> rfl

/-- The limit is none of their business. -/
private theorem Params.ofQuery_gateways_limit (query : String) :
    (Params.ofQuery (query ++ "&domain=true&ipv4=true") : Except QueryError Limit) = Params.ofQuery query := by
  unfold ofQuery ofPairs
  rw [decodePairs_gateways, List.foldlM_append]
  cases (decodePairs query).foldlM step (unset : Limit) <;> rfl

end Query

namespace Http

variable {σ β : Type}

/-- The limit is all that a listing of nodes reads from its query. -/
private theorem Service.listNodes_congr (s : Service σ β) (shape : Shape) (now : UInt64) (f : NodeFilter)
    {query query' : String} (h : (Params.ofQuery query : Except QueryError Limit) = Params.ofQuery query') :
    s.listNodes shape now f query = s.listNodes shape now f query' := by
  unfold listNodes
  rw [h]

theorem Service.respond_gateways (s : Service σ β) (now : UInt64) (shape : Shape) (query : String) :
    s.respond now ⟨shape, .gateways⟩ query = s.respond now ⟨shape, .nodes⟩ (query ++ "&domain=true&ipv4=true") := by
  simp only [respond, Params.ofQuery_gateways]
  rw [funext fun f => s.listNodes_congr shape now f (Params.ofQuery_gateways_limit query)]
  cases (Params.ofQuery query : Except QueryError NodeFilter) <;> rfl

end Http

/-! ### Listings -/

namespace Grid

/-- A record matches a filter for gateways when it matches the filter without the two constraints and has both a domain
and an address. -/
private theorem nodeMatches_gateways (g : Grid) (now : UInt64) (status : Option Status) (f : NodeFilter)
    (r : NodeRecord) :
    g.nodeMatches now status { f with domain := some true, ipv4 := some true } r =
      (!r.publicConfig.domain.isEmpty && !r.publicConfig.ipv4.isEmpty &&
        g.nodeMatches now status { f with domain := none, ipv4 := none } r) := by
  have hflag (b : Bool) : equals b (some true) = b := by simp [equals]
  have hnone (b : Bool) : equals b none = true := rfl
  simp only [nodeMatches, hflag, hnone, Bool.and_true]
  ac_rfl

/-- The listing of gateways is what is kept of the listing of nodes. -/
theorem matchingNodes_gateways (g : Grid) (now : UInt64) (status : Option Status) (f : NodeFilter) :
    g.matchingNodes now status { f with domain := some true, ipv4 := some true } =
      (g.matchingNodes now status { f with domain := none, ipv4 := none }).filter fun n =>
        !n.publicConfig.domain.isEmpty && !n.publicConfig.ipv4.isEmpty := by
  rw [matchingNodes, matchingNodes, filter_sortBy, List.filter_map, List.filter_filter,
    funext (g.nodeMatches_gateways now status f)]
  rfl

end Grid

/-- A request for gateways is answered like the request for nodes with a domain and an address added to its query,
whatever the query says, with nodes in either form.  In a grid the gateways, on a page with room for all, are a part of
the nodes listed when neither is asked for, in the same order: those with both. -/
theorem Http.gateways_are_nodes {σ β : Type} (s : Service σ β) (now : UInt64) :
    (∀ front ∈ ["", nestedPath], ∀ query state,
      s.serve now { target := ⟨front ++ "/gateways", query⟩ } state =
        s.serve now { target := ⟨front ++ "/nodes", query ++ "&domain=true&ipv4=true"⟩ } state) ∧
    ∀ (g : Grid) (records : Records) (f : NodeFilter) (status : Option Status) (l : Limit),
      f.wantedStatus = .ok status → l.page = 1 → g.nodes.length ≤ l.size.toNat →
      ∃ gateways nodes : List Node × UInt64,
        Grid.asked records ((Grid.inventory g).nodes now { f with domain := some true, ipv4 := some true } l) =
          .ok gateways ∧
        Grid.asked records ((Grid.inventory g).nodes now { f with domain := none, ipv4 := none } l) = .ok nodes ∧
        gateways.1.Sublist nodes.1 ∧
        ∀ n, n ∈ gateways.1 ↔ n ∈ nodes.1 ∧ n.publicConfig.domain ≠ "" ∧ n.publicConfig.ipv4 ≠ "" := by
  constructor
  · intro front hfront query state
    obtain ⟨shape, hgateways, hnodes⟩ : ∃ shape, Route.ofPath? (front ++ "/gateways") = some ⟨shape, .gateways⟩ ∧
        Route.ofPath? (front ++ "/nodes") = some ⟨shape, .nodes⟩ := by
      simp only [List.mem_cons, List.not_mem_nil, or_false] at hfront
      rcases hfront with rfl | rfl
      · exact ⟨.flat, by decide +kernel, by decide +kernel⟩
      · exact ⟨.nested, by decide +kernel, by decide +kernel⟩
    simp only [Service.serve, hgateways, hnodes, Service.get, Service.respond_gateways]
  · intro g records f status l hstatus hpage hsize
    have hroom (f : NodeFilter) : (g.matchingNodes now status f).length ≤ l.size.toNat :=
      (g.length_matchingNodes_le now status f).trans hsize
    refine ⟨_, _, g.listNodes_of_status now (f := { f with domain := some true, ipv4 := some true }) hstatus l,
      g.listNodes_of_status now (f := { f with domain := none, ipv4 := none }) hstatus l, ?_⟩
    rw [Grid.cut_eq_self hpage (hroom _), Grid.cut_eq_self hpage (hroom _), g.matchingNodes_gateways]
    refine ⟨List.filter_sublist, fun n => ?_⟩
    simp [List.mem_filter]

/-- Two nodes with a domain, one of which has an address as well. -/
def Grid.twoSites : Grid where
  nodes := [{ nodeId := 1, publicConfig := { domain := "a.example" } },
    { nodeId := 2, publicConfig := { domain := "b.example", ipv4 := "10.0.0.2/24" } }]

/-- A query that rules domains out and whose page index is zero comes to the same refusal on both paths, and of the two
nodes the one with an address is listed as a gateway. -/
theorem Http.gateways_of_two_sites :
    nestedPath ∈ ["", nestedPath] ∧
    (Grid.twoSites.service "1.0" 30000).serve 9 { target := ⟨nestedPath ++ "/gateways", "domain=false&page=0"⟩ }
        (([] : Records), ()) =
      (Grid.twoSites.service "1.0" 30000).serve 9
        { target := ⟨nestedPath ++ "/nodes", "domain=false&page=0&domain=true&ipv4=true"⟩ } ([], ()) ∧
    ({} : NodeFilter).wantedStatus = .ok none ∧ Grid.twoSites.nodes.length ≤ ({} : Limit).size.toNat ∧
    ∃ gateways nodes : List Node × UInt64,
      Grid.asked [] (Grid.twoSites.inventory.nodes 9 { domain := some true, ipv4 := some true } {}) = .ok gateways ∧
      Grid.asked [] (Grid.twoSites.inventory.nodes 9 {} {}) = .ok nodes ∧ gateways.1.Sublist nodes.1 ∧
      ∀ n, n ∈ gateways.1 ↔ n ∈ nodes.1 ∧ n.publicConfig.domain ≠ "" ∧ n.publicConfig.ipv4 ≠ "" := by
  have hfront : nestedPath ∈ ["", nestedPath] := by simp
  have hsize : Grid.twoSites.nodes.length ≤ ({} : Limit).size.toNat := by decide
  obtain ⟨hserve, hlistings⟩ := gateways_are_nodes (Grid.twoSites.service (β := Unit) "1.0" 30000) 9
  exact ⟨hfront, hserve _ hfront _ _, rfl, hsize, hlistings Grid.twoSites [] {} none {} rfl rfl hsize⟩

end GridGateway
