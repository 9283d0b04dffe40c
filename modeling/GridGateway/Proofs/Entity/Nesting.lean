import GridGateway.Proofs.Entity.ReadBack
import GridGateway.Proofs.Json.Outcomes

/-!
# The two forms of a node

A node in the second form is one in the first form whose two capacities stand under one member
(`Node.toJson_nest`, `NodeDetail.nestedJson_nest`).  Either form is decoded to the node that was written, up to its
coordinates, which come to whatever is read for them (`Node.decoder_draft`, `NestedNode.decoder_draft`).  So the second
form, decoded and flattened, is what the first form is decoded to: the node itself where doubles are kept
(`Node.flatten_ofJson`), and in texts whatever their doubles are read as (`Node.flatten_ofText`,
`NodeDetail.flatten_ofText`).
-/

namespace GridGateway

open Json

variable {levels : Nat} {read : Float → Draft}

/-! ### Documents -/

/-- The members of the two capacities of a node. -/
def isCapacity (m : String × Json) : Bool := m.1 = "total_resources" || m.1 = "used_resources"

/-- The members of a node with those of the two capacities under one, in the place of the first. -/
def nestMembers (ms : List (String × Json)) : List (String × Json) :=
  (ms.filter (·.1 ≠ "used_resources")).map fun m =>
    if m.1 = "total_resources" then ("capacity", .obj (ms.filter isCapacity)) else m

/-- A node, or its detail, with the two capacities under one member. -/
def nestCapacity : Json → Json
  | .obj ms => .obj (nestMembers ms)
  | v => v

private theorem Node.members_nest (n : Node) : n.nest.members = nestMembers n.members := by
  simp [nestMembers, isCapacity, Node.members, NestedNode.members, Node.nest, CapacityPair.toJson]

theorem Node.toJson_nest (n : Node) : n.nest.toJson = nestCapacity n.toJson := congrArg Json.obj n.members_nest

/-- A node and the node in its second form in the same detail. -/
def NodeDetail.mapNode {N M : Type} (f : N → M) (d : NodeDetail N) : NodeDetail M :=
  ⟨f d.node, d.hypervisor, d.zosVersion⟩

theorem NodeDetail.nestedJson_nest (d : NodeDetail Node) :
    (d.mapNode Node.nest).nestedJson = nestCapacity d.flatJson := by
  simp [nestCapacity, nestMembers, isCapacity, nestedJson, flatJson, toJson, mapNode, Node.members,
    NestedNode.members, Node.nest, CapacityPair.toJson]

private theorem Node.flatten_nest (n : Node) : n.nest.flatten = n := rfl

/-! ### Locations -/

/-- What a location comes to: its coordinates are those that are read. -/
def Location.readBy (read : Float → Draft) (l : Location) : Except DecodeError Location := do
  let longitude ← Decoder.option .float {} ((Json.option .float l.longitude).draft read)
  let latitude ← Decoder.option .float {} ((Json.option .float l.latitude).draft read)
  return { l with longitude := longitude, latitude := latitude }

/-- A location whose doubles are kept comes to itself. -/
private theorem Location.readBy_float (l : Location) : l.readBy .float = .ok l := by
  obtain ⟨country, city, longitude, latitude⟩ := l
  cases longitude <;> cases latitude <;> rfl

private theorem coordinate_bounded (o : Option Float) : (Json.option .float o).Bounded := by
  cases o <;> trivial

/-- Wherever a location stands, it comes to the same. -/
theorem Location.decoder_draft (l : Location) {c : Context} (hc : c.Allows (levels + 1)) :
    Location.decoder c (l.toJson.draft read) = l.readBy read := by
  obtain ⟨c', henter, -, hc'⟩ := hc.enter
  refine Record.Gives.decoder henter (.of_eq
    (Record.Gives.pure Location.mk
      |>.reads hc' (.string l.country) |>.reads hc' (.string l.city)
      |>.field (coordinate_bounded l.longitude) |>.field (coordinate_bounded l.latitude))
    rfl rfl ?_) (by simp) _
  have hfree (d : Draft) : Decoder.option .float c' d = Decoder.option .float {} d := rfl
  rw [readBy, hfree, hfree]
  cases Decoder.option .float {} ((Json.option .float l.longitude).draft read) with
  | error e => rfl
  | ok longitude => cases Decoder.option .float {} ((Json.option .float l.latitude).draft read) <;> rfl

private theorem Location.toJson_bounded (l : Location) : l.toJson.Bounded :=
  ⟨trivial, trivial, coordinate_bounded _, coordinate_bounded _, trivial⟩

/-! ### Nodes -/

/-- A node in the first form comes to the node with what its location comes to. -/
private theorem Node.record_gives (n : Node) {c : Context} (hc : c.Allows (levels + 1)) :
    Node.record.Gives read c n.members ((n.location.readBy read).map fun l => { n with location := l }) := by
  refine .of_eq
    (Record.Gives.pure Node.mk
      |>.reads hc (.uint32 n.nodeId) |>.reads hc (.uint32 n.farmId) |>.reads hc (.uint32 n.twinId)
      |>.reads hc (.string n.country) |>.reads hc (.string n.city) |>.reads hc (.uint64 n.uptime)
      |>.reads hc (.uint64 n.created) |>.reads hc (.uint32 n.farmingPolicyId) |>.reads hc (.uint64 n.updatedAt)
      |>.reads hc n.totalResources.recovers.written |>.reads hc n.usedResources.recovers.written
      |>.field n.location.toJson_bounded
      |>.reads hc n.publicConfig.recovers.written |>.reads hc n.status.recovers.written
      |>.reads hc (.string n.certificationType)
      |>.reads hc (.bool n.dedicated) |>.reads hc (.bool n.secure) |>.reads hc (.bool n.virtualized)
      |>.reads hc (.uint64 n.rentContractId) |>.reads hc (.uint32 n.rentedByTwinId)
      |>.reads hc (.string n.serialNumber))
    rfl (by simp [members]) ?_
  rw [n.location.decoder_draft hc]
  cases n.location.readBy read <;> rfl

/-- A node in the second form comes to the node with what its location comes to. -/
private theorem NestedNode.record_gives (n : NestedNode) {c : Context} (hc : c.Allows (levels + 2)) :
    NestedNode.record.Gives read c n.members ((n.location.readBy read).map fun l => { n with location := l }) := by
  refine .of_eq
    (Record.Gives.pure NestedNode.mk
      |>.reads hc (.uint32 n.nodeId) |>.reads hc (.uint32 n.farmId) |>.reads hc (.uint32 n.twinId)
      |>.reads hc (.string n.country) |>.reads hc (.string n.city) |>.reads hc (.uint64 n.uptime)
      |>.reads hc (.uint64 n.created) |>.reads hc (.uint32 n.farmingPolicyId) |>.reads hc (.uint64 n.updatedAt)
      |>.reads hc n.capacity.recovers.written |>.field n.location.toJson_bounded
      |>.reads hc n.publicConfig.recovers.written |>.reads hc n.status.recovers.written
      |>.reads hc (.string n.certificationType)
      |>.reads hc (.bool n.dedicated) |>.reads hc (.bool n.secure) |>.reads hc (.bool n.virtualized)
      |>.reads hc (.uint64 n.rentContractId) |>.reads hc (.uint32 n.rentedByTwinId)
      |>.reads hc (.string n.serialNumber))
    rfl (by simp [members]) ?_
  rw [n.location.decoder_draft hc]
  cases n.location.readBy read <;> rfl

theorem Node.decoder_draft (n : Node) {c : Context} (hc : c.Allows (levels + 2)) :
    Node.decoder c (n.toJson.draft read) = (n.location.readBy read).map fun l => { n with location := l } := by
  obtain ⟨c', henter, -, hc'⟩ := hc.enter
  exact (n.record_gives hc').decoder henter n.members_names.1 _

theorem NestedNode.decoder_draft (n : NestedNode) {c : Context} (hc : c.Allows (levels + 3)) :
    NestedNode.decoder c (n.toJson.draft read) = (n.location.readBy read).map fun l => { n with location := l } := by
  obtain ⟨c', henter, -, hc'⟩ := hc.enter
  exact (n.record_gives hc').decoder henter n.members_names.1 _

/-- The second form of a node, decoded and flattened, is what the first form is decoded to. -/
private theorem Node.flatten_decoder (n : Node) {c : Context} (hc : c.Allows (levels + 3)) :
    (NestedNode.decoder c ((nestCapacity n.toJson).draft read)).map NestedNode.flatten =
      Node.decoder c (n.toJson.draft read) := by
  rw [← n.toJson_nest, n.nest.decoder_draft hc, n.decoder_draft hc]
  change ((n.location.readBy read).map _).map _ = _
  cases n.location.readBy read with
  | error e => rfl
  | ok l => exact congrArg Except.ok (flatten_nest { n with location := l })

/-- The second form of a node, decoded and flattened, is the node. -/
theorem Node.flatten_ofJson (n : Node) {c : Context} (hc : c.Allows (levels + 3)) :
    (NestedNode.decoder c (.ofJson (nestCapacity n.toJson))).map NestedNode.flatten = .ok n := by
  rw [← draft_float, n.flatten_decoder hc, n.decoder_draft hc, Location.readBy_float]
  rfl

private theorem allows_start : ({} : Context).Allows (0 + 3) := fun _ => by decide

/-- In their texts the two forms of a node are decoded alike. -/
theorem Node.flatten_ofText (n : Node) :
    (NestedNode.decoder.ofText (nestCapacity n.toJson).text).map NestedNode.flatten =
      Node.decoder.ofText n.toJson.text := by
  obtain ⟨c, -, -, hc⟩ := allows_start.enter
  have hflat : n.toJson.Bounded := (@record_gives _ reread n _ hc).obj_bounded
  have hnested : n.nest.toJson.Bounded := (@NestedNode.record_gives _ reread n.nest _ hc).obj_bounded
  rw [n.toJson_nest] at hnested
  rw [Decoder.ofText_printed _ hflat, Decoder.ofText_printed _ hnested, n.flatten_decoder allows_start]

/-! ### Details -/

namespace NodeDetail

/-- A detail is read from its text as its node comes to, unless some member is unsound. -/
theorem ofText_text {N : Type} {record : Record N} {members : N → List (String × Json)} (d : NodeDetail N)
    {result : Except DecodeError N} (h : record.Gives reread ⟨.buffer, depthLimit - 1⟩ (members d.node) result)
    (hnodup : ((members d.node).map (·.1)).Nodup)
    (hnames : ∀ m ∈ members d.node, m.1 ≠ "hypervisor" ∧ m.1 ≠ "zosVersion") :
    (decoder record).ofText (d.toJson members).text =
      if (members d.node).all fun m => (m.2.draft reread).sound (depthLimit - 1) then
        result.map fun node => ⟨node, d.hypervisor, d.zosVersion⟩
      else .error .malformed := by
  have hbounded : (d.toJson members).Bounded := by
    refine boundedMembers_iff.mpr fun m hm => ?_
    rcases List.mem_append.mp hm with hm | hm
    · exact h.bounded m hm
    · simp only [List.mem_cons, List.not_mem_nil, or_false] at hm
      rcases hm with rfl | rfl <;> trivial
  obtain ⟨ms, hms⟩ : ∃ ms, ms = (members d.node).map fun m => (m.1, m.2.draft reread) := ⟨_, rfl⟩
  have hfields : record.fields.map (·.name) = ms.map (·.1) := by
    rw [h.names, hms, List.map_map]
    rfl
  have hplain : ∀ m ∈ ms, m.1 ≠ "hypervisor" ∧ m.1 ≠ "zosVersion" := by
    rw [hms]
    exact List.forall_mem_map.mpr hnames
  have henter : ({} : Context).enter = .ok ⟨.text, depthLimit - 1⟩ := rfl
  have hdetail := decoder_named henter hfields hplain d.hypervisor d.zosVersion
  have hnode : record.ofMembers ⟨.buffer, depthLimit - 1⟩ (Draft.named ms) = result := by
    rw [hms, ← draftMembers_eq_named]
    exact h.ofMembers hnodup
  rw [hnode, hms, List.all_map] at hdetail
  rw [Decoder.ofText_printed _ hbounded, toJson, draft, draftMembers_eq_named, List.map_append]
  exact hdetail

/-- The second form of a detail, read and flattened, is what the first form is read as. -/
theorem flatten_ofText (d : NodeDetail Node) :
    ((decoder NestedNode.record).ofText (nestCapacity d.flatJson).text).map (mapNode NestedNode.flatten) =
      (decoder Node.record).ofText d.flatJson.text := by
  have hbuffer : Context.Allows ⟨.buffer, depthLimit - 1⟩ (0 + 2) := Context.allows_buffer _ _
  have hflat := ofText_text d (d.node.record_gives hbuffer) d.node.members_names.1 d.node.members_names.2
  have hnested := ofText_text (d.mapNode Node.nest) (d.node.nest.record_gives hbuffer) d.node.nest.members_names.1
    d.node.nest.members_names.2
  -- of all members the location alone can be unsound, and it is the same in both forms
  have hsame : (d.node.nest.members.all fun m => (m.2.draft reread).sound (depthLimit - 1)) =
      d.node.members.all fun m => (m.2.draft reread).sound (depthLimit - 1) := rfl
  rw [← nestedJson_nest]
  refine (congrArg (Except.map _) hnested).trans (Eq.trans ?_ hflat.symm)
  rw [show (d.mapNode Node.nest).node = d.node.nest from rfl, hsame]
  split
  · change (((d.node.location.readBy reread).map _).map _).map _ = ((d.node.location.readBy reread).map _).map _
    cases d.node.location.readBy reread <;> rfl
  · rfl

end NodeDetail

end GridGateway
