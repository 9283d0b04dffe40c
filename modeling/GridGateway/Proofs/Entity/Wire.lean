import GridGateway.Proofs.Entity.ReadBack
import GridGateway.Proofs.Json.Fields

/-!
# What is written is what is read

Every entity and every envelope, written and decoded again, is the value that was written, both as a value and as a
text (`decoding_undoes_encoding`).  A contract has two members that have to agree: what decodes to a contract names its
kind under `type` and holds its details under `details`, in the fields of that kind (`Contract.named_of_ofJson`).
-/

namespace GridGateway

open Json

/-! ### Contracts -/

namespace ContractDetails

/-- The fields of contract details on the wire. -/
def wireFields : ContractKind → List String
  | .node => ["nodeId", "deployment_data", "deployment_hash", "number_of_public_ips"]
  | .name => ["name"]
  | .rent => ["nodeId"]

/-- The details stand in the fields of a document, each with its own type. -/
def StandsIn (w : Json) (details : ContractDetails) : Prop :=
  w.HasRoomIn (wireFields details.kind) ∧
    match details with
    | .node d =>
      w.fieldOf? (wireFields .node) "nodeId" = some (.uint32 d.nodeId) ∧
      w.fieldOf? (wireFields .node) "deployment_data" = some (.str d.deploymentData) ∧
      w.fieldOf? (wireFields .node) "deployment_hash" = some (.str d.deploymentHash) ∧
      w.fieldOf? (wireFields .node) "number_of_public_ips" = some (.uint32 d.numberOfPublicIps)
    | .name n => w.fieldOf? (wireFields .name) "name" = some (.str n)
    | .rent id => w.fieldOf? (wireFields .rent) "nodeId" = some (.uint32 id)

/-- Details that are decoded for a kind are of this kind and stand in the document. -/
private theorem standsIn_of_ofJson {k : ContractKind} {w : Json} {details : ContractDetails}
    (h : (decoder k).ofJson w = .ok details) : details.kind = k ∧ details.StandsIn w := by
  cases k with
  | node =>
    obtain ⟨hbuilds, hroom⟩ := Record.buildsFrom_of_ofJson h
    obtain ⟨_, ips, _, rfl, hbuilds₁, hips, hips'⟩ := hbuilds.required
    obtain ⟨_, hash, _, rfl, hbuilds₂, hhash, hhash'⟩ := hbuilds₁.required
    obtain ⟨_, data, _, rfl, hbuilds₃, hdata, hdata'⟩ := hbuilds₂.required
    obtain ⟨_, id, _, rfl, hbuilds₄, hid, hid'⟩ := hbuilds₃.required
    obtain rfl := hbuilds₄.pure
    cases eq_uint32_of_ofJson hips'
    cases eq_str_of_ofJson hhash'
    cases eq_str_of_ofJson hdata'
    cases eq_uint32_of_ofJson hid'
    exact ⟨rfl, hroom, hid, hdata, hhash, hips⟩
  | name =>
    obtain ⟨hbuilds, hroom⟩ := Record.buildsFrom_of_ofJson h
    obtain ⟨_, n, _, rfl, hbuilds₁, hn, hn'⟩ := hbuilds.required
    obtain rfl := hbuilds₁.pure
    cases eq_str_of_ofJson hn'
    exact ⟨rfl, hroom, hn⟩
  | rent =>
    obtain ⟨hbuilds, hroom⟩ := Record.buildsFrom_of_ofJson h
    obtain ⟨_, id, _, rfl, hbuilds₁, hid, hid'⟩ := hbuilds.required
    obtain rfl := hbuilds₁.pure
    cases eq_uint32_of_ofJson hid'
    exact ⟨rfl, hroom, hid⟩

end ContractDetails

namespace Contract

/-- The fields of a contract on the wire. -/
def wireFields : List String := ["contractId", "twinId", "state", "created_at", "type", "details", "billing"]

/-- A sealed contract holds the word under `type` and the document under `details`. -/
private theorem Sealed.fields_of_ofJson {v : Json} {s : Sealed} (h : Sealed.decoder.ofJson v = .ok s) :
    v.fieldOf? wireFields "type" = some (.str s.kind) ∧
      ∃ w, v.fieldOf? wireFields "details" = some w ∧ s.details = w.canonical := by
  obtain ⟨hbuilds, -⟩ := Record.buildsFrom_of_ofJson h
  obtain ⟨_, billing, rfl, hbuilds₁⟩ := hbuilds.optional
  obtain ⟨_, details, w, rfl, hbuilds₂, hdetails, hdetails'⟩ := hbuilds₁.required
  obtain ⟨_, kind, _, rfl, hbuilds₃, hkind, hkind'⟩ := hbuilds₂.required
  obtain ⟨_, createdAt, _, rfl, hbuilds₄, -, -⟩ := hbuilds₃.required
  obtain ⟨_, state, _, rfl, hbuilds₅, -, -⟩ := hbuilds₄.required
  obtain ⟨_, twinId, _, rfl, hbuilds₆, -, -⟩ := hbuilds₅.required
  obtain ⟨_, contractId, _, rfl, hbuilds₇, -, -⟩ := hbuilds₆.required
  obtain rfl := hbuilds₇.pure
  cases eq_str_of_ofJson hkind'
  exact ⟨hkind, w, hdetails, eq_canonical_of_ofJson hdetails'⟩

/-- The details of an opened contract are decoded for the kind that its word names. -/
private theorem Sealed.unseal_eq_ok {s : Sealed} {c : Contract} (h : s.unseal = .ok c) :
    s.kind = c.kind.label ∧ (ContractDetails.decoder c.kind).ofJson s.details = .ok c.details := by
  rw [Sealed.unseal] at h
  cases hkind : ContractKind.ofLabel? s.kind with
  | none =>
    rw [hkind] at h
    cases h
  | some k =>
    rw [hkind] at h
    cases hdetails : (ContractDetails.decoder k).ofJson s.details with
    | error e =>
      simp only [hdetails] at h
      cases h
    | ok details =>
      simp only [hdetails] at h
      cases h
      obtain ⟨rfl, -⟩ := ContractDetails.standsIn_of_ofJson hdetails
      have hlabel := List.find?_some hkind
      exact ⟨(of_decide_eq_true hlabel).symm, hdetails⟩

/-- A document that decodes to a contract names the kind of its details, and holds them in the fields of this kind. -/
theorem named_of_ofJson {v : Json} {c : Contract} (h : Contract.decoder.ofJson v = .ok c) :
    v.fieldOf? wireFields "type" = some (.str c.kind.label) ∧
      ∃ w, v.fieldOf? wireFields "details" = some w ∧ c.details.StandsIn w := by
  have hsealed : (Sealed.decoder.ofJson v >>= Sealed.unseal) = .ok c := h
  cases hs : Sealed.decoder.ofJson v with
  | error e =>
    rw [hs] at hsealed
    cases hsealed
  | ok s =>
    rw [hs] at hsealed
    obtain ⟨hkind, w, hw, hcanonical⟩ := Sealed.fields_of_ofJson hs
    obtain ⟨hlabel, hdetails⟩ := Sealed.unseal_eq_ok hsealed
    rw [hcanonical, Decoder.ofJson_canonical] at hdetails
    exact ⟨hlabel ▸ hkind, w, hw, (ContractDetails.standsIn_of_ofJson hdetails).2⟩

/-- Any other document is refused. -/
private theorem refused {v : Json} (h : ∀ c, Contract.decoder.ofJson v ≠ .ok c) :
    ∃ e, Contract.decoder.ofJson v = .error e := by
  cases hv : Contract.decoder.ofJson v with
  | error e => exact ⟨e, rfl⟩
  | ok c => exact absurd hv (h c)

/-- A kind outside the three words is refused. -/
private theorem refused_of_kind {v : Json}
    (h : ∀ k : ContractKind, v.fieldOf? wireFields "type" ≠ some (.str k.label)) :
    ∃ e, Contract.decoder.ofJson v = .error e :=
  refused fun c hc => h c.kind (named_of_ofJson hc).1

/-- Details that do not stand in the fields of the kind named are refused, whatever other kind they would fit. -/
private theorem refused_of_details {v w : Json} {k : ContractKind}
    (hk : v.fieldOf? wireFields "type" = some (.str k.label)) (hw : v.fieldOf? wireFields "details" = some w)
    (h : ∀ details : ContractDetails, details.kind = k → ¬ details.StandsIn w) :
    ∃ e, Contract.decoder.ofJson v = .error e := by
  refine refused fun c hc => ?_
  obtain ⟨hkind, w', hw', hstands⟩ := named_of_ofJson hc
  have hlabel : k.label = c.kind.label := Json.str.inj (Option.some.inj (hk.symm.trans hkind))
  have hsame : c.kind = k := by
    have hfound := congrArg ContractKind.ofLabel? hlabel
    rw [ContractKind.ofLabel?_label, ContractKind.ofLabel?_label] at hfound
    exact (Option.some.inj hfound).symm
  obtain rfl := Option.some.inj (hw.symm.trans hw')
  exact h c.details hsame hstands

end Contract

/-! ### All documents -/

/-- The decoder gives the value back from its document and from the text of the document. -/
def Json.Decoder.Returns {α : Type} (dec : Decoder α) (v : Json) (a : α) : Prop :=
  dec.ofJson v = .ok a ∧ dec.ofText v.text = .ok a

private theorem Json.Decoder.Recovers.returns {α : Type} {dec : Decoder α} {levels : Nat} {v : Json} {a : α}
    (h : dec.Recovers levels v a) (hlevels : levels < depthLimit) : dec.Returns v a := ⟨h.ofJson, h.ofText hlevels⟩

/-- Decoding undoes encoding: every value comes back from what it is written as, nodes if they have no coordinates and
statistics if their table is in order.  What decodes to a contract has the kind that its document names, and a document
that names no kind, or one that its details do not fit, is refused. -/
theorem decoding_undoes_encoding :
    (∀ n : Node, n.location.IsUnmapped → Node.decoder.Returns n.toJson n) ∧
    (∀ n : NestedNode, n.location.IsUnmapped → NestedNode.decoder.Returns n.toJson n) ∧
    (∀ d : NodeDetail Node, d.node.location.IsUnmapped →
      (NodeDetail.decoder Node.record).Returns d.flatJson d) ∧
    (∀ d : NodeDetail NestedNode, d.node.location.IsUnmapped →
      (NodeDetail.decoder NestedNode.record).Returns d.nestedJson d) ∧
    (∀ f : Farm, Farm.decoder.Returns f.toJson f) ∧
    (∀ t : Twin, Twin.decoder.Returns t.toJson t) ∧
    (∀ c : Contract, Contract.decoder.Returns c.toJson c) ∧
    (∀ c : Counters, Ascending c.nodesDistribution → Counters.decoder.Returns c.toJson c) ∧
    (∀ s : NodeStatus, NodeStatus.decoder.Returns s.toJson s) ∧
    (∀ c : Capacity, Capacity.decoder.Returns c.toJson c) ∧
    (∀ p : PublicIp, PublicIp.decoder.Returns p.toJson p) ∧
    (∀ v : Version, Version.decoder.Returns v.toJson v) ∧
    (∀ e : Bus.Envelope, Bus.Envelope.decoder.Returns e.toJson e) ∧
    (∀ (v : Json) (c : Contract), Contract.decoder.ofJson v = .ok c →
      v.fieldOf? Contract.wireFields "type" = some (.str c.kind.label) ∧
      ∃ w, v.fieldOf? Contract.wireFields "details" = some w ∧ c.details.StandsIn w) ∧
    (∀ v : Json, (∀ k : ContractKind, v.fieldOf? Contract.wireFields "type" ≠ some (.str k.label)) →
      ∃ e, Contract.decoder.ofJson v = .error e) ∧
    (∀ (v w : Json) (k : ContractKind), v.fieldOf? Contract.wireFields "type" = some (.str k.label) →
      v.fieldOf? Contract.wireFields "details" = some w →
      (∀ details : ContractDetails, details.kind = k → ¬ details.StandsIn w) →
      ∃ e, Contract.decoder.ofJson v = .error e) :=
  ⟨fun _ hn => (@Node.recovers 0 _ hn).returns (by decide),
    fun _ hn => (@NestedNode.recovers 0 _ hn).returns (by decide),
    fun _ hd => (@NodeDetail.recovers_flat 0 _ hd).returns (by decide),
    fun _ hd => (@NodeDetail.recovers_nested 0 _ hd).returns (by decide),
    fun f => (@Farm.recovers 0 f).returns (by decide),
    fun t => (@Twin.recovers 0 t).returns (by decide),
    fun c => (@Contract.recovers 0 c).returns (by decide),
    fun _ hc => (@Counters.recovers 0 _ hc).returns (by decide),
    fun s => (@NodeStatus.recovers 0 s).returns (by decide),
    fun c => (@Capacity.recovers 0 c).returns (by decide),
    fun p => (@PublicIp.recovers 0 p).returns (by decide),
    fun v => (@Version.recovers 0 v).returns (by decide),
    fun e => (@Bus.Envelope.recovers 0 e).returns (by decide),
    fun _ _ h => Contract.named_of_ofJson h,
    fun _ h => Contract.refused_of_kind h,
    fun _ _ _ hk hw h => Contract.refused_of_details hk hw h⟩

/-- A node, its detail in the second form and statistics that come back; a contract of rent that tells its kind; and
two contracts that are refused, one of no known kind and one of a node with the details of a name. -/
theorem samples_decode :
    Node.decoder.Returns (Node.toJson { nodeId := 7, country := "BE" }) { nodeId := 7, country := "BE" } ∧
    (NodeDetail.decoder NestedNode.record).Returns (NodeDetail.nestedJson ⟨{ nodeId := 7 }, "qemu", "3.1"⟩)
      ⟨{ nodeId := 7 }, "qemu", "3.1"⟩ ∧
    Counters.decoder.Returns (Counters.toJson { nodes := 3, nodesDistribution := [("BE", 1), ("EG", 2)] })
      { nodes := 3, nodesDistribution := [("BE", 1), ("EG", 2)] } ∧
    (Contract.toJson ⟨1, 2, "Created", 3, .rent 7, []⟩).fieldOf? Contract.wireFields "type" = some (.str "rent") ∧
    (∃ e, Contract.decoder.ofJson (.obj [("type", .str "disk")]) = .error e) ∧
    ∃ e, Contract.decoder.ofJson (.obj [("type", .str "node"), ("details", .obj [("name", .str "web")])]) =
      .error e := by
  obtain ⟨hnode, -, -, hdetail, -, -, hcontract, hcounters, -, -, -, -, -, hnamed, hkind, hdetails⟩ :=
    decoding_undoes_encoding
  refine ⟨hnode _ ⟨rfl, rfl⟩, hdetail _ ⟨rfl, rfl⟩, hcounters _ ?_, (hnamed _ _ (hcontract _).1).1, hkind _ ?_,
    hdetails _ (.obj [("name", .str "web")]) .node rfl rfl ?_⟩
  · have hascending : "BE" < "EG" := by decide
    exact List.pairwise_pair.mpr hascending
  · intro k
    cases k <;> simp [fieldOf?, ContractKind.label]
  · intro details hk hstands
    cases details with
    | node d => cases hstands.2.1
    | name n => cases hk
    | rent id => cases hk

end GridGateway
