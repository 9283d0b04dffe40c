import GridGateway.Bus.Envelope
import GridGateway.Entity.Contract
import GridGateway.Entity.Counters
import GridGateway.Entity.Farm
import GridGateway.Entity.NodeDetail
import GridGateway.Proofs.Json.Canonical

/-!
# Entities that are read back

Every entity is recovered from its own document, as it is written and in canonical form. Nodes are without coordinates
here, since doubles do not keep their digits; the distribution of the statistics has to be in ascending order.

In a canonical document the two texts of a node detail stand anywhere among the members of the node, so a detail is
recovered from its members in any order (`NodeDetail.reads_of_perm`).
-/

namespace GridGateway

open Json

variable {levels : Nat}

/-! ### Nodes -/

theorem Capacity.recovers (c : Capacity) : Capacity.decoder.Recovers (levels + 1) c.toJson c :=
  (Record.Recovers.pure Capacity.mk
    |>.optional (.uint64 _) |>.optional (.uint64 _) |>.optional (.uint64 _) |>.optional (.uint64 _)).decoder (by simp)

/-- The place is told by its names alone. -/
def Location.IsUnmapped (l : Location) : Prop := l.longitude = none ∧ l.latitude = none

/-- No coordinate is written as nothing, which is read back. -/
private theorem noCoordinate : (Decoder.option .float).Recovers levels (.option .float none) none :=
  .option (fun _ h => nomatch h) fun _ h => nomatch h

theorem Location.recovers {l : Location} (hl : l.IsUnmapped) : Location.decoder.Recovers (levels + 1) l.toJson l := by
  obtain ⟨country, city, longitude, latitude⟩ := l
  obtain ⟨rfl, rfl⟩ := hl
  exact (Record.Recovers.pure Location.mk
    |>.optional (.string _) |>.optional (.string _)
    |>.optional noCoordinate |>.optional noCoordinate).decoder (by simp)

theorem PublicConfig.recovers (p : PublicConfig) : PublicConfig.decoder.Recovers (levels + 1) p.toJson p :=
  (Record.Recovers.pure PublicConfig.mk
    |>.optional (.string _) |>.optional (.string _) |>.optional (.string _) |>.optional (.string _)
    |>.optional (.string _)).decoder (by simp)

theorem Status.recovers (s : Status) : Status.decoder.Recovers levels s.toJson s := by
  cases s with
  | up => exact .word (by simp [Status.name])
  | down => exact .word (by simp [Status.name])

private theorem Node.record_recovers {n : Node} (hn : n.location.IsUnmapped) :
    Node.record.Recovers (levels + 1) n.members n :=
  .of_eq
    (Record.Recovers.pure Node.mk
      |>.optional (.uint32 _) |>.optional (.uint32 _) |>.optional (.uint32 _) |>.optional (.string _)
      |>.optional (.string _) |>.optional (.uint64 _) |>.optional (.uint64 _) |>.optional (.uint32 _)
      |>.optional (.uint64 _) |>.optional (Capacity.recovers _) |>.optional (Capacity.recovers _)
      |>.optional (Location.recovers hn) |>.optional (PublicConfig.recovers _) |>.optional (Status.recovers _)
      |>.optional (.string _) |>.optional (.bool _) |>.optional (.bool _) |>.optional (.bool _)
      |>.optional (.uint64 _) |>.optional (.uint32 _) |>.optional (.string _))
    rfl (by simp [Node.members]) rfl

/-- The members of a node have different names, none of which is one of the two further members of its detail. -/
theorem Node.members_names (n : Node) :
    (n.members.map (·.1)).Nodup ∧ ∀ m ∈ n.members, m.1 ≠ "hypervisor" ∧ m.1 ≠ "zosVersion" := by
  constructor
  · simp [Node.members]
  · simp [Node.members]

theorem Node.recovers {n : Node} (hn : n.location.IsUnmapped) : Node.decoder.Recovers (levels + 2) n.toJson n :=
  (Node.record_recovers hn).decoder n.members_names.1

theorem Node.reads {n : Node} (hn : n.location.IsUnmapped) : Node.decoder.Reads (levels + 2) n.toJson n :=
  (Node.recovers hn).written

theorem CapacityPair.recovers (p : CapacityPair) : CapacityPair.decoder.Recovers (levels + 2) p.toJson p :=
  (Record.Recovers.pure CapacityPair.mk
    |>.optional p.total.recovers |>.optional p.used.recovers).decoder (by simp)

private theorem NestedNode.record_recovers {n : NestedNode} (hn : n.location.IsUnmapped) :
    NestedNode.record.Recovers (levels + 2) n.members n :=
  .of_eq
    (Record.Recovers.pure NestedNode.mk
      |>.optional (.uint32 _) |>.optional (.uint32 _) |>.optional (.uint32 _) |>.optional (.string _)
      |>.optional (.string _) |>.optional (.uint64 _) |>.optional (.uint64 _) |>.optional (.uint32 _)
      |>.optional (.uint64 _) |>.optional (CapacityPair.recovers _) |>.optional (Location.recovers hn)
      |>.optional (PublicConfig.recovers _) |>.optional (Status.recovers _) |>.optional (.string _)
      |>.optional (.bool _) |>.optional (.bool _) |>.optional (.bool _) |>.optional (.uint64 _)
      |>.optional (.uint32 _) |>.optional (.string _))
    rfl (by simp [NestedNode.members]) rfl

theorem NestedNode.members_names (n : NestedNode) :
    (n.members.map (·.1)).Nodup ∧ ∀ m ∈ n.members, m.1 ≠ "hypervisor" ∧ m.1 ≠ "zosVersion" := by
  constructor
  · simp [members]
  · simp [members]

theorem NestedNode.recovers {n : NestedNode} (hn : n.location.IsUnmapped) :
    NestedNode.decoder.Recovers (levels + 3) n.toJson n :=
  (NestedNode.record_recovers hn).decoder n.members_names.1

theorem NodeStatus.recovers (s : NodeStatus) : NodeStatus.decoder.Recovers (levels + 1) s.toJson s :=
  (Record.Recovers.pure NodeStatus.mk |>.required (Status.recovers _)).decoder (by simp)

theorem NodeStatus.reads (s : NodeStatus) : NodeStatus.decoder.Reads (levels + 1) s.toJson s := s.recovers.written

/-! ### Farms and twins -/

theorem PublicIp.recovers (p : PublicIp) : PublicIp.decoder.Recovers (levels + 1) p.toJson p :=
  (Record.Recovers.pure PublicIp.mk
    |>.optional (.string _) |>.optional (.string _) |>.optional (.uint64 _) |>.optional (.string _)).decoder (by simp)

theorem Farm.recovers (f : Farm) : Farm.decoder.Recovers (levels + 3) f.toJson f :=
  (Record.Recovers.pure Farm.mk
    |>.optional (.string _) |>.optional (.uint32 _) |>.optional (.uint32 _) |>.optional (.uint32 _)
    |>.optional (.string _) |>.optional (.string _) |>.optional (.bool _)
    |>.optional (.list fun p _ => PublicIp.recovers p)).decoder (by simp)

theorem Farm.reads (f : Farm) : Farm.decoder.Reads (levels + 3) f.toJson f := f.recovers.written

theorem Twin.recovers (t : Twin) : Twin.decoder.Recovers (levels + 1) t.toJson t :=
  (Record.Recovers.pure Twin.mk
    |>.optional (.uint32 _) |>.optional (.string _)
    |>.optional (.option (fun s _ => .string s) fun _ h => nomatch h)
    |>.optional (.option (fun s _ => .string s) fun _ h => nomatch h)).decoder (by simp)

theorem Twin.reads (t : Twin) : Twin.decoder.Reads (levels + 1) t.toJson t := t.recovers.written

/-! ### Statistics -/

theorem Counters.recovers {c : Counters} (hc : Ascending c.nodesDistribution) :
    Counters.decoder.Recovers (levels + 2) c.toJson c :=
  (Record.Recovers.pure Counters.mk
    |>.optional (.uint64 _) |>.optional (.uint64 _) |>.optional (.uint64 _) |>.optional (.uint64 _)
    |>.optional (.uint64 _) |>.optional (.uint64 _) |>.optional (.uint64 _) |>.optional (.uint64 _)
    |>.optional (.uint64 _) |>.optional (.uint64 _) |>.optional (.uint64 _) |>.optional (.uint64 _)
    |>.optional (.table (fun e _ => .uint64 e.2) hc)).decoder (by simp)

theorem Counters.reads {c : Counters} (hc : Ascending c.nodesDistribution) :
    Counters.decoder.Reads (levels + 2) c.toJson c := (Counters.recovers hc).written

theorem Version.recovers (v : Version) : Version.decoder.Recovers (levels + 1) v.toJson v :=
  (Record.Recovers.pure Version.mk |>.required (.string _)).decoder (by simp)

theorem Version.reads (v : Version) : Version.decoder.Reads (levels + 1) v.toJson v := v.recovers.written

/-! ### Envelopes -/

theorem Bus.Envelope.recovers (e : Bus.Envelope) : Bus.Envelope.decoder.Recovers (levels + 2) e.toJson e :=
  (Record.Recovers.pure Bus.Envelope.mk
    |>.optional (.uint32 _) |>.optional (.string _) |>.optional (.string _) |>.optional (.uint64 _)
    |>.optional (.uint32 _) |>.optional (.string _) |>.optional (.uint32 _)
    |>.optional (.list fun id _ => .uint32 id) |>.optional (.string _) |>.optional (.string _)
    |>.optional (.uint64 _) |>.optional (.string _)).decoder (by simp)

/-! ### Contracts -/

theorem Billing.recovers (b : Billing) : Billing.decoder.Recovers (levels + 1) b.toJson b :=
  (Record.Recovers.pure Billing.mk
    |>.optional (.orNull (.uint64 _) fun _ h => nomatch h) |>.optional (.orNull (.string _) fun _ h => nomatch h)
    |>.optional (.orNull (.uint64 _) fun _ h => nomatch h)).decoder (by simp)

theorem ContractDetails.reads (d : ContractDetails) :
    (ContractDetails.decoder d.kind).Reads (levels + 1) d.toJson d := by
  cases d with
  | node d =>
    -- the members are written in ascending order, with the number of the node behind the texts
    exact (Record.Reads.pure (fun id data hash ips => ContractDetails.node ⟨id, data, hash, ips⟩)
      |>.required (.uint32 _) |>.required (.string _) |>.required (.string _) |>.required (.uint32 _)).decoder_of_perm
        (by simp) (List.perm_middle : ([_, _] ++ _ :: [_]).Perm _)
  | name n => exact (Record.Reads.pure ContractDetails.name |>.required (.string _)).decoder (by simp)
  | rent id => exact (Record.Reads.pure ContractDetails.rent |>.required (.uint32 _)).decoder (by simp)

/-- The members of contract details are written in ascending order already. -/
private theorem ContractDetails.canonical_toJson (d : ContractDetails) : d.toJson.canonical = d.toJson := by
  cases d with
  | node d =>
    have hnames : ["deployment_data", "deployment_hash", "nodeId", "number_of_public_ips"].Pairwise (· < ·) := by
      decide
    have hascending : Ascending [("deployment_data", Json.str d.deploymentData),
        ("deployment_hash", .str d.deploymentHash), ("nodeId", .uint32 d.nodeId),
        ("number_of_public_ips", .uint32 d.numberOfPublicIps)] := List.pairwise_map.mp hnames
    exact congrArg Json.obj hascending.sortMembers
  | name n => rfl
  | rent id => rfl

theorem ContractKind.ofLabel?_label (k : ContractKind) : ContractKind.ofLabel? k.label = some k := by
  cases k <;> decide

theorem Contract.Sealed.recovers (c : Contract) : Contract.Sealed.decoder.Recovers (levels + 3) c.toJson
    ⟨c.contractId, c.twinId, c.state, c.createdAt, c.kind.label, c.details.toJson, c.billing⟩ := by
  have hjson : Decoder.json.Reads (levels + 2) c.details.toJson c.details.toJson := by
    have h : Decoder.json.Reads (levels + 2) c.details.toJson c.details.toJson.canonical := .json c.details.reads.fits
    rwa [c.details.canonical_toJson] at h
  exact (Record.Recovers.pure Contract.Sealed.mk
    |>.required (.uint64 _) |>.required (.uint32 _) |>.required (.string _) |>.required (.uint64 _)
    |>.required (.string _) |>.required (.of_canonical hjson c.details.canonical_toJson)
    |>.optional (.list fun b _ => Billing.recovers b)).decoder (by simp)

theorem Contract.recovers (c : Contract) : Contract.decoder.Recovers (levels + 3) c.toJson c := by
  have hdetails : (ContractDetails.decoder c.kind).ofJson c.details.toJson = .ok c.details := by
    have hread : (ContractDetails.decoder c.kind).Reads 1 c.details.toJson c.details := c.details.reads
    rw [Decoder.ofJson, c.details.canonical_toJson]
    exact hread.reads _ (Context.allows_value _ _)
  have hunseal : Contract.Sealed.unseal ⟨c.contractId, c.twinId, c.state, c.createdAt, c.kind.label,
      c.details.toJson, c.billing⟩ = .ok c := by
    simp only [Contract.Sealed.unseal, ContractKind.ofLabel?_label, hdetails]
  have hreads {v : Json} (h : Contract.Sealed.decoder.Reads (levels + 3) v
      ⟨c.contractId, c.twinId, c.state, c.createdAt, c.kind.label, c.details.toJson, c.billing⟩) :
      Contract.decoder.Reads (levels + 3) v c := by
    refine ⟨h.fits, fun ctx hctx => ?_⟩
    rw [Contract.decoder, h.reads ctx hctx]
    exact hunseal
  have hsealed := @Contract.Sealed.recovers levels c
  exact ⟨hreads hsealed.written, hreads hsealed.canonical⟩

theorem Contract.reads (c : Contract) : Contract.decoder.Reads (levels + 3) c.toJson c := c.recovers.written

/-! ### Node details -/

namespace NodeDetail

/-- Where a member set aside is sound enough: only a text is looked through. -/
def keeps (c : Context) (m : String × Draft) : Bool := c.source ≠ .text || m.2.sound c.depth

/-- Members that are neither of the two texts are set aside, unless one of them is unsound. -/
private theorem sortOut_named {c : Context} (extras : Extras) (rest : List (Draft × Draft))
    {ms : List (String × Draft)} (hnames : ∀ m ∈ ms, m.1 ≠ "hypervisor" ∧ m.1 ≠ "zosVersion") :
    sortOut c extras (Draft.named ms ++ rest) =
      if ms.all (keeps c) then (sortOut c extras rest).map fun found => (found.1, Draft.named ms ++ found.2)
      else .error .malformed := by
  induction ms with
  | nil =>
    change sortOut c extras rest = (sortOut c extras rest).map fun found => (found.1, found.2)
    cases sortOut c extras rest <;> rfl
  | cons m ms ih =>
    obtain ⟨hname, hrest⟩ := List.forall_mem_cons.mp hnames
    rw [Draft.named, List.map_cons, List.cons_append, sortOut, if_neg hname.1, if_neg hname.2, List.all_cons]
    change (if _ then sortOut c extras (Draft.named ms ++ rest) >>= _ else _) = _
    rw [ih hrest]
    cases hkeeps : keeps c m with
    | true =>
      have hsound : c.source ≠ .text ∨ m.2.sound c.depth = true := by simpa [keeps] using hkeeps
      rw [if_pos hsound, Bool.true_and]
      split
      · cases sortOut c extras rest <;> rfl
      · rfl
    | false =>
      have hunsound : ¬ (c.source ≠ .text ∨ m.2.sound c.depth = true) := by
        rw [← Bool.not_eq_true] at hkeeps
        simpa [keeps] using hkeeps
      rw [if_neg hunsound]
      rfl

/-- A detail is read from the members of its node and the two texts: the node is read from what was set aside. -/
theorem decoder_named {N : Type} {record : Record N} {c c' : Context} (henter : c.enter = .ok c')
    {ms : List (String × Draft)} (hfields : record.fields.map (·.name) = ms.map (·.1))
    (hnames : ∀ m ∈ ms, m.1 ≠ "hypervisor" ∧ m.1 ≠ "zosVersion") (hypervisor zosVersion : String) :
    decoder record c (.obj (Draft.named (ms ++ [("hypervisor", .str hypervisor), ("zosVersion", .str zosVersion)]))) =
      if ms.all (keeps c') then
        (record.ofMembers { c' with source := .buffer } (Draft.named ms)).map fun node =>
          ⟨node, hypervisor, zosVersion⟩
      else .error .malformed := by
  have hextras : sortOut c' {} (Draft.named [("hypervisor", .str hypervisor), ("zosVersion", .str zosVersion)]) =
      .ok (⟨some hypervisor, some zosVersion⟩, []) := rfl
  have hsorted := sortOut_named (c := c') {}
    (Draft.named [("hypervisor", .str hypervisor), ("zosVersion", .str zosVersion)]) hnames
  rw [hextras] at hsorted
  simp only [decoder, henter]
  change (do
    let found ← sortOut c' {} _
    let node ← record.ofMembers { c' with source := .buffer } (found.2.filter _)
    Except.ok (⟨node, found.1.hypervisor.getD "", found.1.zosVersion.getD ""⟩ : NodeDetail N)) = _
  rw [Draft.named, List.map_append]
  change (do
    let found ← sortOut c' {} (Draft.named ms ++ Draft.named _)
    let node ← record.ofMembers { c' with source := .buffer } (found.2.filter _)
    Except.ok (⟨node, found.1.hypervisor.getD "", found.1.zosVersion.getD ""⟩ : NodeDetail N)) = _
  rw [hsorted]
  split
  · change (do
      let node ← record.ofMembers { c' with source := .buffer } ((Draft.named ms ++ []).filter _)
      Except.ok (⟨node, hypervisor, zosVersion⟩ : NodeDetail N)) = _
    rw [List.append_nil, List.filter_eq_self.mpr]
    · cases record.ofMembers { c' with source := .buffer } (Draft.named ms) <;> rfl
    -- all members that were set aside are fields of the record
    intro m hm
    obtain ⟨m', hm', rfl⟩ := List.mem_map.mp hm
    have hname : m'.1 ∈ record.fields.map (·.name) := by
      rw [hfields]
      exact List.mem_map_of_mem hm'
    simpa using hname
  · rfl

/-- Whether a member of a detail is the node's own. -/
def isOwn (m : String × Json) : Bool := m.1 ≠ "hypervisor" && m.1 ≠ "zosVersion"

/-- Without the two texts the members of a detail are those of the node. -/
theorem filter_isOwn {ms : List (String × Json)} (hnames : ∀ m ∈ ms, m.1 ≠ "hypervisor" ∧ m.1 ≠ "zosVersion")
    (hypervisor zosVersion : Json) :
    (ms ++ [("hypervisor", hypervisor), ("zosVersion", zosVersion)]).filter isOwn = ms := by
  have hkept : ms.filter isOwn = ms := List.filter_eq_self.mpr fun m hm => by simpa [isOwn] using hnames m hm
  simpa [isOwn] using hkept

/-- The two texts are found and the node's own members set aside, in whatever order they stand.  The invariant is that
a text has been found just if it does not stand ahead. -/
private theorem sortOut_ofMembers {c : Context} (hc : c.Allows levels) {hypervisor zosVersion : String}
    {ms : List (String × Json)} {extras : Extras} (hnodup : (ms.map (·.1)).Nodup)
    (hms : ∀ m ∈ ms, m = ("hypervisor", .str hypervisor) ∨ m = ("zosVersion", .str zosVersion) ∨
      isOwn m = true ∧ m.2.Fits levels)
    (hhypervisor : extras.hypervisor = if "hypervisor" ∈ ms.map (·.1) then none else some hypervisor)
    (hzosVersion : extras.zosVersion = if "zosVersion" ∈ ms.map (·.1) then none else some zosVersion) :
    sortOut c extras (Draft.ofMembers ms) =
      .ok (⟨some hypervisor, some zosVersion⟩, Draft.ofMembers (ms.filter isOwn)) := by
  induction ms generalizing extras with
  | nil =>
    obtain ⟨h, z⟩ := extras
    subst hhypervisor hzosVersion
    rfl
  | cons m ms ih =>
    rw [List.map_cons, List.nodup_cons] at hnodup
    obtain ⟨hm, hrest⟩ := List.forall_mem_cons.mp hms
    have htexts : "hypervisor" ≠ "zosVersion" := by decide
    rw [List.map_cons] at hhypervisor hzosVersion
    rcases hm with rfl | rfl | ⟨hown, hfits⟩
    · rw [if_pos List.mem_cons_self] at hhypervisor
      simp only [List.mem_cons, htexts.symm, false_or] at hzosVersion
      have hih := @ih { extras with hypervisor := some hypervisor } hnodup.2 hrest
        (if_neg hnodup.1).symm hzosVersion
      rw [List.filter_cons_of_neg (by simp [isOwn]), Draft.ofMembers, sortOut, if_pos rfl, hhypervisor]
      exact hih
    · rw [if_pos List.mem_cons_self] at hzosVersion
      simp only [List.mem_cons, htexts, false_or] at hhypervisor
      have hih := @ih { extras with zosVersion := some zosVersion } hnodup.2 hrest hhypervisor
        (if_neg hnodup.1).symm
      rw [List.filter_cons_of_neg (by simp [isOwn]), Draft.ofMembers, sortOut, if_neg htexts.symm, if_pos rfl,
        hzosVersion]
      exact hih
    · have hname : m.1 ≠ "hypervisor" ∧ m.1 ≠ "zosVersion" := by simpa [isOwn] using hown
      have hsound : c.source ≠ .text ∨ (Draft.ofJson m.2).sound c.depth = true :=
        Classical.or_iff_not_imp_left.mpr fun h => hfits.sound _ (hc (not_not.mp h))
      simp only [List.mem_cons, hname.1.symm, false_or] at hhypervisor
      simp only [List.mem_cons, hname.2.symm, false_or] at hzosVersion
      rw [List.filter_cons_of_pos hown, Draft.ofMembers, sortOut, if_neg hname.1, if_neg hname.2, if_pos hsound,
        ih hnodup.2 hrest hhypervisor hzosVersion]
      rfl

/-- The members of a node and the two texts have different names. -/
private theorem nodup_names {ms : List (String × Json)} (hnodup : (ms.map (·.1)).Nodup)
    (hnames : ∀ m ∈ ms, m.1 ≠ "hypervisor" ∧ m.1 ≠ "zosVersion") (hypervisor zosVersion : Json) :
    ((ms ++ [("hypervisor", hypervisor), ("zosVersion", zosVersion)]).map (·.1)).Nodup := by
  rw [List.map_append, List.nodup_append]
  refine ⟨hnodup, by simp, fun a ha b hb => ?_⟩
  obtain ⟨m, hm, rfl⟩ := List.mem_map.mp ha
  rcases List.mem_pair.mp hb with rfl | rfl
  · exact (hnames m hm).1
  · exact (hnames m hm).2

/-- A detail is read back from its members in any order, if its node is read back from its own. -/
theorem reads_of_perm {N : Type} {record : Record N} {node : N} {ms ms' : List (String × Json)}
    (hrecord : record.Reads levels ms node) (hnodup : (ms.map (·.1)).Nodup)
    (hnames : ∀ m ∈ ms, m.1 ≠ "hypervisor" ∧ m.1 ≠ "zosVersion") {hypervisor zosVersion : String}
    (hperm : ms'.Perm (ms ++ [("hypervisor", .str hypervisor), ("zosVersion", .str zosVersion)])) :
    (decoder record).Reads (levels + 1) (.obj ms') ⟨node, hypervisor, zosVersion⟩ := by
  have hms : ∀ m ∈ ms', m = ("hypervisor", .str hypervisor) ∨ m = ("zosVersion", .str zosVersion) ∨
      isOwn m = true ∧ m.2.Fits levels := by
    intro m hm
    rcases List.mem_append.mp (hperm.mem_iff.mp hm) with hm | hm
    · exact .inr (.inr ⟨by simpa [isOwn] using hnames m hm, hrecord.fits m hm⟩)
    · exact (List.mem_pair.mp hm).imp_right .inl
  have hall : (ms'.map (·.1)).Perm (ms.map (·.1) ++ ["hypervisor", "zosVersion"]) := by
    simpa using hperm.map (·.1)
  have hnodup' : (ms'.map (·.1)).Nodup := (hperm.map _).nodup_iff.mpr (nodup_names hnodup hnames _ _)
  refine ⟨Fits.obj fun m hm => ?_, fun c hc => ?_⟩
  · rcases hms m hm with rfl | rfl | ⟨-, hfits⟩
    · exact (Decoder.Reads.string hypervisor).fits
    · exact (Decoder.Reads.string zosVersion).fits
    · exact hfits
  · obtain ⟨c', henter, -, hc'⟩ := hc.enter
    have hsorted := @sortOut_ofMembers levels c' hc' hypervisor zosVersion ms' {} hnodup' hms
      (if_pos (hall.mem_iff.mpr (by simp))).symm (if_pos (hall.mem_iff.mpr (by simp))).symm
    -- the members set aside are those of the node, all of which the record looks for
    have hown : (ms'.filter isOwn).Perm ms := by
      have hkept := hperm.filter isOwn
      rwa [filter_isOwn hnames] at hkept
    have hnode := hrecord.ofMembers hnodup (Context.allows_buffer c'.depth _) hown
    rw [Draft.ofJson, decoder]
    simp only [henter]
    change (do
      let found ← sortOut c' {} (Draft.ofMembers ms')
      let node ← record.ofMembers { c' with source := .buffer } (found.2.filter _)
      Except.ok (⟨node, found.1.hypervisor.getD "", found.1.zosVersion.getD ""⟩ : NodeDetail N)) = _
    rw [hsorted]
    change (do
      let node ← record.ofMembers { c' with source := .buffer } ((Draft.ofMembers (ms'.filter isOwn)).filter _)
      Except.ok (⟨node, hypervisor, zosVersion⟩ : NodeDetail N)) = _
    rw [List.filter_eq_self.mpr, hnode]
    · rfl
    intro m hm
    rw [Draft.ofMembers_eq_map] at hm
    obtain ⟨m', hm', rfl⟩ := List.mem_map.mp hm
    have hname : m'.1 ∈ record.fields.map (·.name) := by
      rw [hrecord.fields_names]
      exact List.mem_map_of_mem (hown.mem_iff.mp hm')
    simpa using hname

/-- A detail is recovered if its node is recovered from members that are none of the two texts. -/
private theorem recovers_of_record {N : Type} {record : Record N} {members : N → List (String × Json)}
    {d : NodeDetail N}
    (hrecord : record.Recovers levels (members d.node) d.node) (hnodup : ((members d.node).map (·.1)).Nodup)
    (hnames : ∀ m ∈ members d.node, m.1 ≠ "hypervisor" ∧ m.1 ≠ "zosVersion") :
    (decoder record).Recovers (levels + 1) (d.toJson members) d := by
  refine ⟨reads_of_perm hrecord.written hnodup hnames (.refl _), ?_⟩
  have hnodup' : ((canonicalMembers (members d.node)).map (·.1)).Nodup := by rwa [canonicalMembers_names]
  have hnames' : ∀ m ∈ canonicalMembers (members d.node), m.1 ≠ "hypervisor" ∧ m.1 ≠ "zosVersion" := by
    rw [canonicalMembers_eq_map]
    exact List.forall_mem_map.mpr hnames
  refine reads_of_perm hrecord.canonical hnodup' hnames' ?_
  rw [canonicalMembers_append]
  exact sortMembers_perm (nodup_names hnodup' hnames' _ _)

end NodeDetail

theorem NodeDetail.recovers_flat {d : NodeDetail Node} (hd : d.node.location.IsUnmapped) :
    (NodeDetail.decoder Node.record).Recovers (levels + 2) d.flatJson d :=
  NodeDetail.recovers_of_record (Node.record_recovers hd) d.node.members_names.1 d.node.members_names.2

theorem NodeDetail.recovers_nested {d : NodeDetail NestedNode} (hd : d.node.location.IsUnmapped) :
    (NodeDetail.decoder NestedNode.record).Recovers (levels + 3) d.nestedJson d :=
  NodeDetail.recovers_of_record (NestedNode.record_recovers hd) d.node.members_names.1 d.node.members_names.2

theorem NodeDetail.reads {d : NodeDetail Node} (hd : d.node.location.IsUnmapped) :
    (NodeDetail.decoder Node.record).Reads (levels + 2) d.flatJson d := (NodeDetail.recovers_flat hd).written

end GridGateway
