import GridGateway.Bus.Call
import GridGateway.Proofs.Json.Fields

/-!
# What the replies of a node tell

A reply is a document, and its members are what a node tells: the counters of a capacity are whole numbers of 64 bits, a
hypervisor is a string, a version holds two strings, and what is left out has a default (`Question.Tells`).  A reply is
read if and only if it tells something, and then as what it tells (`Question.read_eq_ok_iff`); any other reply does not
decode (`Question.read_eq_error_iff`).
-/

namespace GridGateway.Bus

open Json

/-- The members of resource counters. -/
def NodeResources.names : List String := ["cru", "sru", "hru", "mru", "ipv4u"]

/-- The members of statistics. -/
def NodeStatistics.names : List String := ["total", "used"]

/-- The members of a version. -/
def ZosVersion.names : List String := ["zos", "zinit"]

/-- A document tells a counter, which is nought if it is left out. -/
def TellsCount (name : String) : Json → UInt64 → Prop :=
  TellsOf NodeResources.names name (fun w n => w = .int n.toNat) 0

/-- A document tells resource counters. -/
structure TellsResources (v : Json) (r : NodeResources) : Prop where
  room : v.HasRoomIn NodeResources.names
  cru : TellsCount "cru" v r.cru
  sru : TellsCount "sru" v r.sru
  hru : TellsCount "hru" v r.hru
  mru : TellsCount "mru" v r.mru
  ipv4u : TellsCount "ipv4u" v r.ipv4u

/-- A document tells statistics; counters that are left out are all nought. -/
structure TellsStatistics (v : Json) (s : NodeStatistics) : Prop where
  room : v.HasRoomIn NodeStatistics.names
  total : v.TellsOf NodeStatistics.names "total" TellsResources ⟨0, 0, 0, 0, 0⟩ s.total
  used : v.TellsOf NodeStatistics.names "used" TellsResources ⟨0, 0, 0, 0, 0⟩ s.used

/-- A document tells a version; what is left out is empty. -/
structure TellsVersion (v : Json) (version : ZosVersion) : Prop where
  room : v.HasRoomIn ZosVersion.names
  zos : v.TellsOf ZosVersion.names "zos" (fun w s => w = .str s) "" version.zos
  zinit : v.TellsOf ZosVersion.names "zinit" (fun w s => w = .str s) "" version.zinit

/-- What a document tells in reply to a question. -/
def Question.Tells : (q : Question) → Json → q.Reply → Prop
  | .statistics => TellsStatistics
  | .hypervisor => fun v hypervisor => v = .str hypervisor
  | .version => TellsVersion

/-! ### Replies are read as what they tell -/

private theorem uint64_ofJson_iff (v : Json) (n : UInt64) : Decoder.uint64.ofJson v = .ok n ↔ v = .int n.toNat := by
  constructor
  · intro h
    rw [Decoder.ofJson] at h
    cases v with
    | int k =>
      change (if 0 ≤ k ∧ k < UInt64.size then _ else _) = _ at h
      split at h
      · next hk =>
        cases h
        have hnat : (k.toNat : Int) = k := Int.toNat_of_nonneg hk.1
        have hlt : k.toNat < UInt64.size := by omega
        rw [UInt64.toNat_ofNat_of_lt' hlt, hnat]
      · cases h
    | _ => cases h
  · rintro rfl
    have hreads : Decoder.uint64.Reads 0 (.uint64 n) n := .uint64 n
    exact hreads.reads _ (Context.allows_value _ _)

private theorem string_ofJson_iff (v : Json) (s : String) : Decoder.string.ofJson v = .ok s ↔ v = .str s := by
  refine ⟨eq_str_of_ofJson, ?_⟩
  rintro rfl
  rfl

/-- Values that are told in the same way are told alike by a field. -/
private theorem tellsOf_congr {α : Type} {means means' : Json → α → Prop} (h : ∀ w a, means w a ↔ means' w a)
    {fields : List String} {name : String} {default a : α} {v : Json} :
    v.TellsOf fields name means default a ↔ v.TellsOf fields name means' default a := by
  rw [TellsOf, TellsOf]
  cases v.fieldOf? fields name with
  | none => exact Iff.rfl
  | some w => exact h w a

private theorem resources_ofJson_iff (v : Json) (r : NodeResources) :
    NodeResources.decoder.ofJson v = .ok r ↔ TellsResources v r := by
  have hsound := (Record.Sound.pure NodeResources.mk).optional "cru" .uint64 0
    |>.optional "sru" .uint64 0 |>.optional "hru" .uint64 0 |>.optional "mru" .uint64 0 |>.optional "ipv4u" .uint64 0
  have hcount {name : String} {n : UInt64} :
      v.TellsOf NodeResources.names name (fun w n => Decoder.uint64.ofJson w = .ok n) 0 n ↔ TellsCount name v n :=
    tellsOf_congr uint64_ofJson_iff
  refine hsound.ofJson_eq_ok_iff.trans ?_
  constructor
  · rintro ⟨hbuilds, hroom⟩
    obtain ⟨_, ipv4u, rfl, hbuilds, hipv4u⟩ := Record.BuildsFrom.optional_iff.1 hbuilds
    obtain ⟨_, mru, rfl, hbuilds, hmru⟩ := Record.BuildsFrom.optional_iff.1 hbuilds
    obtain ⟨_, hru, rfl, hbuilds, hhru⟩ := Record.BuildsFrom.optional_iff.1 hbuilds
    obtain ⟨_, sru, rfl, hbuilds, hsru⟩ := Record.BuildsFrom.optional_iff.1 hbuilds
    obtain ⟨_, cru, rfl, hbuilds, hcru⟩ := Record.BuildsFrom.optional_iff.1 hbuilds
    obtain rfl := hbuilds.pure
    exact ⟨hroom, hcount.1 hcru, hcount.1 hsru, hcount.1 hhru, hcount.1 hmru, hcount.1 hipv4u⟩
  · intro h
    exact ⟨.add (.add (.add (.add (.add (.self NodeResources.mk) (hcount.2 h.cru)) (hcount.2 h.sru)) (hcount.2 h.hru))
      (hcount.2 h.mru)) (hcount.2 h.ipv4u), h.room⟩

private theorem statistics_ofJson_iff (v : Json) (s : NodeStatistics) :
    NodeStatistics.decoder.ofJson v = .ok s ↔ TellsStatistics v s := by
  have hsound := (Record.Sound.pure NodeStatistics.mk).optional "total" NodeResources.decoder {}
    |>.optional "used" NodeResources.decoder {}
  have hresources {name : String} {r : NodeResources} :
      v.TellsOf NodeStatistics.names name (fun w r => NodeResources.decoder.ofJson w = .ok r) {} r ↔
        v.TellsOf NodeStatistics.names name TellsResources ⟨0, 0, 0, 0, 0⟩ r := tellsOf_congr resources_ofJson_iff
  refine hsound.ofJson_eq_ok_iff.trans ?_
  constructor
  · rintro ⟨hbuilds, hroom⟩
    obtain ⟨_, used, rfl, hbuilds, hused⟩ := Record.BuildsFrom.optional_iff.1 hbuilds
    obtain ⟨_, total, rfl, hbuilds, htotal⟩ := Record.BuildsFrom.optional_iff.1 hbuilds
    obtain rfl := hbuilds.pure
    exact ⟨hroom, hresources.1 htotal, hresources.1 hused⟩
  · intro h
    exact ⟨.add (.add (.self NodeStatistics.mk) (hresources.2 h.total)) (hresources.2 h.used), h.room⟩

private theorem version_ofJson_iff (v : Json) (version : ZosVersion) :
    ZosVersion.decoder.ofJson v = .ok version ↔ TellsVersion v version := by
  have hsound := (Record.Sound.pure ZosVersion.mk).optional "zos" .string "" |>.optional "zinit" .string ""
  have htext {name s : String} :
      v.TellsOf ZosVersion.names name (fun w s => Decoder.string.ofJson w = .ok s) "" s ↔
        v.TellsOf ZosVersion.names name (fun w s => w = .str s) "" s := tellsOf_congr string_ofJson_iff
  refine hsound.ofJson_eq_ok_iff.trans ?_
  constructor
  · rintro ⟨hbuilds, hroom⟩
    obtain ⟨_, zinit, rfl, hbuilds, hzinit⟩ := Record.BuildsFrom.optional_iff.1 hbuilds
    obtain ⟨_, zos, rfl, hbuilds, hzos⟩ := Record.BuildsFrom.optional_iff.1 hbuilds
    obtain rfl := hbuilds.pure
    exact ⟨hroom, htext.1 hzos, htext.1 hzinit⟩
  · intro h
    exact ⟨.add (.add (.self ZosVersion.mk) (htext.2 h.zos)) (htext.2 h.zinit), h.room⟩

namespace Question

private theorem decoder_ofJson_iff (q : Question) (v : Json) (r : q.Reply) :
    q.decoder.ofJson v = .ok r ↔ q.Tells v r := by
  cases q with
  | statistics => exact statistics_ofJson_iff v r
  | hypervisor => exact string_ofJson_iff v r
  | version => exact version_ofJson_iff v r

/-- A reply is read as what it tells. -/
theorem read_eq_ok_iff (q : Question) (v : Json) (r : q.Reply) : q.read v = .ok r ↔ q.Tells v r := by
  rw [← decoder_ofJson_iff, read]
  cases q.decoder.ofJson v <;> simp [Except.mapError]

/-- A reply that tells nothing does not decode, for a reason that is told together with the command. -/
theorem read_eq_error_iff (q : Question) (v : Json) (e : BusError) :
    q.read v = .error e ↔ (∀ r, ¬ q.Tells v r) ∧
      ∃ reason, q.decoder.ofJson v = .error reason ∧ e = .decode q.command reason.message := by
  simp only [← decoder_ofJson_iff, read]
  cases q.decoder.ofJson v with
  | ok r => simp [Except.mapError]
  | error reason => simp [Except.mapError, eq_comm]

end Question

end GridGateway.Bus
