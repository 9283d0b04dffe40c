import GridGateway.Entity.Capacity

/-!
# What a node reports

The answers of a node to the three questions that the gateway asks over the bus, and the report that they make up.
-/

namespace GridGateway.Bus

open Json

/-- Resource counters of a node: a capacity and the number of public addresses. -/
structure NodeResources where
  cru : UInt64 := 0
  sru : UInt64 := 0
  hru : UInt64 := 0
  mru : UInt64 := 0
  ipv4u : UInt64 := 0
  deriving DecidableEq, Repr, Inhabited

/-- The capacity among the counters. -/
def NodeResources.capacity (r : NodeResources) : Capacity := ⟨r.cru, r.sru, r.hru, r.mru⟩

/-- Reads resource counters. -/
def NodeResources.decoder : Decoder NodeResources :=
  (Record.pure NodeResources.mk
    |>.optional "cru" .uint64 0 |>.optional "sru" .uint64 0 |>.optional "hru" .uint64 0
    |>.optional "mru" .uint64 0 |>.optional "ipv4u" .uint64 0).decoder "NodeResources"

/-- The answer to the question for statistics. -/
structure NodeStatistics where
  total : NodeResources := {}
  used : NodeResources := {}
  deriving DecidableEq, Repr, Inhabited

/-- Reads statistics. -/
def NodeStatistics.decoder : Decoder NodeStatistics :=
  (Record.pure NodeStatistics.mk
    |>.optional "total" NodeResources.decoder {} |>.optional "used" NodeResources.decoder {}
    ).decoder "NodeStatistics"

/-- The answer to the question for the version. -/
structure ZosVersion where
  zos : String := ""
  zinit : String := ""
  deriving DecidableEq, Repr, Inhabited

/-- Reads a version. -/
def ZosVersion.decoder : Decoder ZosVersion :=
  (Record.pure ZosVersion.mk |>.optional "zos" .string "" |>.optional "zinit" .string "").decoder "ZosVersion"

/-- What a successful fetch learns from a node. -/
structure Report where
  total : Capacity := {}
  used : Capacity := {}
  usedIpv4u : UInt64 := 0
  hypervisor : String := ""
  zosVersion : String := ""
  deriving DecidableEq, Repr, Inhabited

/-- The report that three answers make up. -/
def Report.ofAnswers (statistics : NodeStatistics) (hypervisor : String) (version : ZosVersion) : Report where
  total := statistics.total.capacity
  used := statistics.used.capacity
  usedIpv4u := statistics.used.ipv4u
  hypervisor := hypervisor
  zosVersion := version.zos

end GridGateway.Bus
