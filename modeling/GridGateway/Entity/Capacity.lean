import GridGateway.Json.Decoder

/-!
# Capacity

Amounts of the four resources of a node: cores, and bytes of solid-state storage, of hard-disk storage and of
memory.
-/

namespace GridGateway

open Json

/-- Resource amounts. -/
structure Capacity where
  cru : UInt64 := 0
  sru : UInt64 := 0
  hru : UInt64 := 0
  mru : UInt64 := 0
  deriving DecidableEq, Repr, Inhabited

namespace Capacity

/-- The sum of two capacities, resource by resource. -/
def add (a b : Capacity) : Capacity := ⟨a.cru + b.cru, a.sru + b.sru, a.hru + b.hru, a.mru + b.mru⟩

instance : Add Capacity := ⟨add⟩

/-- The sum of a list of capacities. -/
def total (cs : List Capacity) : Capacity := cs.foldr add {}

/-- A capacity as a document. -/
def toJson (c : Capacity) : Json :=
  .obj [("cru", .uint64 c.cru), ("sru", .uint64 c.sru), ("hru", .uint64 c.hru), ("mru", .uint64 c.mru)]

/-- Reads a capacity; absent amounts are zero. -/
def decoder : Decoder Capacity :=
  (Record.pure Capacity.mk
    |>.optional "cru" .uint64 0 |>.optional "sru" .uint64 0
    |>.optional "hru" .uint64 0 |>.optional "mru" .uint64 0).decoder "Capacity"

end Capacity

end GridGateway
