import GridGateway.Json.Decoder

/-!
# Statistics

Figures about the whole grid, and the version of the service.
-/

namespace GridGateway

open Json

/-- The figures about the grid. The distribution counts nodes by country, in ascending order of the countries. -/
structure Counters where
  nodes : UInt64 := 0
  farms : UInt64 := 0
  countries : UInt64 := 0
  totalCru : UInt64 := 0
  totalSru : UInt64 := 0
  totalMru : UInt64 := 0
  totalHru : UInt64 := 0
  publicIps : UInt64 := 0
  accessNodes : UInt64 := 0
  gateways : UInt64 := 0
  twins : UInt64 := 0
  contracts : UInt64 := 0
  nodesDistribution : List (String × UInt64) := []
  deriving DecidableEq, Repr, Inhabited

/-- The figures as a document. -/
def Counters.toJson (c : Counters) : Json :=
  .obj [("nodes", .uint64 c.nodes), ("farms", .uint64 c.farms), ("countries", .uint64 c.countries),
    ("totalCru", .uint64 c.totalCru), ("totalSru", .uint64 c.totalSru), ("totalMru", .uint64 c.totalMru),
    ("totalHru", .uint64 c.totalHru), ("publicIps", .uint64 c.publicIps),
    ("accessNodes", .uint64 c.accessNodes), ("gateways", .uint64 c.gateways), ("twins", .uint64 c.twins),
    ("contracts", .uint64 c.contracts),
    ("nodesDistribution", .obj (c.nodesDistribution.map fun e => (e.1, .uint64 e.2)))]

/-- Reads the figures. -/
def Counters.decoder : Decoder Counters :=
  (Record.pure Counters.mk
    |>.optional "nodes" .uint64 0 |>.optional "farms" .uint64 0 |>.optional "countries" .uint64 0
    |>.optional "totalCru" .uint64 0 |>.optional "totalSru" .uint64 0 |>.optional "totalMru" .uint64 0
    |>.optional "totalHru" .uint64 0 |>.optional "publicIps" .uint64 0 |>.optional "accessNodes" .uint64 0
    |>.optional "gateways" .uint64 0 |>.optional "twins" .uint64 0 |>.optional "contracts" .uint64 0
    |>.optional "nodesDistribution" (.table .uint64) []).decoder "Counters"

/-- The version of the service. -/
structure Version where
  version : String
  deriving DecidableEq, Repr

/-- A version as a document. -/
def Version.toJson (v : Version) : Json := .obj [("version", .str v.version)]

/-- Reads a version. -/
def Version.decoder : Decoder Version :=
  (Record.pure Version.mk |>.required "version" .string).decoder "Version"

end GridGateway
