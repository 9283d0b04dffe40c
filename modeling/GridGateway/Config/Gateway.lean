import GridGateway.Config.Database
import GridGateway.Telemetry.Settings

/-!
# Settings of the gateway
-/

namespace GridGateway.Config

open Json

/-- All settings of the gateway. -/
structure Gateway where
  postgres : Database := {}
  /-- Where the gateway listens: a host and a port, or a port alone for every interface. -/
  address : String := ":443"
  logLevel : String := "info"
  /-- Whether plain HTTP is served on purpose. -/
  noCert : Bool := false
  /-- The base URL of the relay; without one no telemetry is fetched. -/
  relayUrl : Option String := none
  /-- The twin that the gateway speaks as on the bus. -/
  busTwinId : UInt32 := 0
  refresher : Telemetry.Settings := {}
  deriving DecidableEq, Repr, Inhabited

namespace Gateway

/-- All settings as a document. -/
def toJson (g : Gateway) : Json :=
  .obj [("postgres", g.postgres.toJson), ("address", .str g.address), ("log_level", .str g.logLevel),
    ("no_cert", .bool g.noCert), ("relay_url", .option .str g.relayUrl), ("bus_twin_id", .uint32 g.busTwinId),
    ("refresher", g.refresher.toJson)]

/-- Reads settings; what is absent has its default. -/
def decoder : Decoder Gateway :=
  let usual : Gateway := {}
  (Record.pure Gateway.mk
    |>.optional "postgres" Database.decoder usual.postgres |>.optional "address" .string usual.address
    |>.optional "log_level" .string usual.logLevel |>.optional "no_cert" .bool usual.noCert
    |>.optional "relay_url" (.option .string) usual.relayUrl
    |>.optional "bus_twin_id" .uint32 usual.busTwinId
    |>.optional "refresher" Telemetry.Settings.decoder usual.refresher).decoder "Gateway"

end Gateway

end GridGateway.Config
