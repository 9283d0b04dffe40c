import GridGateway.Json.Decoder

/-!
# Settings of the database
-/

namespace GridGateway.Config

open Json

/-- Where the database is and how it is used. -/
structure Database where
  host : String := "localhost"
  port : UInt16 := 5432
  db : String := "tfgrid-graphql"
  user : String := "postgres"
  password : String := ""
  maxConnections : UInt32 := 16
  /-- Seconds after which an attempt to connect is given up. -/
  connectTimeout : UInt64 := 10
  deriving DecidableEq, Repr, Inhabited

namespace Database

/-- Settings of the database as a document. -/
def toJson (d : Database) : Json :=
  .obj [("host", .str d.host), ("port", .nat d.port.toNat), ("db", .str d.db), ("user", .str d.user),
    ("password", .str d.password), ("max_connections", .uint32 d.maxConnections),
    ("connect_timeout_secs", .uint64 d.connectTimeout)]

/-- Reads settings of the database; what is absent has its default. -/
def decoder : Decoder Database :=
  let usual : Database := {}
  (Record.pure Database.mk
    |>.optional "host" .string usual.host |>.optional "port" .uint16 usual.port
    |>.optional "db" .string usual.db |>.optional "user" .string usual.user
    |>.optional "password" .string usual.password
    |>.optional "max_connections" .uint32 usual.maxConnections
    |>.optional "connect_timeout_secs" .uint64 usual.connectTimeout).decoder "Database"

end Database

end GridGateway.Config
