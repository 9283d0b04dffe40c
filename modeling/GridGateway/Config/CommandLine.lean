import GridGateway.Config.File
import GridGateway.Text.Integer

/-!
# The command line

Arguments set single settings on top of those from a file. An option is given by its long name, and its value
stands behind an equals sign or is the next argument; some have a one-letter name too, and one-letter names can
stand together behind one dash. Nothing may be given twice. Some options may be given by the environment as well,
which counts only when the arguments are silent.

Arguments are taken one by one. The value of an option is looked at when the next one is met, so of two mistakes
the earlier one is not always the one that is reported.
-/

namespace GridGateway.Config

/-- Options with a value. -/
inductive Setting where
  | config
  | postgresHost
  | postgresPort
  | postgresDb
  | postgresUser
  | postgresPassword
  | address
  | logLevel
  | relayUrl
  | busTwinId
  | workers
  deriving DecidableEq, Repr

/-- Options without a value. -/
inductive Switch where
  | version
  | noCert
  | help
  deriving DecidableEq, Repr

/-- Why the arguments were refused. -/
inductive UsageError where
  /-- There is a request for help. -/
  | displayHelp
  | unknownArgument (argument : String)
  /-- There is no value where one must be. -/
  | invalidValue (name : String)
  /-- A value does not fit its option. -/
  | valueValidation (name value : String)
  /-- There is a value where none can be. -/
  | tooManyValues (name : String)
  /-- An option is given twice. -/
  | argumentConflict (name : String)
  deriving DecidableEq, Repr

/-- What the arguments say. -/
structure CommandLine where
  version : Bool := false
  config : Option String := none
  postgresHost : Option String := none
  postgresPort : Option UInt16 := none
  postgresDb : Option String := none
  postgresUser : Option String := none
  postgresPassword : Option String := none
  address : Option String := none
  logLevel : Option String := none
  noCert : Bool := false
  relayUrl : Option String := none
  busTwinId : Option UInt32 := none
  workers : Option UInt64 := none
  deriving DecidableEq, Repr, Inhabited

namespace Setting

/-- All options with a value, in the order in which they are listed. -/
def all : List Setting :=
  [config, postgresHost, postgresPort, postgresDb, postgresUser, postgresPassword, address, logLevel, relayUrl,
    busTwinId, workers]

/-- The long name of an option. -/
def name : Setting → String
  | config => "config"
  | postgresHost => "postgres-host"
  | postgresPort => "postgres-port"
  | postgresDb => "postgres-db"
  | postgresUser => "postgres-user"
  | postgresPassword => "postgres-password"
  | address => "address"
  | logLevel => "log-level"
  | relayUrl => "relay-url"
  | busTwinId => "bus-twin-id"
  | workers => "workers"

/-- The variable of the environment that gives an option. -/
def environmentName? : Setting → Option String
  | postgresPassword => some "POSTGRES_PASSWORD"
  | relayUrl => some "RELAY_URL"
  | busTwinId => some "BUS_TWIN_ID"
  | _ => none

/-- Whether an option has been given. -/
def isGiven (line : CommandLine) : Setting → Bool
  | config => line.config.isSome
  | postgresHost => line.postgresHost.isSome
  | postgresPort => line.postgresPort.isSome
  | postgresDb => line.postgresDb.isSome
  | postgresUser => line.postgresUser.isSome
  | postgresPassword => line.postgresPassword.isSome
  | address => line.address.isSome
  | logLevel => line.logLevel.isSome
  | relayUrl => line.relayUrl.isSome
  | busTwinId => line.busTwinId.isSome
  | workers => line.workers.isSome

/-- A number below a bound, perhaps with a sign. -/
def numberBelow? (bound : Nat) (value : String) : Option Nat :=
  match value.toList with
  | '-' :: digits =>
    if digits.head?.any Char.isDigit && Text.natOfChars? digits = some 0 then some 0 else none
  | cs => (Text.natOfChars? cs).filter (· < bound)

/-- The arguments with the value of an option read. -/
def read (line : CommandLine) (value : String) (s : Setting) : Except UsageError CommandLine :=
  let number {α : Type} (n : Option α) (set : α → CommandLine) : Except UsageError CommandLine :=
    match n with
    | some n => .ok (set n)
    | none => .error (.valueValidation s.name value)
  match s with
  | config =>
    if value.isEmpty then .error (.invalidValue s.name) else .ok { line with config := some value }
  | postgresHost => .ok { line with postgresHost := some value }
  | postgresPort => number (numberBelow? UInt16.size value) fun n => { line with postgresPort := some (.ofNat n) }
  | postgresDb => .ok { line with postgresDb := some value }
  | postgresUser => .ok { line with postgresUser := some value }
  | postgresPassword => .ok { line with postgresPassword := some value }
  | address => .ok { line with address := some value }
  | logLevel => .ok { line with logLevel := some value }
  | relayUrl => .ok { line with relayUrl := some value }
  | busTwinId => number (numberBelow? UInt32.size value) fun n => { line with busTwinId := some (.ofNat n) }
  | workers => number (Text.uint64? value) fun n => { line with workers := some n }

/-- The arguments with an option given, which must not have been given before. -/
def give (line : CommandLine) (value : String) (s : Setting) : Except UsageError CommandLine :=
  if s.isGiven line then .error (.argumentConflict s.name) else s.read line value

end Setting

namespace Switch

/-- All options without a value. -/
def all : List Switch := [version, noCert, help]

/-- The long name of an option. -/
def name : Switch → String
  | version => "version"
  | noCert => "no-cert"
  | help => "help"

/-- The arguments with an option given, which must not have been given before. -/
def give (line : CommandLine) : Switch → Except UsageError CommandLine
  | version =>
    if line.version then .error (.argumentConflict version.name) else .ok { line with version := true }
  | noCert => if line.noCert then .error (.argumentConflict noCert.name) else .ok { line with noCert := true }
  | help => .error .displayHelp

end Switch

/-- The arguments while they are being read. -/
structure Intake where
  line : CommandLine := {}
  /-- The option met last whose value has not been looked at; the value is absent as long as it may be the next
  argument. -/
  pending : Option (Setting × Option String) := none
  /-- Whether all further arguments stand for themselves. -/
  trailing : Bool := false

namespace Intake

/-- The arguments once the value of the pending option has been looked at. -/
def settle (i : Intake) : Except UsageError CommandLine :=
  match i.pending with
  | none => .ok i.line
  | some (s, none) => .error (.invalidValue s.name)
  | some (s, some value) => s.give i.line value

/-- Takes an option with its value, if the value is at hand. -/
def option (i : Intake) (s : Setting) (value : Option String) : Except UsageError Intake := do
  let line ← i.settle
  match value with
  | some value => return { i with line := ← s.give line value, pending := none }
  | none => return { i with line := line, pending := some (s, none) }

/-- Takes an option without a value. -/
def switch (i : Intake) (s : Switch) : Except UsageError Intake := do
  let line ← i.settle
  return { i with line := ← s.give line, pending := none }

/-- Takes an argument after two dashes. -/
def long (i : Intake) (argument : String) (cs : List Char) : Except UsageError Intake :=
  let (name, value) := Query.splitFirst '=' cs
  let name := String.ofList name
  let value := if cs.contains '=' then some (String.ofList value) else none
  match Switch.all.find? (·.name = name), Setting.all.find? (·.name = name) with
  | some s, _ => if value.isSome then .error (.tooManyValues s.name) else i.switch s
  | none, some s => i.option s value
  | none, none => .error (.unknownArgument argument)

/-- Takes one-letter names after one dash. -/
def short (i : Intake) (argument : String) : List Char → Except UsageError Intake
  | [] => .ok i
  | 'v' :: rest => do
    let i ← i.switch .version
    i.short argument rest
  | 'h' :: _ => i.switch .help
  | 'c' :: rest =>
    let value := if rest.head? = some '=' then rest.drop 1 else rest
    i.option .config (if rest.isEmpty then none else some (String.ofList value))
  | _ => .error (.unknownArgument argument)

/-- Takes one argument. -/
def take (i : Intake) (argument : String) : Except UsageError Intake :=
  let plain : Except UsageError Intake :=
    match i.pending with
    | some (s, none) => .ok { i with pending := some (s, some argument) }
    | _ => .error (.unknownArgument argument)
  if i.trailing then .error (.unknownArgument argument)
  else match argument.toList with
    | ['-', '-'] => .ok { i with trailing := true }
    | '-' :: '-' :: cs => i.long argument cs
    | ['-'] => plain
    | '-' :: cs => i.short argument cs
    | _ => plain

/-- Takes the value of an option from the environment, unless the arguments have given it. -/
def fromEnvironment (env : String → Option String) (line : CommandLine) (s : Setting) :
    Except UsageError CommandLine :=
  match s.isGiven line, s.environmentName?.bind env with
  | false, some value => s.give line value
  | _, _ => .ok line

end Intake

namespace CommandLine

/-- Reads arguments, with an environment. -/
def parse (env : String → Option String) (arguments : List String) : Except UsageError CommandLine := do
  let intake ← arguments.foldlM Intake.take {}
  let line ← intake.settle
  Setting.all.foldlM (Intake.fromEnvironment env) line

/-- Settings with those of the arguments on top. -/
def apply (line : CommandLine) (g : Gateway) : Gateway :=
  { g with
    postgres :=
      { g.postgres with
        host := line.postgresHost.getD g.postgres.host
        port := line.postgresPort.getD g.postgres.port
        db := line.postgresDb.getD g.postgres.db
        user := line.postgresUser.getD g.postgres.user
        password := line.postgresPassword.getD g.postgres.password }
    address := line.address.getD g.address
    logLevel := line.logLevel.getD g.logLevel
    noCert := g.noCert || line.noCert
    relayUrl := line.relayUrl.or g.relayUrl
    busTwinId := line.busTwinId.getD g.busTwinId
    refresher := { g.refresher with workers := line.workers.getD g.refresher.workers } }

/-- The settings that arguments lead to, where `read` gives the text of a file. -/
def settings (read : String → Option String) (line : CommandLine) : Except FileError Gateway := do
  let base ← match line.config with
    | some path => Gateway.ofFile path (read path)
    | none => pure {}
  return line.apply base

end CommandLine

/-- The version of the gateway. -/
def buildVersion : String := "0.1.0"

end GridGateway.Config
