import GridGateway.Config.CommandLine
import GridGateway.Http.NumericHost
import GridGateway.Json.Printer

/-!
# What the command line is told

The texts that answer the arguments: how they are used, what is wrong with them, the version, or the settings that
they lead to.
-/

namespace GridGateway.Config

/-- What is said about the arguments. -/
structure Announcement where
  /-- The code with which the program ends. -/
  code : UInt32
  text : String
  deriving DecidableEq, Repr

/-- How an option with a value is written. -/
def Setting.usage (s : Setting) : String := "  --" ++ s.name ++ " <VALUE>"

/-- How an option without a value is written. -/
def Switch.usage (s : Switch) : String := "  --" ++ s.name

/-- How the arguments are used. -/
def usageText : String :=
  "\n".intercalate ("Options:" :: Switch.all.map Switch.usage ++ Setting.all.map Setting.usage)

/-- The text of a usage error. -/
def UsageError.message : UsageError → String
  | displayHelp => usageText
  | unknownArgument argument => "unexpected argument " ++ Text.quoted argument
  | invalidValue name => "--" ++ name ++ " needs a value"
  | valueValidation name value => "invalid value " ++ Text.quoted value ++ " for --" ++ name
  | tooManyValues name => "--" ++ name ++ " takes no value"
  | argumentConflict name => "--" ++ name ++ " is given more than once"

/-- The code with which the program ends after a usage error; to ask for help is none. -/
def UsageError.code : UsageError → UInt32
  | displayHelp => 0
  | _ => 2

namespace Gateway

/-- Settings without what is secret. -/
def withoutSecrets (g : Gateway) : Gateway := { g with postgres := { g.postgres with password := "" } }

/-- What is said about settings: the address to listen at and the settings themselves. -/
def announce (g : Gateway) : Announcement :=
  match Http.listenAddress g.address with
  | .ok address => ⟨0, "listen at " ++ address.text ++ "\n" ++ g.withoutSecrets.toJson.text⟩
  | .error e => ⟨1, e.message⟩

end Gateway

namespace CommandLine

/-- What is said about arguments that could be read, where `read` gives the text of a file. -/
def announce (read : String → Option String) (line : CommandLine) : Announcement :=
  if line.version then ⟨0, buildVersion⟩
  else match line.settings read with
    | .ok g => g.announce
    | .error e => ⟨1, e.message⟩

end CommandLine

end GridGateway.Config
