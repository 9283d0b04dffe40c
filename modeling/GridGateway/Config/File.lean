import GridGateway.Config.Gateway
import GridGateway.Query.Text
import GridGateway.Text.Lowercase
import GridGateway.Toml.Document

/-!
# Configuration files

Settings are read from a file in one of two formats, which is told by the extension of the file's name.
-/

namespace GridGateway.Config

/-- Why the settings could not be read from a file. -/
inductive FileError where
  /-- There is no such file. -/
  | absent
  /-- No format belongs to the extension. -/
  | extension (text : String)
  /-- The file does not hold settings in TOML. -/
  | toml
  /-- The file does not hold settings in JSON. -/
  | json
  deriving DecidableEq, Repr

/-- The text of a file error. -/
def FileError.message : FileError → String
  | absent => "no such file"
  | extension text => "Unsupported config file extension: " ++ text
  | toml => "malformed TOML"
  | json => "malformed JSON"

/-- The last part of a path. -/
def fileName (path : List Char) : List Char := (path.reverse.takeWhile (· ≠ '/')).reverse

/-- The extension of a file: what follows the last point of its name, unless the point is the first character. -/
def extensionOf (path : String) : String :=
  let (back, front) := Query.splitFirst '.' (fileName path.toList).reverse
  if front.isEmpty then "" else String.ofList back.reverse

/-- The settings in the text of a file with a name. -/
def Gateway.ofFile (path : String) (content : Option String) : Except FileError Gateway := do
  let some text := content | throw .absent
  let ext := extensionOf path
  let format := Text.lower ext
  if format = "toml" then
    match (Toml.parse? text).map fun v => Gateway.decoder.ofJson v.toJson with
    | some (.ok settings) => return settings
    | _ => throw .toml
  else if format = "json" then
    match Gateway.decoder.ofText text with
    | .ok settings => return settings
    | .error _ => throw .json
  else throw (.extension ext)

end GridGateway.Config
