import GridGateway.Config.Usage

/-!
# The program

Reads the arguments, the environment and the configuration file, and prints what is said about them.
-/

namespace GridGateway

open Config

/-- The variables of the environment that may give options. -/
def readEnvironment : IO (List (String × String)) :=
  (Setting.all.filterMap (·.environmentName?)).filterMapM fun name => do
    return (← IO.getEnv name).map fun value => (name, value)

/-- The text of the file with a path; nothing if it cannot be read. -/
def readText (path : String) : IO (Option String) := do
  try return some (← IO.FS.readFile path)
  catch _ => return none

/-- Prints an announcement: to the standard output, or to the error output if the program fails. -/
def Config.Announcement.print (a : Announcement) : IO UInt32 := do
  if a.code = 0 then IO.println a.text else IO.eprintln ("error: " ++ a.text)
  return a.code

/-- Answers a command line. -/
def answer (arguments : List String) : IO UInt32 := do
  let env ← readEnvironment
  match CommandLine.parse (env.lookup ·) arguments with
  | .error e => (Announcement.mk e.code e.message).print
  | .ok line =>
    let content ← match line.config with
      | some path => readText path
      | none => pure none
    (line.announce fun _ => content).print

end GridGateway

/-- Runs the program. -/
def main (arguments : List String) : IO UInt32 := GridGateway.answer arguments
