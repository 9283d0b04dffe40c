import GridGateway.Bus.Call

/-!
# Scripted buses

A bus that answers from a list of rules: a call takes the first rule that applies to it and is not used up. A
scripted bus stands in for the nodes wherever the behaviour of the gateway towards them is of interest.
-/

namespace GridGateway.Bus

/-- How a rule answers. -/
inductive Reaction where
  | remote (message : String)
  | http (status : Nat) (body : String)
  /-- A timeout after so many milliseconds, which is reported without waiting for them. -/
  | timeout (ms : Nat)
  | reply (value : Json)

/-- A rule of a scripted bus. -/
structure Rule where
  /-- The twin that the rule is about; any when there is none. -/
  twinId : Option UInt32
  /-- The command that the rule is about; any when there is none. -/
  command : Option String
  /-- How many times the rule can still be taken; for ever when there is no number. -/
  left : Option Nat
  /-- Milliseconds before the rule answers. -/
  delay : Nat
  reaction : Reaction

/-- The rules of a scripted bus in the order in which they are tried. -/
abbrev Script := List Rule

/-- Whether a rule is for a call and not used up. -/
def Rule.applies (r : Rule) (twinId : UInt32) (command : String) : Bool :=
  r.twinId.all (· = twinId) && r.command.all (· = command) && r.left.all (0 < ·)

/-- What a reaction comes to for a twin. -/
def Reaction.result (twinId : UInt32) : Reaction → Except BusError Json
  | remote message => .error (.remote twinId message)
  | http status body => .error (.http status body)
  | timeout ms => .error (.timeout (millis ms))
  | reply value => .ok value

/-- The answer of a script to a call, and the script after it. -/
def Script.answer (twinId : UInt32) (command : String) : Script → Outcome × Script
  | [] => (⟨0, .error (.remote twinId "no rule")⟩, [])
  | r :: rs =>
    if r.applies twinId command then
      (⟨r.delay, r.reaction.result twinId⟩, { r with left := r.left.map (· - 1) } :: rs)
    else
      let (outcome, rs) := Script.answer twinId command rs
      (outcome, r :: rs)

/-- A scripted bus. -/
def scripted : Bus Script := ⟨fun twinId command script => Script.answer twinId command script⟩

end GridGateway.Bus
