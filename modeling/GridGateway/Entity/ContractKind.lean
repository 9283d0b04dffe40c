import GridGateway.Text.Lowercase

/-!
# Kinds and states of contracts

The two closed vocabularies of contracts. Requests may spell them in any ASCII case.
-/

namespace GridGateway

/-- What a contract is about: a deployment on a node, a name, or the rent of a whole node. -/
inductive ContractKind where
  | node
  | name
  | rent
  deriving DecidableEq, Repr

namespace ContractKind

/-- All kinds, in the order in which they are listed. -/
def all : List ContractKind := [node, name, rent]

/-- The word for a kind. -/
def label : ContractKind → String
  | node => "node"
  | name => "name"
  | rent => "rent"

/-- The kind with exactly this word. -/
def ofLabel? (s : String) : Option ContractKind := all.find? (·.label = s)

/-- The kind a word stands for, whatever its ASCII case. -/
def ofWord? (s : String) : Option ContractKind := all.find? fun k => Text.sameIgnoringAsciiCase k.label s

end ContractKind

/-- Stages in the life of a contract. -/
inductive ContractState where
  | created
  | gracePeriod
  | deleted
  deriving DecidableEq, Repr

namespace ContractState

/-- All states, in the order in which they are listed. -/
def all : List ContractState := [created, gracePeriod, deleted]

/-- The word for a state. -/
def label : ContractState → String
  | created => "Created"
  | gracePeriod => "GracePeriod"
  | deleted => "Deleted"

/-- The state a word stands for, whatever its ASCII case. -/
def ofWord? (s : String) : Option ContractState :=
  all.find? fun k => Text.sameIgnoringAsciiCase k.label s

/-- The states in which a contract consumes capacity or holds a node. -/
def active : List ContractState := [created, gracePeriod]

/-- Whether a recorded state is one of the active states, in its exact spelling. -/
def isActive (recorded : String) : Bool := active.any (·.label = recorded)

end ContractState

end GridGateway
