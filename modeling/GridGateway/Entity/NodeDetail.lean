import GridGateway.Entity.Node

/-!
# Node details

A node together with what it tells about itself: its hypervisor and the version of its operating system. On the
wire the two are further members of the node's own object.

Because the node's members and the two further ones share an object, reading goes in two passes: members that
belong to neither text are set aside, and the node is read from them afterwards. A fault inside a member set aside
thus counts even when nobody looks at the member, and faults in the two further members come first.
-/

namespace GridGateway

open Json

/-- A node in the form `N`, with its hypervisor and the version of its operating system. -/
structure NodeDetail (N : Type) where
  node : N
  hypervisor : String
  zosVersion : String
  deriving DecidableEq, Repr

namespace NodeDetail

/-- A detail as a document, given the members of the node. -/
def toJson {N : Type} (members : N → List (String × Json)) (d : NodeDetail N) : Json :=
  .obj (members d.node ++ [("hypervisor", .str d.hypervisor), ("zosVersion", .str d.zosVersion)])

/-- The two texts that go with a node, as far as they have been read. -/
structure Extras where
  hypervisor : Option String := none
  zosVersion : Option String := none

/-- Goes through the members of a detail: reads the two texts and sets the other members aside. -/
def sortOut (c : Context) : Extras → List (Draft × Draft) → Except DecodeError (Extras × List (Draft × Draft))
  | extras, [] => .ok (extras, [])
  | extras, (.str k, d) :: ms =>
    if k = "hypervisor" then
      if extras.hypervisor.isSome then .error (.duplicateField k)
      else do
        let s ← Decoder.string c d
        sortOut c { extras with hypervisor := some s } ms
    else if k = "zosVersion" then
      if extras.zosVersion.isSome then .error (.duplicateField k)
      else do
        let s ← Decoder.string c d
        sortOut c { extras with zosVersion := some s } ms
    else if c.source ≠ .text ∨ d.sound c.depth then do
      let (extras, aside) ← sortOut c extras ms
      return (extras, (.str k, d) :: aside)
    else .error .malformed
  | _, _ :: _ => .error .malformed

/-- Reads a detail whose node is read as `record` says. -/
def decoder {N : Type} (record : Record N) : Decoder (NodeDetail N) := fun c d =>
  match d with
  | .obj members => do
    let c ← c.enter
    let (extras, aside) ← sortOut c {} members
    let own := aside.filter fun
      | (.str k, _) => record.fields.any (·.name = k)
      | _ => false
    let node ← record.ofMembers { c with source := .buffer } own
    return ⟨node, extras.hypervisor.getD "", extras.zosVersion.getD ""⟩
  | d => .error (d.mismatch "struct NodeInfo")

end NodeDetail

/-- A detail of a node in the first form, as a document. -/
def NodeDetail.flatJson (d : NodeDetail Node) : Json := d.toJson Node.members

/-- A detail of a node in the second form, as a document. -/
def NodeDetail.nestedJson (d : NodeDetail NestedNode) : Json := d.toJson NestedNode.members

end GridGateway
