import GridGateway.Grid.Basic
import GridGateway.Text.Substring

/-!
# What matches a filter

The constraints of the filters, read against the records of a grid. An absent constraint always holds.
-/

namespace GridGateway.Grid

open Query

/-- The value is what is wanted. -/
def equals {α : Type} [DecidableEq α] (value : α) (wanted : Option α) : Bool :=
  wanted.all fun w => value = w

/-- The number is at least what is wanted. -/
def atLeast (value : UInt64) (wanted : Option UInt64) : Bool := wanted.all fun w => w ≤ value

/-- The text is what is wanted, whatever the case of letters. -/
def sameText (value : String) (wanted : Option String) : Bool :=
  wanted.all fun w => Text.lower value = Text.lower w

/-- The text contains what is wanted, whatever the case of letters. -/
def containsText (value : String) (wanted : Option String) : Bool :=
  wanted.all fun w => Text.contains (Text.lower value) (Text.lower w)

/-- Whether a node may be rented: it is dedicated or carries no active deployment, and nobody rents it. -/
def isRentable (g : Grid) (n : NodeRecord) : Bool :=
  (g.isDedicated n || (g.deploymentsOn n.nodeId).isEmpty) &&
    (((g.rentOf? n.nodeId).map (·.contractId)).getD 0) == 0

/-- Whether a node is available for a twin: the twin rents it, or nobody does and it is not dedicated. -/
def isAvailableFor (g : Grid) (n : NodeRecord) (twin : UInt64) : Bool :=
  match g.rentOf? n.nodeId with
  | some r => r.twinId.toUInt64 == twin
  | none => !g.isDedicated n

/-- Whether a node matches a filter, whose status has been read, at the time `now`. -/
def nodeMatches (g : Grid) (now : UInt64) (status : Option Status) (f : NodeFilter) (n : NodeRecord) : Bool :=
  let free := g.freeOn n
  let farmName := ((g.farmOf? n.farmId).map (·.name)).getD ""
  let rentId := ((g.rentOf? n.nodeId).map (·.contractId)).getD 0
  let rentTwin := ((g.rentOf? n.nodeId).map (·.twinId)).getD 0
  equals (Status.atTime n.updatedAt now) status &&
  atLeast free.mru f.freeMru && atLeast free.hru f.freeHru && atLeast free.sru f.freeSru &&
  atLeast n.total.cru f.totalCru && atLeast n.total.mru f.totalMru &&
  atLeast n.total.hru f.totalHru && atLeast n.total.sru f.totalSru &&
  sameText n.country f.country && containsText n.country f.countryContains &&
  sameText n.city f.city && containsText n.city f.cityContains &&
  equals n.nodeId.toUInt64 f.nodeId && equals n.twinId.toUInt64 f.twinId &&
  (f.farmIds.isEmpty || f.farmIds.contains n.farmId.toUInt64) &&
  sameText farmName f.farmName && containsText farmName f.farmNameContains &&
  atLeast (.ofNat (g.freeIpsAt n)) f.freeIps &&
  equals (!n.publicConfig.ipv4.isEmpty) f.ipv4 && equals (!n.publicConfig.ipv6.isEmpty) f.ipv6 &&
  equals (!n.publicConfig.domain.isEmpty) f.domain &&
  equals (g.isDedicated n) f.dedicated && equals (g.isRentable n) f.rentable &&
  equals (rentId != 0) f.rented && equals rentTwin.toUInt64 f.rentedBy &&
  f.availableFor.all (g.isAvailableFor n) &&
  sameText n.certification f.certificationType

/-- Whether a farm matches a filter. -/
def farmMatches (f : FarmFilter) (farm : Farm) : Bool :=
  atLeast (.ofNat farm.freeIps) f.freeIps && atLeast (.ofNat farm.publicIps.length) f.totalIps &&
  equals farm.farmId.toUInt64 f.farmId && equals farm.twinId.toUInt64 f.twinId &&
  sameText farm.name f.name && containsText farm.name f.nameContains && equals farm.dedicated f.dedicated

/-- Whether a twin matches a filter. -/
def twinMatches (f : TwinFilter) (t : Twin) : Bool :=
  equals t.twinId.toUInt64 f.twinId && equals t.accountId f.accountId

/-- Whether a contract matches a filter, whose state and kind have been read. -/
def contractMatches (state : Option ContractState) (kind : Option ContractKind) (f : ContractFilter)
    (c : Contract) : Bool :=
  equals c.contractId f.contractId && equals c.twinId.toUInt64 f.twinId && equals c.kind kind &&
  state.all fun s => Text.sameIgnoringAsciiCase c.state s.label

end GridGateway.Grid
