import GridGateway.Bus.Fetch
import GridGateway.Inventory

/-!
# Refreshing a node

To refresh a node is to fetch a report from it and to record the outcome, be it the report or the failure. What
comes back is the outcome of the fetch, whether or not it could be recorded.
-/

namespace GridGateway.Telemetry

open Bus

/-- Asks an inventory a question whose answer does not matter. -/
def Ask.ignore {σ α : Type} (q : Ask σ α) : StateM σ Unit := do
  let _ ← q.run
  return ()

/-- Records the outcome of a fetch at a time. -/
def record {σ : Type} (inv : Inventory σ) (nodeId : UInt32) (time : UInt64) :
    Except BusError Report → StateM σ Unit
  | .ok report => Ask.ignore (inv.recordSuccess nodeId report time)
  | .error e => Ask.ignore (inv.recordFailure nodeId e.message time)

/-- Refreshes a node with a twin, within `timeout` milliseconds, and records the outcome at the time `now`. -/
def refresh {σ β : Type} (inv : Inventory σ) (bus : Bus β) (nodeId twinId : UInt32) (timeout : Nat)
    (now : UInt64) : StateM (σ × β) Fetch := fun (store, script) =>
  let (fetch, script) := bus.fetch twinId timeout script
  let (_, store) := record inv nodeId now fetch.result store
  (fetch, (store, script))

end GridGateway.Telemetry
