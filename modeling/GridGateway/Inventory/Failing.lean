import GridGateway.Inventory

/-!
# Inventories that fail

An inventory whose first readings of fetch targets fail, for the behaviour of the refresher when the database is
away.
-/

namespace GridGateway.Inventory

/-- Answers a question about an inventory that is part of a larger state. -/
def liftAsk {σ α : Type} (q : Ask σ α) : Ask (σ × Nat) α := ExceptT.mk fun (store, left) =>
  let (answer, store) := q.run store
  (answer, (store, left))

/-- The inventory with a second component of the state, the number of readings of fetch targets that still
fail. -/
def failing {σ : Type} (inv : Inventory σ) : Inventory (σ × Nat) where
  nodes := fun now f limit => liftAsk (inv.nodes now f limit)
  node := fun now nodeId => liftAsk (inv.node now nodeId)
  farms := fun f limit => liftAsk (inv.farms f limit)
  farm := fun farmId => liftAsk (inv.farm farmId)
  twins := fun f limit => liftAsk (inv.twins f limit)
  contracts := fun f limit => liftAsk (inv.contracts f limit)
  counters := fun now f => liftAsk (inv.counters now f)
  fetchTargets := fun offset count => ExceptT.mk fun (store, left) =>
    match left with
    | 0 => (liftAsk (inv.fetchTargets offset count)).run (store, 0)
    | left + 1 => (.error (.database (.reported "unavailable")), (store, left))
  telemetry := fun nodeId => liftAsk (inv.telemetry nodeId)
  recordSuccess := fun nodeId report time => liftAsk (inv.recordSuccess nodeId report time)
  recordFailure := fun nodeId reason time => liftAsk (inv.recordFailure nodeId reason time)

end GridGateway.Inventory
