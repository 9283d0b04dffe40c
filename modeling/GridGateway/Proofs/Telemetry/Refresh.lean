import GridGateway.Bus.Script
import GridGateway.Proofs.Bus.Deadline
import GridGateway.Proofs.Http.Gateway

/-!
# One refresh

A refresh asks its inventory for one thing only, which is to keep the result of the fetch (`refresh_noting`); what
comes back is that result, whether it could be kept or not.  With what a fetch does (`Bus.fetch_allOrNothing`) and what
a grid keeps (`refresh_grid_records`) this settles a whole refresh, in `refresh_allOrNothing`.
-/

namespace GridGateway.Telemetry

open Bus

/-- The question that asks an inventory to keep the result of a fetch. -/
def keeping (nodeId : UInt32) (time : UInt64) : Except BusError Report → Sql.Question
  | .ok report => .recordSuccess nodeId report time
  | .error e => .recordFailure nodeId e.message time

section

variable {σ β : Type} (inv : Inventory σ) (bus : Bus β) (nodeId twinId : UInt32) (timeout : Nat) (now : UInt64)
  (store : σ) (script : β)

/-- An inventory notes the result that it is asked to keep. -/
private theorem record_noting (result : Except BusError Report) (asked : List Sql.Question) :
    (record inv.noting nodeId now result (store, asked)).2.2 = keeping nodeId now result :: asked := by
  cases result <;> rfl

/-- A refresh asks its inventory to keep the result of the fetch, and for nothing else. -/
theorem refresh_noting (asked : List Sql.Question) :
    (refresh inv.noting bus nodeId twinId timeout now ((store, asked), script)).2.1.2 =
      keeping nodeId now (bus.fetch twinId timeout script).1.result :: asked :=
  record_noting inv nodeId now store _ asked

end

variable {β : Type}

/-- What a refresh does to the records of a grid: nobody else is concerned, a report replaces the record, and a failure
leaves the report and the time of the last success as they were. -/
theorem refresh_grid_records (g : Grid) (bus : Bus β) (nodeId twinId : UInt32) (timeout : Nat) (now : UInt64)
    (records : Records) (script : β) :
    (∀ report, (bus.fetch twinId timeout script).1.result = .ok report →
      records.Renewed (refresh g.inventory bus nodeId twinId timeout now (records, script)).2.1 nodeId report now) ∧
    ∀ e, (bus.fetch twinId timeout script).1.result = .error e →
      records.FailedOnceMore (refresh g.inventory bus nodeId twinId timeout now (records, script)).2.1 nodeId e.message
        now := by
  simp only [Http.refresh_grid]
  refine ⟨fun report hresult => ?_, fun e hresult => ?_⟩
  · rw [hresult]
    exact records.renewed_enter nodeId report now
  · rw [hresult]
    exact records.failedOnceMore_enter nodeId e.message now

/-- The calls that a fetch makes are the first ones of three. -/
private theorem fetch_noting_prefix (bus : Bus β) (twinId : UInt32) (timeout : Nat) (script : β) :
    (bus.fetch twinId timeout script).1.questions.map (fun q => (twinId, q.command)) <+:
      [(twinId, "zos.statistics.get"), (twinId, "zos.system.hypervisor"), (twinId, "zos.system.version")] := by
  obtain ⟨before, last, hasked, hstops⟩ := (bus.fetch_allOrNothing twinId script timeout).stopsAt
  rw [hasked]
  exact hstops.inTurn.map fun q => (twinId, q.command)

/-- A refresh is all or nothing.  The calls of the fetch are made to the twin in their order up to the first one that
stops it, and there is a report only if all replies are there by the one deadline; the result of the fetch is the only
thing that an inventory is asked to keep, and it is what comes back whatever the inventory does; the records of a grid
keep the report and the time of the last success when there is no new report. -/
theorem refresh_allOrNothing (bus : Bus β) (nodeId twinId : UInt32) (timeout : Nat) (now : UInt64) (script : β) :
    let fetch := (bus.fetch twinId timeout script).1
    let calls := (bus.noting.fetch twinId timeout (script, [])).2.2.reverse
    (bus.interview twinId script).AllOrNothing timeout fetch.questions fetch.result ∧
    calls = fetch.questions.map (fun q => (twinId, q.command)) ∧
    calls <+: [(twinId, "zos.statistics.get"), (twinId, "zos.system.hypervisor"), (twinId, "zos.system.version")] ∧
    (∀ (σ : Type) (inv : Inventory σ) (store : σ),
      (refresh inv bus nodeId twinId timeout now (store, script)).1 = fetch ∧
      (refresh inv.noting bus nodeId twinId timeout now ((store, []), script)).2.1.2 =
        [keeping nodeId now fetch.result]) ∧
    ∀ (g : Grid) (records : Records),
      let after := (refresh g.inventory bus nodeId twinId timeout now (records, script)).2.1
      (∀ report, fetch.result = .ok report → records.Renewed after nodeId report now) ∧
      ∀ e, fetch.result = .error e → records.FailedOnceMore after nodeId e.message now := by
  have hcalls : (bus.noting.fetch twinId timeout (script, [])).2.2.reverse =
      (bus.fetch twinId timeout script).1.questions.map fun q => (twinId, q.command) := by
    have hnoted : (bus.noting.fetch twinId timeout (script, [])).2.2 =
        ((bus.fetch twinId timeout script).1.questions.map fun q => (twinId, q.command)).reverse ++ [] :=
      congrArg (·.2.2) (bus.fetch_noting twinId script timeout [])
    rw [hnoted, List.append_nil, List.reverse_reverse]
  refine ⟨bus.fetch_allOrNothing twinId script timeout, hcalls, ?_, fun σ inv store => ⟨rfl, ?_⟩, fun g records => ?_⟩
  · rw [hcalls]
    exact fetch_noting_prefix bus twinId timeout script
  · exact refresh_noting inv bus nodeId twinId timeout now store script []
  · exact refresh_grid_records g bus nodeId twinId timeout now records script

/-- A twin that takes ten seconds for each reply.  It leaves out what is nought, and tells its version as a list. -/
def promptTwin : Script :=
  [⟨some 5, some "zos.statistics.get", none, 10000, .reply (.obj [
      ("users", .obj [("deployments", .int 4)]), ("used", .obj [("ipv4u", .int 2), ("mru", .int 3)]),
      ("total", .obj [("cru", .int 8), ("sru", .int 512), ("hru", .int 1024), ("mru", .int 16)])])⟩,
    ⟨some 5, some "zos.system.hypervisor", none, 10000, .reply (.str "kvm")⟩,
    ⟨some 5, some "zos.system.version", none, 10000, .reply (.arr [.str "3.12"])⟩]

/-- A twin that takes twelve seconds for each reply. -/
def slowTwin : Script :=
  [⟨some 5, none, some 1, 12000, .reply (.obj [])⟩, ⟨some 5, none, some 1, 12000, .reply (.str "kvm")⟩,
    ⟨some 5, none, some 1, 12000, .reply (.obj [])⟩]

/-- Within thirty seconds a twin that takes ten for each reply is heard out, and what it tells is kept.  A twin that
takes twelve is not: the failure is counted, and the last report stays. -/
theorem refresh_prompt_and_slow :
    let told : Report :=
      { total := ⟨8, 512, 1024, 16⟩, used := ⟨0, 0, 0, 3⟩, usedIpv4u := 2, hypervisor := "kvm", zosVersion := "3.12" }
    let up : Record :=
      { report := told, status := .up, retries := 0, lastError := none, lastFetchAttempt := some 60,
        lastFetchSuccess := some 60 }
    (scripted.fetch 5 30000 promptTwin).1.result = .ok told ∧
    (refresh twoNodes.inventory scripted 7 5 30000 60 ([], promptTwin)).2.1.get? 7 = some up ∧
    30000 < (scripted.interview 5 slowTwin).ends .version ∧
    (scripted.fetch 5 30000 slowTwin).1.result = .error (.timeout (millis 30000)) ∧
    (refresh twoNodes.inventory scripted 7 5 30000 120 ([(7, up)], slowTwin)).2.1.get? 7 = some {
      report := told, status := .down, retries := 1, lastError := some "no reply within 30s",
      lastFetchAttempt := some 120, lastFetchSuccess := some 60 } := by
  intro told up
  obtain ⟨hprompt, -, -, -, hkept⟩ := refresh_allOrNothing scripted 7 5 30000 60 promptTwin
  obtain ⟨hslow, -, -, -, hcounted⟩ := refresh_allOrNothing scripted 7 5 30000 120 slowTwin
  have hstatistics : (scripted.interview 5 promptTwin).Brings .statistics ⟨⟨8, 512, 1024, 16, 0⟩, ⟨0, 0, 0, 3, 2⟩⟩ :=
    ⟨_, rfl, trivial, ⟨trivial, rfl, rfl, rfl, rfl, rfl⟩, ⟨trivial, rfl, rfl, rfl, rfl, rfl⟩⟩
  have hhypervisor : (scripted.interview 5 promptTwin).Brings .hypervisor "kvm" := ⟨_, rfl, rfl⟩
  have hversion : (scripted.interview 5 promptTwin).Brings .version ⟨"3.12", ""⟩ := ⟨_, rfl, Nat.le_succ 1, rfl, rfl⟩
  have hreport : (scripted.fetch 5 30000 promptTwin).1.result = .ok told :=
    (hprompt.ok_iff told).2 ⟨by decide, _, _, _, hstatistics, hhypervisor, hversion, rfl⟩
  have hlate : 30000 < (scripted.interview 5 slowTwin).ends .version := by decide
  have htimeout : (scripted.fetch 5 30000 slowTwin).1.result = .error (.timeout (millis 30000)) := by
    obtain h | ⟨q, e, hq, -, he, -⟩ := hslow.late hlate
    · exact h
    · -- the first two calls bring replies
      rw [← Interview.reply_eq_error_iff] at he
      cases q with
      | statistics => cases he
      | hypervisor => cases he
      | version => exact absurd rfl hq
  refine ⟨hreport, ((hkept twoNodes []).1 told hreport).own, hlate, htimeout, ?_⟩
  exact ((hcounted twoNodes [(7, up)]).2 _ htimeout).again up rfl

end GridGateway.Telemetry
