import Kernmux.Daemon.Inventory
import Kernmux.Daemon.Lifecycle
import Kernmux.Library.Supervise

/-!
# Kernmux.Daemon.LifecycleExecutor

Kerf execution and authoritative reconciliation. An executor refreshes the
snapshot, plans against it, runs Kerf and judges the run by a second refresh,
so `execute` is a supervised action in the sense of `Library/Supervise.lean`.

The two backends of an executor share one state `σ`: a Kerf run changes the
host that the next refresh reads.
-/

namespace Kernmux.Daemon

open Api.V1 Library Inventory Lifecycle

/-! ### Backends -/

/-- Refreshes the authoritative host snapshot before and after a mutation. -/
structure SnapshotRefresher (σ ε : Type) where
  refreshSnapshot : σ → Except ε HostSnapshot × σ

/-- An inventory service refreshes itself. -/
def inventoryRefresher {τ ε : Type} (source : InventorySource τ ε) :
    SnapshotRefresher (InventoryService τ) ε where
  refreshSnapshot service := service.refresh source

/-- A refresher behind a mutex. The other holders of the mutex refresh too: `others`
says how often they do so before each coming refresh of ours. -/
structure Shared (σ : Type) where
  inner : σ
  others : List ℕ

/-- Cloneable access to one generation-owning snapshot refresher. -/
def sharedSnapshotRefresher {σ ε : Type} (refresher : SnapshotRefresher σ ε) :
    SnapshotRefresher (Shared σ) ε where
  refreshSnapshot shared :=
    let reached := (fun state => (refresher.refreshSnapshot state).2)^[shared.others.headD 0]
      shared.inner
    let (result, next) := refresher.refreshSnapshot reached
    (result, ⟨next, shared.others.tail⟩)

/-- Termination observed for one Kerf process. -/
inductive KerfTermination
  | exited (code : Int32)
  | signalled
  | timedOut
  deriving DecidableEq, Repr

/-- Bounded output and termination from one Kerf invocation. -/
structure KerfRunResult where
  termination : KerfTermination
  stdout : List UInt8
  stderr : List UInt8
  deriving DecidableEq, Repr

/-- Whether Kerf itself reported success. -/
def KerfRunResult.processSucceeded (result : KerfRunResult) : Bool :=
  result.termination = .exited 0

/-- Replaceable Kerf process backend. -/
structure KerfRunner (σ κ : Type) where
  run : KerfInvocation → σ → Except κ KerfRunResult × σ

/-- A runner that works on the host an inventory service observes. -/
def KerfRunner.onSource {τ κ : Type} (runner : KerfRunner τ κ) :
    KerfRunner (InventoryService τ) κ where
  run invocation service :=
    let (process, source) := runner.run invocation service.source
    (process, { service with source := source })

/-- A runner beside a shared refresher. -/
def KerfRunner.onShared {σ κ : Type} (runner : KerfRunner σ κ) : KerfRunner (Shared σ) κ where
  run invocation shared :=
    let (process, inner) := runner.run invocation shared.inner
    (process, { shared with inner := inner })

/-- What an executor looks at and acts on. -/
def executorBackend {σ ε κ : Type} (runner : KerfRunner σ κ)
    (snapshots : SnapshotRefresher σ ε) :
    Backend σ ε HostSnapshot KerfInvocation (Except κ KerfRunResult) where
  observe := snapshots.refreshSnapshot
  act := runner.run

/-! ### Reconciliation -/

/-- Whether a snapshot shows the state a mutation was planned to reach. -/
def expectedStateObserved (expected : ExpectedState) (snapshot : HostSnapshot) : Bool :=
  match expected with
  | .instance id state => snapshot.instances.any fun inst => inst.id = id ∧ inst.state = state
  | .instanceResources id state name cpuHardwareIds memoryBytes deviceIds =>
      snapshot.instances.any fun inst =>
        inst.id = id ∧ inst.state = state
          ∧ name.all (fun expected => inst.name = expected)
          ∧ cpuHardwareIds.all (fun expected =>
              elements expected = elements inst.resources.cpuHardwareIds)
          ∧ memoryBytes.all (fun expected => inst.resources.memoryBytes = expected)
          ∧ deviceIds.all (fun expected =>
              elements expected = elements inst.resources.deviceIds)
  | .resourcePool cpuHardwareIds memoryBytes =>
      elements snapshot.resourcePool.cpuHardwareIds = elements cpuHardwareIds
        ∧ wrappingSum (snapshot.resourcePool.memoryRegions.map (·.bytes)) = memoryBytes
  | .absent id => snapshot.instances.all fun inst => inst.id ≠ id

/-- Reconciled result of one attempted lifecycle mutation. -/
structure LifecycleOutcome where
  state : OperationState
  snapshot : HostSnapshot
  process : Option KerfRunResult
  diagnostics : List Diagnostic
  deriving DecidableEq, Repr

/-- A diagnostic of the daemon itself, which quotes no backend output. -/
def diagnostic (code : String) (severity : DiagnosticSeverity) (message : String) : Diagnostic where
  code := code
  severity := severity
  message := message
  detail := none
  redacted := true

/-! ### The executor -/

/-- Failure before a trustworthy lifecycle outcome can be produced. -/
inductive LifecycleExecutionError (ε : Type)
  | inventory (error : ε)
  | snapshotIndeterminate
  | plan (error : LifecyclePlanError)
  deriving DecidableEq, Repr

/-- Maps the failure to the public API error contract. -/
def LifecycleExecutionError.errorCode {ε : Type} : LifecycleExecutionError ε → ErrorCode
  | inventory _ | snapshotIndeterminate => .backendUnavailable
  | plan error => error.errorCode

/-- Coordinates preflight, Kerf execution, and authoritative reconciliation. -/
structure LifecycleExecutor (σ ε κ : Type) where
  runner : KerfRunner σ κ
  snapshots : SnapshotRefresher σ ε

namespace LifecycleExecutor

/-- Judges a Kerf run by the snapshot taken after it. -/
def reconcile {κ : Type} (invocation : KerfInvocation) (process : Except κ KerfRunResult)
    (snapshot : HostSnapshot) : LifecycleOutcome :=
  let observed := expectedStateObserved invocation.expectedState snapshot
  let processSucceeded := process.toOption.any KerfRunResult.processSucceeded
  let verdict : OperationState × List Diagnostic :=
    if snapshot.health ≠ .healthy then
      (.indeterminate, snapshot.diagnostics)
    else if !invocation.mutatesKernel && processSucceeded then
      (.succeeded, [])
    else if invocation.mutatesKernel && observed then
      (.succeeded, if processSucceeded then [] else
        [diagnostic "kerf_result_reconciled" .warning
          "kernel state reached the requested result despite the Kerf process result"])
    else if invocation.mutatesKernel then
      (.failed, [diagnostic "expected_state_not_observed" .error
        "kernel state did not reach the requested result"])
    else
      (.failed, [diagnostic "kerf_command_failed" .error
        "Kerf did not accept the requested validation"])
  { state := verdict.1
    snapshot := snapshot
    process := process.toOption
    diagnostics := verdict.2 }

/-- What preflight makes of a request. -/
def preflight {ε : Type} (request : LifecycleRequest) (before : HostSnapshot) :
    Except (LifecycleExecutionError ε) KerfInvocation := do
  rejectIf (before.health ≠ .healthy) .snapshotIndeterminate
  mapErr .plan (Lifecycle.plan request before)

/-- What postflight makes of a Kerf run. -/
def conclude {κ : Type} (_before : HostSnapshot) (invocation : KerfInvocation)
    (process : Except κ KerfRunResult) (after : HostSnapshot) : LifecycleOutcome :=
  reconcile invocation process after

/-- Executes and reconciles one mutation. -/
def execute {σ ε κ : Type} (executor : LifecycleExecutor σ ε κ)
    (request : LifecycleRequest) (state : σ) :
    Except (LifecycleExecutionError ε) LifecycleOutcome × σ :=
  supervise (executorBackend executor.runner executor.snapshots) .inventory (preflight request)
    conclude state

theorem preflight_eq_ok {ε : Type} {request : LifecycleRequest} {before : HostSnapshot}
    {invocation : KerfInvocation} :
    preflight (ε := ε) request before = .ok invocation ↔
      before.health = .healthy ∧ Lifecycle.plan request before = .ok invocation := by
  simp only [preflight, guard_eq_ok, rejectIf_eq_ok, mapErr_eq_ok, ne_eq, not_not]

end LifecycleExecutor

end Kernmux.Daemon
