import Kernmux.Daemon.LifecycleExecutor

/-!
# Kernmux.Daemon.ResourcePool

Resource-pool planning and partial-application reconciliation. The pool
executor has the shape of the lifecycle executor, with a planner of its own
(`plan`) and a reconciliation that compares the pool before and after the Kerf
run (`transition`).
-/

namespace Kernmux.Daemon

open Api.V1 Library Lifecycle Placement

/-! ### Requests and results -/

/-- Desired Multikernel CPU and memory pool. -/
structure ResourcePoolRequest where
  expectedGeneration : Generation
  cpuHardwareIds : List UInt32
  memoryBytes : UInt64
  deriving DecidableEq, Repr

/-- Exact before, requested, and observed resource-pool transition. -/
structure ResourcePoolTransition where
  beforeCpuHardwareIds : List UInt32
  requestedCpuHardwareIds : List UInt32
  observedCpuHardwareIds : List UInt32
  addedCpuHardwareIds : List UInt32
  returnedCpuHardwareIds : List UInt32
  beforeMemoryBytes : UInt64
  requestedMemoryBytes : UInt64
  observedMemoryBytes : UInt64
  deriving DecidableEq, Repr

/-- Whether the observed pool exactly matches the request. -/
def ResourcePoolTransition.requestReached (transition : ResourcePoolTransition) : Bool :=
  transition.requestedCpuHardwareIds = transition.observedCpuHardwareIds
    ∧ transition.requestedMemoryBytes = transition.observedMemoryBytes

/-- Whether some resources changed despite an unmet request. -/
def ResourcePoolTransition.partiallyApplied (transition : ResourcePoolTransition) : Bool :=
  !transition.requestReached
    && (transition.beforeCpuHardwareIds ≠ transition.observedCpuHardwareIds
      ∨ transition.beforeMemoryBytes ≠ transition.observedMemoryBytes)

/-- Safest next action after resource-pool reconciliation. -/
inductive ResourcePoolRecovery
  | none
  | refreshRequired
  | retryRequest
  | hostRestartRequired
  deriving DecidableEq, Repr

/-- Reconciled result of one resource-pool request. -/
structure ResourcePoolOutcome where
  state : OperationState
  snapshot : HostSnapshot
  process : Option KerfRunResult
  transition : ResourcePoolTransition
  recovery : ResourcePoolRecovery
  diagnostics : List Diagnostic
  deriving DecidableEq, Repr

/-- Stable rejection before a pool request is attempted. -/
inductive ResourcePoolPlanError
  | snapshotIndeterminate
  | staleGeneration (expected actual : Generation)
  | duplicateCpu
  | cpuPlacement (error : CpuPlacementError)
  | assignedResourcesExcluded
  deriving DecidableEq, Repr

/-- Maps the rejection to the public API error contract. -/
def ResourcePoolPlanError.errorCode : ResourcePoolPlanError → ErrorCode
  | snapshotIndeterminate => .backendUnavailable
  | staleGeneration _ _ => .preconditionFailed
  | duplicateCpu | cpuPlacement _ => .invalidRequest
  | assignedResourcesExcluded => .conflict

/-- Failure before a trustworthy pool outcome can be produced. -/
inductive ResourcePoolExecutionError (ε : Type)
  | inventory (error : ε)
  | plan (error : ResourcePoolPlanError)
  deriving DecidableEq, Repr

/-- Maps the failure to the public API error contract. -/
def ResourcePoolExecutionError.errorCode {ε : Type} : ResourcePoolExecutionError ε → ErrorCode
  | inventory _ => .backendUnavailable
  | plan error => error.errorCode

/-- Coordinates Kerf pool changes with authoritative postflight inventory. -/
structure ResourcePoolExecutor (σ ε κ : Type) where
  runner : KerfRunner σ κ
  snapshots : SnapshotRefresher σ ε

namespace ResourcePoolExecutor

/-! ### Planning -/

/-- The CPU list of an accepted request in the order Kerf is given it. -/
def sortedCpus (cpus : List UInt32) : List UInt32 := cpus.insertionSort (· ≤ ·)

def cpuArgument (cpus : List UInt32) : OsString :=
  if cpus = [] then .ofString "--cpus=none" else option "--cpus=" (cpuList cpus)

def memoryArgument (memoryBytes : UInt64) : OsString :=
  if memoryBytes = 0 then .ofString "--memory=none"
  else option "--memory=" (toString memoryBytes.toNat)

/-- The command of an accepted pool request. -/
def poolInvocation (request : ResourcePoolRequest) : KerfInvocation where
  arguments := [.ofString "init", cpuArgument (sortedCpus request.cpuHardwareIds),
    memoryArgument request.memoryBytes]
  expectedState := .resourcePool (sortedCpus request.cpuHardwareIds) request.memoryBytes
  mutatesKernel := true

/-- Some instance holds a CPU that the requested pool leaves out. -/
def excludesCpu (snapshot : HostSnapshot) (requested : List UInt32) : Bool :=
  snapshot.instances.any fun inst =>
    inst.resources.cpuHardwareIds.any fun cpu => cpu ∉ elements requested

def plan (request : ResourcePoolRequest) (snapshot : HostSnapshot) :
    Except ResourcePoolPlanError KerfInvocation := do
  rejectIf (snapshot.health ≠ .healthy) .snapshotIndeterminate
  rejectIf (request.expectedGeneration ≠ snapshot.generation)
    (.staleGeneration request.expectedGeneration snapshot.generation)
  rejectIf ((elements request.cpuHardwareIds).length ≠ request.cpuHardwareIds.length) .duplicateCpu
  mapErr .cpuPlacement (validatePoolCpus snapshot request.cpuHardwareIds)
  let assignedMemory := wrappingSum (snapshot.instances.map (·.resources.memoryBytes))
  rejectIf (excludesCpu snapshot request.cpuHardwareIds = true
      ∨ assignedMemory > request.memoryBytes) .assignedResourcesExcluded
  return poolInvocation request

/-! ### Reconciliation -/

/-- The pool CPUs of a snapshot as a set. -/
def cpuSet (snapshot : HostSnapshot) : List UInt32 := elements snapshot.resourcePool.cpuHardwareIds

def poolMemory (snapshot : HostSnapshot) : UInt64 :=
  wrappingSum (snapshot.resourcePool.memoryRegions.map (·.bytes))

def transition (request : ResourcePoolRequest) (before after : HostSnapshot) :
    ResourcePoolTransition where
  beforeCpuHardwareIds := cpuSet before
  requestedCpuHardwareIds := elements request.cpuHardwareIds
  observedCpuHardwareIds := cpuSet after
  addedCpuHardwareIds := (cpuSet after).filter (· ∉ cpuSet before)
  returnedCpuHardwareIds := (cpuSet before).filter (· ∉ cpuSet after)
  beforeMemoryBytes := poolMemory before
  requestedMemoryBytes := request.memoryBytes
  observedMemoryBytes := poolMemory after

/-- What to do about a pool that did not reach the request. -/
def failedRecovery (request : ResourcePoolRequest) (transition : ResourcePoolTransition) :
    ResourcePoolRecovery :=
  if transition.partiallyApplied = true ∧ request.cpuHardwareIds = [] ∧ request.memoryBytes = 0
      ∧ transition.observedCpuHardwareIds = [] ∧ transition.observedMemoryBytes ≠ 0 then
    .hostRestartRequired
  else .retryRequest

def reconcile {κ : Type} (request : ResourcePoolRequest) (before after : HostSnapshot)
    (process : Except κ KerfRunResult) : ResourcePoolOutcome :=
  let transition := transition request before after
  let processSucceeded := process.toOption.any KerfRunResult.processSucceeded
  let verdict : OperationState × ResourcePoolRecovery × List Diagnostic :=
    if after.health ≠ .healthy then (.indeterminate, .refreshRequired, after.diagnostics)
    else if transition.requestReached then
      (.succeeded, .none, if processSucceeded then [] else
        [diagnostic "kerf_result_reconciled" .warning
          "resource pool reached the request despite the Kerf process result"])
    else
      (.failed, failedRecovery request transition, [if transition.partiallyApplied then
          diagnostic "resource_pool_partially_applied" .error
            "resource pool changed but did not reach the requested result"
        else
          diagnostic "resource_pool_unchanged" .error
            "resource pool did not reach the requested result"])
  { state := verdict.1
    snapshot := after
    process := process.toOption
    transition := transition
    recovery := verdict.2.1
    diagnostics := verdict.2.2 }

/-! ### The executor -/

/-- What preflight makes of a request. -/
def preflight {ε : Type} (request : ResourcePoolRequest) (before : HostSnapshot) :
    Except (ResourcePoolExecutionError ε) KerfInvocation :=
  mapErr .plan (plan request before)

/-- What postflight makes of a Kerf run. -/
def conclude {κ : Type} (request : ResourcePoolRequest) (before : HostSnapshot)
    (_invocation : KerfInvocation) (process : Except κ KerfRunResult) (after : HostSnapshot) :
    ResourcePoolOutcome :=
  reconcile request before after process

/-- Executes and reconciles one pool request. -/
def execute {σ ε κ : Type} (executor : ResourcePoolExecutor σ ε κ) (request : ResourcePoolRequest)
    (state : σ) : Except (ResourcePoolExecutionError ε) ResourcePoolOutcome × σ :=
  supervise (executorBackend executor.runner executor.snapshots) .inventory (preflight request)
    (conclude request) state

/-! ### What an accepted request has passed -/

/-- A pool request keeps every CPU that an instance holds. -/
structure PoolAccepted (request : ResourcePoolRequest) (snapshot : HostSnapshot) : Prop where
  healthy : snapshot.health = .healthy
  current : request.expectedGeneration = snapshot.generation
  cpus_nodup : request.cpuHardwareIds.Nodup
  cpus_valid : validatePoolCpus snapshot request.cpuHardwareIds = .ok ()
  cpus_kept : ∀ inst ∈ snapshot.instances, ∀ cpu ∈ inst.resources.cpuHardwareIds,
    cpu ∈ request.cpuHardwareIds
  memory_kept : wrappingSum (snapshot.instances.map (·.resources.memoryBytes)) ≤ request.memoryBytes

theorem excludesCpu_eq_false {snapshot : HostSnapshot} {requested : List UInt32} :
    excludesCpu snapshot requested = false ↔
      ∀ inst ∈ snapshot.instances, ∀ cpu ∈ inst.resources.cpuHardwareIds, cpu ∈ requested := by
  simp [excludesCpu]

theorem plan_eq_ok {request : ResourcePoolRequest} {snapshot : HostSnapshot}
    {invocation : KerfInvocation} :
    plan request snapshot = .ok invocation ↔
      PoolAccepted request snapshot ∧ poolInvocation request = invocation := by
  simp only [plan, guard_eq_ok, rejectIf_eq_ok, mapErr_eq_ok, pure_eq_ok, ne_eq, not_not,
    length_elements_eq_iff, not_or, Bool.not_eq_true, excludesCpu_eq_false, gt_iff_lt,
    UInt64.not_lt]
  constructor
  · intro h
    obtain ⟨hhealth, hgen, hnodup, hvalid, ⟨hcpus, hmemory⟩, hinv⟩ := h
    exact ⟨⟨hhealth, hgen, hnodup, hvalid, hcpus, hmemory⟩, hinv⟩
  · rintro ⟨⟨hhealth, hgen, hnodup, hvalid, hcpus, hmemory⟩, hinv⟩
    exact ⟨hhealth, hgen, hnodup, hvalid, ⟨hcpus, hmemory⟩, hinv⟩

theorem preflight_eq_ok {ε : Type} {request : ResourcePoolRequest} {before : HostSnapshot}
    {invocation : KerfInvocation} :
    preflight (ε := ε) request before = .ok invocation ↔ plan request before = .ok invocation := by
  simp only [preflight, mapErr_eq_ok]

end ResourcePoolExecutor

/-! ### Requests to either executor -/

/-- A request to either executor. -/
inductive HostRequest
  | lifecycle (request : LifecycleRequest)
  | pool (request : ResourcePoolRequest)
  deriving DecidableEq, Repr

/-- The planner of the request accepts it on this snapshot. -/
def HostRequest.Accepted (snapshot : HostSnapshot) : HostRequest → Prop
  | lifecycle request => ∃ invocation, Lifecycle.plan request snapshot = .ok invocation
  | pool request => ∃ invocation, ResourcePoolExecutor.plan request snapshot = .ok invocation

/-- What becomes of the state when an executor of the request's kind is given the request. -/
def HostRequest.execute {σ ε κ : Type} (runner : KerfRunner σ κ)
    (snapshots : SnapshotRefresher σ ε) (state : σ) : HostRequest → σ
  | lifecycle request => ((LifecycleExecutor.mk runner snapshots).execute request state).2
  | pool request => ((ResourcePoolExecutor.mk runner snapshots).execute request state).2

end Kernmux.Daemon
