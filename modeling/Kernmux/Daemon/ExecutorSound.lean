import Kernmux.Daemon.Scheduler

/-!
# Kernmux.Daemon.ExecutorSound

**What the two executors report.** Both are supervised actions over backends
that share a host, and both directions of their reports are proved here.

An *error* means that Kerf was not invoked. `execute` maps a failed postflight
refresh to an error too, so this is a fact about the inventory: once it has
answered it keeps a snapshot and answers again (`retains_inventory`), also when
other clients refresh it in between (`retains_shared`).

A *terminal state* is a statement about the postflight snapshot, whatever the
Kerf process did: `Verdict`.
-/

namespace Kernmux.Daemon

open Api.V1 Library Inventory Lifecycle Scheduler ResourcePoolExecutor LifecycleRequest

variable {after : HostSnapshot} {request : ResourcePoolRequest}

/-! ### Inventories keep answering -/

section Retention

variable {τ σ ε κ : Type}

/-- A refresh that answers leaves a snapshot behind. -/
theorem refresh_current_of_ok {source : InventorySource τ ε} {service next : InventoryService τ}
    {snapshot : HostSnapshot} (h : service.refresh source = (.ok snapshot, next)) :
    next.current.isSome := by
  obtain ⟨hanswer, hnext⟩ := Prod.mk.inj h
  rw [← hnext]
  simp only
  cases hobserved : (source.observe service.source).1 with
  | ok observations => cases service.current <;> rfl
  | error error =>
      cases hcurrent : service.current with
      | some current => rfl
      | none =>
          rw [hobserved, hcurrent] at hanswer
          exact absurd hanswer (by simp [settle])

/-- With a snapshot behind it, a refresh answers. -/
theorem refresh_ok_of_current (source : InventorySource τ ε) {service : InventoryService τ}
    (h : service.current.isSome) :
    ∃ snapshot next, service.refresh source = (.ok snapshot, next) := by
  obtain ⟨current, hcurrent⟩ := Option.isSome_iff_exists.mp h
  simp only [InventoryService.refresh, hcurrent]
  cases (source.observe service.source).1 with
  | ok observations | error error => exact ⟨_, _, rfl⟩

/-- An executor that owns its inventory service. -/
theorem retains_inventory (source : InventorySource τ ε) (runner : KerfRunner τ κ) :
    (executorBackend runner.onSource (inventoryRefresher source)).Retains
      fun service => service.current.isSome where
  observe_good _ _ _ h := refresh_current_of_ok h
  good_observe _ h := refresh_ok_of_current source h
  act_good _ _ h := h

/-- Refreshes of other clients do not take a good state away. -/
theorem iterate_good {good : σ → Prop} {runner : KerfRunner σ κ}
    {snapshots : SnapshotRefresher σ ε} (h : (executorBackend runner snapshots).Retains good)
    (count : ℕ) {state : σ} (hgood : good state) :
    good ((fun state => (snapshots.refreshSnapshot state).2)^[count] state) := by
  induction count generalizing state with
  | zero => exact hgood
  | succ count ih =>
      obtain ⟨shown, next, hlook⟩ := h.good_observe state hgood
      have hlook' : snapshots.refreshSnapshot state = (.ok shown, next) := hlook
      rw [Function.iterate_succ_apply, hlook']
      exact ih (h.observe_good state shown next hlook)

/-- Sharing a refresher keeps what it retains. -/
theorem retains_shared {good : σ → Prop} {runner : KerfRunner σ κ}
    {snapshots : SnapshotRefresher σ ε} (h : (executorBackend runner snapshots).Retains good) :
    (executorBackend runner.onShared (sharedSnapshotRefresher snapshots)).Retains
      fun shared => good shared.inner where
  observe_good shared shown next hlook := by
    obtain ⟨hanswer, hnext⟩ := Prod.mk.inj hlook
    rw [← hnext]
    exact h.observe_good _ shown _ (Prod.ext hanswer rfl)
  good_observe shared hgood := by
    obtain ⟨shown, next, hlook⟩ := h.good_observe _ (iterate_good h (shared.others.headD 0) hgood)
    refine ⟨shown, ⟨next, shared.others.tail⟩, ?_⟩
    exact congrArg (fun reached => (reached.1, (⟨reached.2, shared.others.tail⟩ : Shared σ))) hlook
  act_good action shared hgood := h.act_good action shared.inner hgood

end Retention

/-! ### An error means that Kerf was not invoked -/

section Errors

variable {τ σ ε κ δ ω : Type}

/-- The calls an execution makes, in order. -/
abbrev ExecutorCall (ε κ : Type) :=
  Call ε HostSnapshot KerfInvocation (Except κ KerfRunResult)

/-- A lifecycle execution together with the calls it makes. -/
def LifecycleExecutor.executeTraced (executor : LifecycleExecutor σ ε κ)
    (request : LifecycleRequest) (state : σ) :
    Except (LifecycleExecutionError ε) LifecycleOutcome × σ × List (ExecutorCall ε κ) :=
  supervise (executorBackend executor.runner executor.snapshots).traced .inventory
    (LifecycleExecutor.preflight request) LifecycleExecutor.conclude (state, [])

/-- A pool execution together with the calls it makes. -/
def ResourcePoolExecutor.executeTraced (executor : ResourcePoolExecutor σ ε κ)
    (request : ResourcePoolRequest) (state : σ) :
    Except (ResourcePoolExecutionError ε) ResourcePoolOutcome × σ × List (ExecutorCall ε κ) :=
  supervise (executorBackend executor.runner executor.snapshots).traced .inventory
    (preflight request) (conclude request) (state, [])

/-- An execution accounts for its Kerf run: `reached` is what it returns, where it leaves
the host and which calls it made, `plain` the same execution without its calls, `report`
how the worker reports the result, `judge` how the postflight snapshot decides it. -/
structure Accountable (plain : Except δ ω × σ) (report : Except δ ω → OperationTaskResult)
    (judge : HostSnapshot → KerfInvocation → Except κ KerfRunResult → HostSnapshot → ω)
    (reached : Except δ ω × σ × List (ExecutorCall ε κ)) : Prop where
  same : (reached.1, reached.2.1) = plain
  error_iff : (∃ error, reached.1 = .error error) ↔ ∀ call ∈ reached.2.2, ¬ call.IsAct
  report_iff : ReportsRejection (report reached.1) ↔ ∀ call ∈ reached.2.2, ¬ call.IsAct
  postflight : ∀ earlier invocation process later,
    reached.2.2 = earlier ++ .acted invocation process :: later →
      ∃ before after, earlier = [.observed (.ok before)] ∧ later = [.observed (.ok after)] ∧
        reached.1 = .ok (judge before invocation process after)

theorem Accountable.of_history {plain : Except δ ω × σ}
    {report : Except δ ω → OperationTaskResult}
    {decide : HostSnapshot → Except δ KerfInvocation}
    {judge : HostSnapshot → KerfInvocation → Except κ KerfRunResult → HostSnapshot → ω}
    {reached : Except δ ω × σ × List (ExecutorCall ε κ)}
    (hsame : (reached.1, reached.2.1) = plain)
    (hreport : ∀ result, ReportsRejection (report result) ↔ ∃ error, result = .error error)
    (h : History decide judge reached.1 reached.2.2) :
    Accountable plain report judge reached where
  same := hsame
  error_iff := h.error_iff
  report_iff := (hreport reached.1).trans h.error_iff
  postflight earlier invocation process later hcalls := by
    obtain ⟨result, final, calls⟩ := reached
    simp only at h hcalls ⊢
    cases h with
    | rejected error look =>
        have hmem : Call.acted invocation process ∈ [Call.observed look] := by simp [hcalls]
        exact absurd hmem (by simp)
    | performed outcome after decision =>
        -- the Kerf run is the second of three calls, so only one call can come before it
        match earlier with
        | [] => exact absurd hcalls (by simp)
        | [look] =>
            simp only [List.cons_append, List.nil_append, List.cons.injEq, Call.acted.injEq]
              at hcalls
            obtain ⟨rfl, ⟨rfl, rfl⟩, rfl⟩ := hcalls
            exact ⟨_, after, rfl, rfl, rfl⟩
        | [_, _] => exact absurd hcalls (by simp)
        | _ :: _ :: _ :: rest => exact absurd hcalls (by simp)

/-- A lifecycle executor over backends that keep answering is accountable. -/
theorem LifecycleExecutor.accountable_of_retains {executor : LifecycleExecutor σ ε κ}
    {good : σ → Prop} (h : (executorBackend executor.runner executor.snapshots).Retains good)
    (request : LifecycleRequest) (state : σ) :
    Accountable (executor.execute request state) lifecycleTaskResult LifecycleExecutor.conclude
      (executor.executeTraced request state) :=
  .of_history (supervise_traced _) (fun _ => reportsRejection_lifecycleTaskResult)
    h.history_of_supervise

/-- So is a pool executor. -/
theorem ResourcePoolExecutor.accountable_of_retains {executor : ResourcePoolExecutor σ ε κ}
    {good : σ → Prop} (h : (executorBackend executor.runner executor.snapshots).Retains good)
    (request : ResourcePoolRequest) (state : σ) :
    Accountable (executor.execute request state) resourcePoolTaskResult
      (conclude request) (executor.executeTraced request state) :=
  .of_history (supervise_traced _) (fun _ => reportsRejection_resourcePoolTaskResult)
    h.history_of_supervise

/-- The executors of the daemon are accountable: over an inventory service of their own
and over a shared one that other clients refresh in between. The source may succeed and
fail, and the runner may behave, in any way; the service may have been used before. -/
theorem execute_accountable (source : InventorySource τ ε) (runner : KerfRunner τ κ)
    (service : InventoryService τ) (others : List ℕ) (lifecycle : LifecycleRequest)
    (pool : ResourcePoolRequest) :
    let own : LifecycleExecutor (InventoryService τ) ε κ :=
      ⟨runner.onSource, inventoryRefresher source⟩
    let ownPool : ResourcePoolExecutor (InventoryService τ) ε κ :=
      ⟨runner.onSource, inventoryRefresher source⟩
    let shared : LifecycleExecutor (Shared (InventoryService τ)) ε κ :=
      ⟨runner.onSource.onShared, sharedSnapshotRefresher (inventoryRefresher source)⟩
    let sharedPool : ResourcePoolExecutor (Shared (InventoryService τ)) ε κ :=
      ⟨runner.onSource.onShared, sharedSnapshotRefresher (inventoryRefresher source)⟩
    Accountable (own.execute lifecycle service) lifecycleTaskResult
        LifecycleExecutor.conclude (own.executeTraced lifecycle service) ∧
      Accountable (ownPool.execute pool service) resourcePoolTaskResult
        (conclude pool) (ownPool.executeTraced pool service) ∧
      Accountable (shared.execute lifecycle ⟨service, others⟩) lifecycleTaskResult
        LifecycleExecutor.conclude (shared.executeTraced lifecycle ⟨service, others⟩) ∧
      Accountable (sharedPool.execute pool ⟨service, others⟩) resourcePoolTaskResult
        (conclude pool) (sharedPool.executeTraced pool ⟨service, others⟩) := by
  have hown := retains_inventory source runner
  have hshared := retains_shared hown
  exact ⟨LifecycleExecutor.accountable_of_retains hown lifecycle service,
    accountable_of_retains hown pool service,
    LifecycleExecutor.accountable_of_retains hshared lifecycle _,
    accountable_of_retains hshared pool _⟩

end Errors

/-! ### A terminal state tells the truth about the kernel -/

section Verdicts

variable {σ ε κ : Type}

/-- A state that says of a snapshot whether it shows `reached`. -/
structure Verdict (state : OperationState) (snapshot : HostSnapshot) (reached : Prop) : Prop where
  indeterminate_iff : state = .indeterminate ↔ snapshot.health ≠ .healthy
  succeeded_iff : state = .succeeded ↔ snapshot.health = .healthy ∧ reached
  failed_iff : state = .failed ↔ snapshot.health = .healthy ∧ ¬ reached

/-- Some instance of the snapshot has this ID and this state. -/
def InState (snapshot : HostSnapshot) (id : InstanceId) (state : InstanceState) : Prop :=
  ∃ inst ∈ snapshot.instances, inst.id = id ∧ inst.state = state

/-- What each lifecycle request wants to see of the kernel. -/
def LifecycleReached (after : HostSnapshot) : LifecycleRequest → Prop
  | .create request => ∃ inst ∈ after.instances,
      inst.id = request.id ∧ inst.name = request.name ∧ inst.state = .ready ∧
        (∀ cpu, cpu ∈ request.cpuHardwareIds ↔ cpu ∈ inst.resources.cpuHardwareIds) ∧
        inst.resources.memoryBytes = request.memoryBytes
  | .update request => ∃ inst ∈ after.instances, inst.id = request.inst.id ∧ inst.state = .ready ∧
        (∀ cpus, request.cpuHardwareIds = some cpus →
          ∀ cpu, cpu ∈ cpus ↔ cpu ∈ inst.resources.cpuHardwareIds) ∧
        (∀ memory, request.memoryBytes = some memory → inst.resources.memoryBytes = memory) ∧
        (∀ devices, request.deviceIds = some devices →
          ∀ device, device ∈ devices ↔ device ∈ inst.resources.deviceIds)
  | .load request => InState after request.inst.id .loaded
  | .stop request => InState after request.inst.id .loaded
  | .start request => InState after request.id .active
  | .unload request => InState after request.id .ready
  | .delete request => ∀ inst ∈ after.instances, inst.id ≠ request.id

/-- The memory of all regions of the pool. -/
def regionBytes (snapshot : HostSnapshot) : ℕ :=
  (snapshot.resourcePool.memoryRegions.map fun region => region.bytes.toNat).sum

/-- What a pool request wants to see of the kernel: this set of CPUs and this total. -/
def PoolReached (after : HostSnapshot) (request : ResourcePoolRequest) : Prop :=
  (∀ cpu, cpu ∈ after.resourcePool.cpuHardwareIds ↔ cpu ∈ request.cpuHardwareIds) ∧
    regionBytes after = request.memoryBytes.toNat

/-- What the executor looks for: the sum of the regions has 64 bits. -/
def PoolMatches (after : HostSnapshot) (request : ResourcePoolRequest) : Prop :=
  (∀ cpu, cpu ∈ after.resourcePool.cpuHardwareIds ↔ cpu ∈ request.cpuHardwareIds) ∧
    regionBytes after % 2 ^ 64 = request.memoryBytes.toNat

/-- The regions of a pool that looks like the requested one have a sum of 64 bits. -/
def NoCarry (after : HostSnapshot) (request : ResourcePoolRequest) : Prop :=
  after.health = .healthy → PoolMatches after request → regionBytes after < 2 ^ 64

/-- A remainder that is a word is the number itself when there is no carry. -/
theorem eq_iff_lt_of_mod_eq {sum bound limit : ℕ} (hbound : bound < limit)
    (h : sum % limit = bound) : sum = bound ↔ sum < limit := by
  refine ⟨fun heq => heq ▸ hbound, fun hlt => ?_⟩
  rwa [Nat.mod_eq_of_lt hlt] at h

/-- A pool that looks like the requested one is it exactly when there is no carry. -/
theorem PoolMatches.reached_iff
    (h : PoolMatches after request) : PoolReached after request ↔ regionBytes after < 2 ^ 64 :=
  (and_iff_right h.1).trans (eq_iff_lt_of_mod_eq (UInt64.toNat_lt request.memoryBytes) h.2)

theorem PoolReached.matches (h : PoolReached after request) : PoolMatches after request := by
  refine ⟨h.1, ?_⟩
  rw [h.2, Nat.mod_eq_of_lt (UInt64.toNat_lt _)]

/-- The comparison with the planned state decides the postcondition. -/
theorem expectedStateObserved_target (request : LifecycleRequest) (after : HostSnapshot) :
    expectedStateObserved request.target after = true ↔ LifecycleReached after request := by
  cases request with
  | create request =>
      simp only [expectedStateObserved, target, LifecycleReached,
        List.any_eq_true, decide_eq_true_eq, Option.all_some, Option.all_none, and_true]
      -- only now: under a decision the rewritten sets would have to be decidable
      simp only [elements_eq_iff]
      refine exists_congr fun inst => and_congr_right fun _ => and_congr_right fun _ => ?_
      exact and_left_comm
  | update request =>
      simp only [expectedStateObserved, target, LifecycleReached,
        List.any_eq_true, decide_eq_true_eq, Option.all_eq_true, Option.all_none, true_and]
      simp only [elements_eq_iff]
  | load request
  | stop request => simp [expectedStateObserved, target, LifecycleReached, InState]
  | start request | unload request =>
      simp [expectedStateObserved, target, LifecycleReached, InState]
  | delete request => simp [expectedStateObserved, target, LifecycleReached]

theorem wrappingSum_eq_iff {regions : List MemoryRegion} {total : UInt64} :
    wrappingSum (regions.map (·.bytes)) = total ↔
      (regions.map fun region => region.bytes.toNat).sum % 2 ^ 64 = total.toNat := by
  rw [← UInt64.toNat_inj, toNat_wrappingSum, List.map_map]
  rfl

/-- The pool's own comparison decides whether it looks like the requested one. -/
theorem requestReached_transition (request : ResourcePoolRequest) (before after : HostSnapshot) :
    (transition request before after).requestReached = true ↔ PoolMatches after request := by
  rw [ResourcePoolTransition.requestReached, decide_eq_true_eq]
  exact and_congr (eq_comm.trans elements_eq_iff) (eq_comm.trans wrappingSum_eq_iff)

/-- So does the comparison with the planned state. -/
theorem expectedStateObserved_poolInvocation (request : ResourcePoolRequest)
    (after : HostSnapshot) :
    expectedStateObserved (poolInvocation request).expectedState after = true ↔
      PoolMatches after request := by
  simp only [expectedStateObserved, poolInvocation, sortedCpus, decide_eq_true_eq]
  simp only [elements_eq_iff, List.mem_insertionSort, wrappingSum_eq_iff]
  rfl

/-- A mutating invocation is judged by the snapshot alone. -/
theorem reconcile_verdict {invocation : KerfInvocation} (hmutates : invocation.mutatesKernel = true)
    (process : Except κ KerfRunResult) (snapshot : HostSnapshot) :
    Verdict (LifecycleExecutor.reconcile invocation process snapshot).state snapshot
      (expectedStateObserved invocation.expectedState snapshot = true) := by
  unfold LifecycleExecutor.reconcile
  by_cases hhealth : snapshot.health = .healthy
  · by_cases hseen : expectedStateObserved invocation.expectedState snapshot = true
    · constructor <;> simp [hhealth, hmutates, hseen]
    · constructor <;> simp [hhealth, hmutates, hseen]
  · constructor <;> simp [hhealth]

/-- So is a pool request. -/
theorem poolReconcile_verdict (request : ResourcePoolRequest) (before after : HostSnapshot)
    (process : Except κ KerfRunResult) :
    Verdict (reconcile request before after process).state after
      (PoolMatches after request) := by
  have hreached := requestReached_transition request before after
  unfold reconcile
  by_cases hhealth : after.health = .healthy
  · by_cases hseen : PoolMatches after request
    · have htrue := hreached.mpr hseen
      constructor <;> simp [hhealth, htrue, hseen]
    · have hfalse := Bool.eq_false_iff.mpr (mt hreached.mp hseen)
      constructor <;> simp [hhealth, hfalse, hseen]
  · constructor <;> simp [hhealth]

/-- A verdict leaves no choice of the state. -/
theorem Verdict.state_unique {state other : OperationState} {snapshot : HostSnapshot}
    {reached : Prop} (h : Verdict state snapshot reached) (h' : Verdict other snapshot reached) :
    state = other := by
  by_cases hhealth : snapshot.health = .healthy
  · by_cases hreached : reached
    · rw [h.succeeded_iff.mpr ⟨hhealth, hreached⟩, h'.succeeded_iff.mpr ⟨hhealth, hreached⟩]
    · rw [h.failed_iff.mpr ⟨hhealth, hreached⟩, h'.failed_iff.mpr ⟨hhealth, hreached⟩]
  · rw [h.indeterminate_iff.mpr hhealth, h'.indeterminate_iff.mpr hhealth]

/-- A verdict on what the pool looks like is one on what was requested exactly when there is no
carry. -/
theorem Verdict.reached_iff {state : OperationState}
    (h : Verdict state after (PoolMatches after request)) :
    Verdict state after (PoolReached after request) ↔ NoCarry after request := by
  constructor
  · intro hverdict hhealth hmatches
    have hstate := h.succeeded_iff.mpr ⟨hhealth, hmatches⟩
    exact hmatches.reached_iff.mp (hverdict.succeeded_iff.mp hstate).2
  · intro hcarry
    have hsame : after.health = .healthy →
        (PoolMatches after request ↔ PoolReached after request) := fun hhealth =>
      ⟨fun hmatches => hmatches.reached_iff.mpr (hcarry hhealth hmatches), PoolReached.matches⟩
    exact ⟨h.indeterminate_iff, h.succeeded_iff.trans (and_congr_right hsame),
      h.failed_iff.trans (and_congr_right fun hhealth => not_congr (hsame hhealth))⟩

/-- One completed execution: the refresh before, the Kerf run and the refresh after it. -/
def Completed (runner : KerfRunner σ κ) (snapshots : SnapshotRefresher σ ε) (state : σ)
    (before : HostSnapshot) (invocation : KerfInvocation) (process : Except κ KerfRunResult)
    (after : HostSnapshot) : Prop :=
  ∃ seen acted final, snapshots.refreshSnapshot state = (.ok before, seen) ∧
    runner.run invocation seen = (process, acted) ∧
    snapshots.refreshSnapshot acted = (.ok after, final)

theorem LifecycleExecutor.of_execute_eq_ok {executor : LifecycleExecutor σ ε κ}
    {request : LifecycleRequest} {state : σ} {outcome : LifecycleOutcome}
    (h : (executor.execute request state).1 = .ok outcome) :
    ∃ before invocation process after,
      Completed executor.runner executor.snapshots state before invocation process after ∧
      before.health = .healthy ∧ Lifecycle.plan request before = .ok invocation ∧
      outcome = LifecycleExecutor.reconcile invocation process after := by
  obtain ⟨before, seen, invocation, process, acted, after, final, hlook, hplan, hrun, hlook', rfl⟩ :=
    of_supervise_eq_ok h
  obtain ⟨hhealth, hplan⟩ := LifecycleExecutor.preflight_eq_ok.mp hplan
  exact ⟨before, invocation, process, after, ⟨seen, acted, final, hlook, hrun, hlook'⟩, hhealth,
    hplan, rfl⟩

theorem ResourcePoolExecutor.of_execute_eq_ok {executor : ResourcePoolExecutor σ ε κ} {state : σ}
    {outcome : ResourcePoolOutcome} (h : (executor.execute request state).1 = .ok outcome) :
    ∃ before invocation process after,
      Completed executor.runner executor.snapshots state before invocation process after ∧
      plan request before = .ok invocation ∧
      outcome = reconcile request before after process := by
  obtain ⟨before, seen, invocation, process, acted, after, final, hlook, hplan, hrun, hlook', rfl⟩ :=
    of_supervise_eq_ok h
  exact ⟨before, invocation, process, after, ⟨seen, acted, final, hlook, hrun, hlook'⟩,
    preflight_eq_ok.mp hplan, rfl⟩

/-- Terminal states tell the truth about the kernel. The outcome of every execution of a
mutating invocation is decided by the postflight snapshot and what the request asked for;
no result of the Kerf process would have changed it. The two ways of comparing a pool with
the request agree. -/
structure Truthful (lifecycle : LifecycleExecutor σ ε κ) (pool : ResourcePoolExecutor σ ε κ)
    (state : σ) (request : LifecycleRequest) (poolRequest : ResourcePoolRequest) : Prop where
  lifecycle : ∀ outcome, (lifecycle.execute request state).1 = .ok outcome →
    ∃ before invocation process,
      Completed lifecycle.runner lifecycle.snapshots state before invocation process
        outcome.snapshot ∧
      Lifecycle.plan request before = .ok invocation ∧
      (invocation.mutatesKernel = true →
        Verdict outcome.state outcome.snapshot (LifecycleReached outcome.snapshot request) ∧
        ∀ other : Except κ KerfRunResult,
          (LifecycleExecutor.reconcile invocation other outcome.snapshot).state = outcome.state)
  pool : ∀ outcome, (pool.execute poolRequest state).1 = .ok outcome → ∃ before invocation process,
      Completed pool.runner pool.snapshots state before invocation process outcome.snapshot ∧
      plan poolRequest before = .ok invocation ∧
      Verdict outcome.state outcome.snapshot (PoolReached outcome.snapshot poolRequest) ∧
      ∀ other : Except κ KerfRunResult,
        (reconcile poolRequest before outcome.snapshot other).state = outcome.state
  agree : ∀ before invocation after, plan poolRequest before = .ok invocation →
      (transition poolRequest before after).requestReached =
        expectedStateObserved invocation.expectedState after

/-- A completed pool mutation is judged by the snapshot after it. -/
theorem ResourcePoolExecutor.execute_of_completed {executor : ResourcePoolExecutor σ ε κ}
    {state : σ} {before : HostSnapshot} {invocation : KerfInvocation}
    {process : Except κ KerfRunResult}
    (h : Completed executor.runner executor.snapshots state before invocation process after)
    (hplan : plan request before = .ok invocation) :
    (executor.execute request state).1 = .ok (reconcile request before after process) := by
  obtain ⟨seen, acted, final, hlook, hrun, hlook'⟩ := h
  refine supervise_of_looks hlook ?_ hrun hlook'
  exact preflight_eq_ok.mpr hplan

/-- **Terminal states tell the truth** exactly when the regions of a pool that looks like the
requested one after the Kerf run add up without a carry. -/
theorem execute_truthful_iff (lifecycle : LifecycleExecutor σ ε κ)
    (pool : ResourcePoolExecutor σ ε κ) (state : σ) (request : LifecycleRequest)
    (poolRequest : ResourcePoolRequest) :
    Truthful lifecycle pool state request poolRequest ↔
      ∀ before process after, PoolAccepted poolRequest before →
        Completed pool.runner pool.snapshots state before
          (poolInvocation poolRequest) process after →
        NoCarry after poolRequest := by
  constructor
  · intro h before process after haccepted hdone
    have hplan := plan_eq_ok.mpr ⟨haccepted, rfl⟩
    obtain ⟨_, _, _, -, -, hverdict, -⟩ :=
      h.pool _ (execute_of_completed hdone hplan)
    exact (poolReconcile_verdict poolRequest before after process).reached_iff.mp hverdict
  · intro h
    refine ⟨fun outcome hok => ?_, fun outcome hok => ?_, fun before invocation after hplan => ?_⟩
    · obtain ⟨before, invocation, process, after, hdone, -, hplan, rfl⟩ :=
        LifecycleExecutor.of_execute_eq_ok hok
      refine ⟨before, invocation, process, hdone, hplan, fun hmutates => ?_⟩
      have hverdict := reconcile_verdict hmutates process after
      rw [(plan_target hplan).1, expectedStateObserved_target] at hverdict
      refine ⟨hverdict, fun other => ?_⟩
      -- the verdict does not mention the process, so another result gets the same state
      have hother := reconcile_verdict hmutates other after
      rw [(plan_target hplan).1, expectedStateObserved_target] at hother
      exact hother.state_unique hverdict
    · obtain ⟨before, invocation, process, after, hdone, hplan, rfl⟩ :=
        of_execute_eq_ok hok
      have hverdict := poolReconcile_verdict poolRequest before after process
      obtain ⟨haccepted, rfl⟩ := plan_eq_ok.mp hplan
      refine ⟨before, _, process, hdone, hplan, ?_, fun other =>
        (poolReconcile_verdict poolRequest before after other).state_unique hverdict⟩
      exact hverdict.reached_iff.mpr (h before process after haccepted hdone)
    · obtain ⟨-, rfl⟩ := plan_eq_ok.mp hplan
      rw [Bool.eq_iff_iff, requestReached_transition, expectedStateObserved_poolInvocation]

/-- A host with no pool and one loaded instance. -/
def idleSnapshot : HostSnapshot where
  generation := ⟨1⟩
  health := .healthy
  diagnostics := []
  kernel := ⟨"6.12", true⟩
  capabilities := []
  topology := ⟨"x86_64", [], []⟩
  memory := ⟨0, 0, 0, 0⟩
  resourcePool := ⟨[], [], [], [], []⟩
  instances := [⟨⟨1⟩, "web", ⟨1⟩, .loaded, ⟨[], none, 0, none, []⟩, ⟨true⟩⟩]
  transactions := []
  operations := []

end Verdicts

/-! ### Sums of memory -/

section Sums

variable {κ : Type}

/-- The memory of all instances of a snapshot. -/
def assignedBytes (snapshot : HostSnapshot) : ℕ :=
  (snapshot.instances.map fun inst => inst.resources.memoryBytes.toNat).sum

/-- A pool request is accepted only if it leaves the instances their memory, and has succeeded
only if the regions make up what was asked for. -/
structure MemoryAccounted (request : ResourcePoolRequest) (before after : HostSnapshot)
    (process : Except κ KerfRunResult) : Prop where
  accepted : ∀ invocation, plan request before = .ok invocation →
    assignedBytes before ≤ request.memoryBytes.toNat
  succeeded : (reconcile request before after process).state = .succeeded →
    regionBytes after = request.memoryBytes.toNat

/-- **Pool memory is accounted for exactly when the sums have no carry**: that of the instances
of a snapshot on which the request is accepted, and that of the regions of a pool that looks like
the requested one. -/
theorem memoryAccounted_iff (request : ResourcePoolRequest) (before after : HostSnapshot)
    (process : Except κ KerfRunResult) :
    MemoryAccounted request before after process ↔
      (PoolAccepted request before → assignedBytes before < 2 ^ 64) ∧ NoCarry after request := by
  have hverdict := poolReconcile_verdict request before after process
  constructor
  · intro h
    refine ⟨fun haccepted => ?_, fun hhealth hmatches => ?_⟩
    · have hle := h.accepted _ (plan_eq_ok.mpr ⟨haccepted, rfl⟩)
      exact hle.trans_lt (UInt64.toNat_lt _)
    · rw [h.succeeded (hverdict.succeeded_iff.mpr ⟨hhealth, hmatches⟩)]
      exact UInt64.toNat_lt _
  · intro h
    refine ⟨fun invocation hplan => ?_, fun hstate => ?_⟩
    · have haccepted := (plan_eq_ok.mp hplan).1
      -- the planner compares the sum modulo `2 ^ 64`
      have hkept := haccepted.memory_kept
      rw [UInt64.le_iff_toNat_le, toNat_wrappingSum, List.map_map] at hkept
      exact (le_of_eq (Nat.mod_eq_of_lt (h.1 haccepted)).symm).trans hkept
    · obtain ⟨hhealth, hmatches⟩ := hverdict.succeeded_iff.mp hstate
      exact (hmatches.reached_iff.mpr (h.2 hhealth hmatches)).2

/-- A host with two instances and two regions of `2 ^ 63` bytes each. -/
def hugeSnapshot : HostSnapshot :=
  { idleSnapshot with
    resourcePool := ⟨[], [],
      [⟨0, 0x8000000000000000, 0⟩, ⟨0x8000000000000000, 0x8000000000000000, 0⟩], [], []⟩
    instances := [⟨⟨1⟩, "web", ⟨1⟩, .loaded, ⟨[], some 0, 0x8000000000000000, none, []⟩, ⟨true⟩⟩,
      ⟨⟨2⟩, "db", ⟨1⟩, .loaded,
        ⟨[], some 0x8000000000000000, 0x8000000000000000, none, []⟩, ⟨true⟩⟩] }

/-- The request for an empty pool is accepted there, and said to have succeeded. -/
theorem carried_sums_accepted :
    let request : ResourcePoolRequest := ⟨⟨1⟩, [], 0⟩
    (∃ invocation, plan request hugeSnapshot = .ok invocation) ∧
      request.memoryBytes.toNat < assignedBytes hugeSnapshot ∧
      (reconcile request hugeSnapshot hugeSnapshot
        (.ok ⟨.exited 0, [], []⟩ : Except Unit KerfRunResult)).state = .succeeded ∧
      regionBytes hugeSnapshot ≠ request.memoryBytes.toNat := by
  intro request
  have haccepted : PoolAccepted request hugeSnapshot := by
    refine ⟨rfl, rfl, List.nodup_nil, rfl, ?_, by decide⟩
    simp [hugeSnapshot]
  refine ⟨⟨_, plan_eq_ok.mpr ⟨haccepted, rfl⟩⟩, ?_, ?_, ?_⟩ <;> decide

/-- Kerf leaves the host as it is; an empty pool is said to be there, with `2 ^ 64` bytes. -/
theorem success_with_carry :
    let runner : KerfRunner Unit Unit := ⟨fun _ host => (.ok ⟨.exited 0, [], []⟩, host)⟩
    let snapshots : SnapshotRefresher Unit Unit :=
      ⟨fun host => (.ok { hugeSnapshot with instances := [] }, host)⟩
    ∃ outcome, ((mk runner snapshots).execute ⟨⟨1⟩, [], 0⟩ ()).1 =
        .ok outcome ∧ outcome.state = .succeeded ∧ outcome.snapshot.health = .healthy ∧
      ¬ PoolReached outcome.snapshot ⟨⟨1⟩, [], 0⟩ := by
  intro runner snapshots
  refine ⟨_, rfl, rfl, rfl, fun hreached => ?_⟩
  exact absurd hreached.2 (by decide)

end Sums

end Kernmux.Daemon
