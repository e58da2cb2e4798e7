import Kernmux.Daemon.ExecutorSound
import Kernmux.Daemon.InventorySound
import Kernmux.Daemon.OperationsSound
import Kernmux.Daemon.RouterPaths
import Kernmux.Daemon.StorageInventorySound

/-!
# Kernmux.Daemon.SnapshotHealth

**What is done with a snapshot that nobody can vouch for.** When an observation
fails, the inventory hands out the retained snapshot marked indeterminate, as an
ordinary answer. Whoever acts on an answer has to look at the mark.

The executors look at it, before a mutation and after it, but the operation that
records an indeterminate outcome offers a retry (`NotRetryable`). The console
and the block devices do not look at it: a console is attached and a device is
offered on the word of a snapshot that may be out of date
(`HealthyDecisions`).
-/

namespace Kernmux.Daemon

open Api.V1 Kernmux.Core Library HostApi Inventory Lifecycle Scheduler LinuxStorageInventory
  LifecycleExecutor

variable {registry : OperationRegistry} {id : OperationId} {completedAt : String}
  {operation : Operation} {snapshot : HostSnapshot}

/-! ### What an operation says about a retry -/

/-- An operation whose outcome is not known does not offer a retry. -/
def NotRetryable (operation : Operation) : Prop :=
  operation.state = .indeterminate → ∃ error, operation.error = some error ∧ error.retryable = false

/-- The scheduler records the result of a task. -/
def Recorded (registry : OperationRegistry) (id : OperationId) (completedAt : String)
    (result : OperationTaskResult) (operation : Operation) : Prop :=
  (registry.finish id result.state result.observedGeneration result.error completedAt).1 =
    .ok operation

theorem Recorded.eq {result : OperationTaskResult}
    (h : Recorded registry id completedAt result operation) :
    operation.state = result.state ∧ operation.error = result.error := by
  have heffect := update_cases registry id (OperationRegistry.finishMutation result.state
    result.observedGeneration result.error completedAt)
  unfold Recorded OperationRegistry.finish at h
  generalize registry.update id _ = answer at heffect h
  cases heffect with
  | missing hget | rejected hget herror => cases h
  | changed hget hafter hat =>
      cases h
      rw [← (finishMutation_eq_ok.mp hafter).2.2]
      exact ⟨rfl, rfl⟩

/-- The report of an indeterminate outcome offers a retry. -/
theorem notRetryable_outcomeResult {state : OperationState} {generation : Generation}
    {diagnostics : List Diagnostic}
    (h : Recorded registry id completedAt (outcomeResult state generation diagnostics) operation) :
    NotRetryable operation ↔ state ≠ .indeterminate := by
  obtain ⟨hstate, herror⟩ := h.eq
  rw [NotRetryable, hstate, herror]
  constructor
  · intro hnot hindeterminate
    obtain ⟨error, hsome, hretryable⟩ := hnot hindeterminate
    subst hindeterminate
    cases hsome
    exact absurd hretryable (by simp [apiError])
  · intro hne hindeterminate
    exact absurd hindeterminate hne

/-- What was rejected before execution has failed. -/
theorem notRetryable_failureResult {code : ErrorCode} {diagnostics : List Diagnostic}
    (h : Recorded registry id completedAt (failureResult code diagnostics) operation) :
    NotRetryable operation := by
  intro hindeterminate
  rw [h.eq.1] at hindeterminate
  cases hindeterminate

section Retries

variable {σ ε κ : Type}

/-- After every mutation that is carried out the host can be observed. -/
def PostflightHealthy (runner : KerfRunner σ κ) (snapshots : SnapshotRefresher σ ε) (state : σ)
    (accepted : HostSnapshot → KerfInvocation → Prop) : Prop :=
  ∀ before invocation process after,
    Completed runner snapshots state before invocation process after →
      accepted before invocation → after.health = .healthy

theorem reconcile_indeterminate_iff (invocation : KerfInvocation)
    (process : Except κ KerfRunResult) (snapshot : HostSnapshot) :
    (reconcile invocation process snapshot).state = .indeterminate ↔
      snapshot.health ≠ .healthy := by
  unfold reconcile
  by_cases hhealth : snapshot.health = .healthy
  · simp only [hhealth, ne_eq, not_true_eq_false, if_false, iff_false]
    split_ifs <;> simp
  · simp [hhealth]

/-- A completed lifecycle mutation is judged by the snapshot after it. -/
theorem LifecycleExecutor.execute_of_completed {executor : LifecycleExecutor σ ε κ}
    {request : LifecycleRequest} {state : σ} {before after : HostSnapshot}
    {invocation : KerfInvocation} {process : Except κ KerfRunResult}
    (h : Completed executor.runner executor.snapshots state before invocation process after)
    (hbefore : before.health = .healthy) (hplan : Lifecycle.plan request before = .ok invocation) :
    (executor.execute request state).1 = .ok (reconcile invocation process after) := by
  obtain ⟨seen, acted, final, hlook, hrun, hlook'⟩ := h
  refine supervise_of_looks hlook ?_ hrun hlook'
  exact preflight_eq_ok.mpr ⟨hbefore, hplan⟩

/-- No outcome is indeterminate exactly when the host can be observed after every mutation. -/
theorem LifecycleExecutor.determinate_iff (executor : LifecycleExecutor σ ε κ)
    (request : LifecycleRequest) (state : σ) :
    (∀ outcome, (executor.execute request state).1 = .ok outcome → outcome.state ≠ .indeterminate) ↔
      PostflightHealthy executor.runner executor.snapshots state
        fun before invocation =>
          before.health = .healthy ∧ Lifecycle.plan request before = .ok invocation := by
  constructor
  · intro h before invocation process after hdone haccepted
    have houtcome := h _ (execute_of_completed hdone haccepted.1 haccepted.2)
    exact not_not.mp (mt (reconcile_indeterminate_iff invocation process after).mpr houtcome)
  · intro h outcome hok hindeterminate
    obtain ⟨before, invocation, process, after, hdone, hbefore, hplan, rfl⟩ :=
      of_execute_eq_ok hok
    exact (reconcile_indeterminate_iff invocation process after).mp hindeterminate
      (h before invocation process after hdone ⟨hbefore, hplan⟩)

theorem ResourcePoolExecutor.determinate_iff (executor : ResourcePoolExecutor σ ε κ)
    (request : ResourcePoolRequest) (state : σ) :
    (∀ outcome, (executor.execute request state).1 = .ok outcome → outcome.state ≠ .indeterminate) ↔
      PostflightHealthy executor.runner executor.snapshots state
        fun before invocation => ResourcePoolExecutor.plan request before = .ok invocation := by
  constructor
  · intro h before invocation process after hdone haccepted
    have houtcome := h _ (execute_of_completed hdone haccepted)
    have hverdict := poolReconcile_verdict request before after process
    exact not_not.mp (mt hverdict.indeterminate_iff.mpr houtcome)
  · intro h outcome hok hindeterminate
    obtain ⟨before, invocation, process, after, hdone, hplan, rfl⟩ :=
      ResourcePoolExecutor.of_execute_eq_ok hok
    have hverdict := poolReconcile_verdict request before after process
    exact hverdict.indeterminate_iff.mp hindeterminate
      (h before invocation process after hdone hplan)

/-- **The recorded operation does not offer a retry of an indeterminate outcome** exactly when
there is none: when the host can be observed after every mutation that was carried out. -/
theorem notRetryable_iff (lifecycle : LifecycleExecutor σ ε κ) (pool : ResourcePoolExecutor σ ε κ)
    (state : σ) (registry : OperationRegistry) (id : OperationId) (completedAt : String) :
    (∀ request operation,
      Recorded registry id completedAt (lifecycleTaskResult (lifecycle.execute request state).1)
        operation →
      (NotRetryable operation ↔
        PostflightHealthy lifecycle.runner lifecycle.snapshots state fun before invocation =>
          before.health = .healthy ∧ Lifecycle.plan request before = .ok invocation)) ∧
    (∀ request operation,
      Recorded registry id completedAt (resourcePoolTaskResult (pool.execute request state).1)
        operation →
      (NotRetryable operation ↔
        PostflightHealthy pool.runner pool.snapshots state fun before invocation =>
          ResourcePoolExecutor.plan request before = .ok invocation)) := by
  constructor
  · intro request operation hrecorded
    rw [← lifecycle.determinate_iff]
    cases hresult : (lifecycle.execute request state).1 with
    | error error =>
        rw [hresult] at hrecorded
        simp [notRetryable_failureResult hrecorded]
    | ok outcome =>
        rw [hresult] at hrecorded
        simp [notRetryable_outcomeResult hrecorded]
  · intro request operation hrecorded
    rw [← pool.determinate_iff]
    cases hresult : (pool.execute request state).1 with
    | error error =>
        rw [hresult] at hrecorded
        simp [notRetryable_failureResult hrecorded]
    | ok outcome =>
        rw [hresult] at hrecorded
        simp [notRetryable_outcomeResult hrecorded]

end Retries

/-- A registry with one running operation. -/
def runningRegistry : OperationRegistry :=
  let created := (OperationRegistry.mk 1 1 ⟨1, 1, ⟨0⟩, [], []⟩ (by decide) (by decide)).create
    ⟨.startInstance, ⟨1⟩, [], none, none, ""⟩
  (created.2.start (operationId 1)).2

/-- Kerf exits with an error on a host that can be observed all the time. -/
theorem notRetryable_iff_idle :
    let runner : KerfRunner Unit Unit := ⟨fun _ host => (.ok ⟨.exited 1, [], []⟩, host)⟩
    let snapshots : SnapshotRefresher Unit Unit := ⟨fun host => (.ok idleSnapshot, host)⟩
    let result := lifecycleTaskResult
      ((mk runner snapshots).execute (.start ⟨⟨1⟩, ⟨1⟩⟩) ()).1
    ∃ operation, Recorded runningRegistry (operationId 1) "" result operation ∧
      NotRetryable operation := by
  intro runner snapshots result
  have hiff := (notRetryable_iff ⟨runner, snapshots⟩ ⟨runner, snapshots⟩ () runningRegistry
    (operationId 1) "").1 (.start ⟨⟨1⟩, ⟨1⟩⟩)
  refine ⟨_, rfl, (hiff _ rfl).mpr ?_⟩
  intro before invocation process after hdone _
  obtain ⟨_, _, _, -, -, hlook⟩ := hdone
  obtain ⟨hsnapshot, -⟩ := Prod.mk.inj hlook
  rw [← Except.ok.inj hsnapshot]
  rfl

/-- The observation after the Kerf run fails, and the operation that records it offers a retry. -/
theorem indeterminate_retryable :
    let runner : KerfRunner Bool Unit := ⟨fun _ _ => (.ok ⟨.exited 0, [], []⟩, true)⟩
    let snapshots : SnapshotRefresher Bool Unit := ⟨fun ran =>
      (.ok (if ran then staleSnapshot idleSnapshot else idleSnapshot), ran)⟩
    let result := lifecycleTaskResult
      ((mk runner snapshots).execute (.start ⟨⟨1⟩, ⟨1⟩⟩) false).1
    ∃ operation error, Recorded runningRegistry (operationId 1) "" result operation ∧
      operation.state = .indeterminate ∧ operation.error = some error ∧ error.retryable = true := by
  intro runner snapshots result
  exact ⟨_, _, rfl, rfl, rfl, rfl⟩

/-! ### Decisions on an answer of the inventory -/

section Decisions

variable {ε : Type}

/-- What is decided on an answer of the inventory is decided on a healthy snapshot. -/
structure HealthyDecisions (answered : Except ε HostSnapshot) (inventory : LinuxStorageInventory)
    (files : HostFiles) : Prop where
  console : ∀ limiter request id, prepareUpgrade answered limiter request = .ok id →
    ∃ snapshot, answered = .ok snapshot ∧ snapshot.health = .healthy ∧ InState snapshot id .active
  storage : ∀ observed, storageDevices answered inventory files = .ok observed →
    ∀ device ∈ observed.devices, device.eligible = true →
      ∃ snapshot, answered = .ok snapshot ∧ snapshot.health = .healthy

/-- A console is attached to an active instance of the answer. -/
theorem active_of_prepareUpgrade {answered : Except ε HostSnapshot} {limiter : ServiceLimiter}
    {request : LocalRequest} {id : InstanceId}
    (h : prepareUpgrade answered limiter request = .ok id) :
    ∃ snapshot, answered = .ok snapshot ∧ InState snapshot id .active := by
  unfold prepareUpgrade at h
  split at h
  case h_2 => cases h
  case h_1 found hfound =>
    split_ifs at h
    cases answered with
    | error error => cases h
    | ok snapshot =>
        simp only at h
        split_ifs at h with hactive
        obtain ⟨inst, hmem, hinst⟩ := List.any_eq_true.mp hactive
        cases hpermit : limiter.acquire .console with
        | error error => simp [hpermit, Except.map] at h
        | ok taken =>
            simp only [hpermit, Except.map, Except.ok.injEq] at h
            exact ⟨snapshot, rfl, inst, hmem, h ▸ of_decide_eq_true hinst⟩

/-- To every active instance of the answer a console can be attached. -/
theorem prepareUpgrade_of_active {id : InstanceId} (h : InState snapshot id .active) :
    ∃ limiter request, prepareUpgrade (ε := ε) (.ok snapshot) limiter request = .ok id := by
  obtain ⟨inst, hmem, rfl, hstate⟩ := h
  refine ⟨⟨⟨1, 1, 1⟩, ⟨0, 0, 0⟩⟩,
    ⟨.post, "/1.0/instances/" ++ toString inst.id.val.toNat ++ "/console", none, none, []⟩, ?_⟩
  have hresource :
      instanceResource ("/1.0/instances/" ++ toString inst.id.val.toNat ++ "/console") =
        some (inst.id, some .console) :=
    instanceResource_action inst.id "console" rfl (by decide) rfl
  have hany : (snapshot.instances.any fun other =>
      decide (other.id = inst.id ∧ other.state = .active)) = true :=
    List.any_eq_true.mpr ⟨inst, hmem, decide_eq_true ⟨rfl, hstate⟩⟩
  simp only [prepareUpgrade, hresource, hany]
  rfl

theorem storageDevices_ok {inventory : LinuxStorageInventory} {files : HostFiles}
    {observed : StorageInventory} :
    storageDevices (ε := ε) (.ok snapshot) inventory files = .ok observed ↔
      inventory.observe files (peerPciIds snapshot) = .ok observed := by
  simp [storageDevices, mapErr_eq_ok, bind_eq_ok]

variable {results : ℕ → Except ε HostObservations} {n : ℕ}

/-- An answer is healthy, or it is the retained snapshot after a failed observation. -/
theorem answer_health (h : answer results n = .ok snapshot) :
    snapshot.health = .healthy ∨ ∃ error current, results n = .error error ∧
      retained results n = some current ∧ snapshot = staleSnapshot current := by
  cases hresult : results n with
  | ok observations =>
      obtain ⟨generation, hanswer, -⟩ := answer_of_ok hresult
      obtain rfl := Except.ok.inj (h.symm.trans hanswer)
      exact .inl rfl
  | error error =>
      cases hretained : retained results n with
      | none =>
          rw [answer_eq, hresult, hretained] at h
          cases h
      | some current =>
          obtain rfl := Except.ok.inj (h.symm.trans (answer_of_error hresult hretained))
          exact .inr ⟨error, current, rfl, rfl, rfl⟩

/-- Nothing can be decided on a retained snapshot: no instance is active, and if the block devices
can be read, the files and the peers of the snapshot leave none of them to be offered. -/
structure NothingToDecide (current : HostSnapshot) (inventory : LinuxStorageInventory)
    (files : HostFiles) : Prop where
  console : ∀ inst ∈ current.instances, inst.state ≠ .active
  storage : ∀ mounts swaps, inventory.Readable files mounts swaps →
    ∀ name, ¬ inventory.Offered files mounts swaps (peerPciIds current) name

/-- **Decisions are taken on healthy snapshots** exactly when, whenever an observation fails with
a snapshot retained, there is nothing to decide on it. -/
theorem healthyDecisions_iff (results : ℕ → Except ε HostObservations) (n : ℕ)
    (inventory : LinuxStorageInventory)
    (hjson : ∀ devices, (inventory.json devices).isSome = true) (files : HostFiles) :
    HealthyDecisions (answer results n) inventory files ↔
      ∀ error current, results n = .error error → retained results n = some current →
        NothingToDecide current inventory files := by
  constructor
  · intro h error current hresult hretained
    have hanswer := answer_of_error hresult hretained
    have hstale : ∀ snapshot, answer results n = .ok snapshot → snapshot.health ≠ .healthy := by
      intro snapshot hsnapshot
      obtain rfl := Except.ok.inj (hanswer.symm.trans hsnapshot)
      exact nofun
    constructor
    · intro inst hmem hactive
      have hstate : InState (staleSnapshot current) inst.id .active := ⟨inst, hmem, rfl, hactive⟩
      obtain ⟨limiter, request, hattached⟩ := prepareUpgrade_of_active (ε := ε) hstate
      rw [← hanswer] at hattached
      obtain ⟨snapshot, hsnapshot, hhealth, -⟩ := h.console limiter request inst.id hattached
      exact hstale snapshot hsnapshot hhealth
    · intro mounts swaps hreadable name hoffered
      obtain ⟨observed, hobserve⟩ := hreadable.observe hjson (peerPciIds current)
      have hlisted : storageDevices (answer results n) inventory files = .ok observed := by
        rw [hanswer]
        exact storageDevices_ok.mpr hobserve
      obtain ⟨mounts', swaps', hobserved⟩ := of_observe_eq_ok hobserve
      obtain rfl := Except.ok.inj (hobserved.mounts_eq.symm.trans hreadable.mounts_eq)
      obtain rfl := Except.ok.inj (hobserved.swaps_eq.symm.trans hreadable.swaps_eq)
      obtain ⟨entries, hentries, hentry⟩ := hoffered.listed
      obtain ⟨device, hdevice, hname⟩ := hobserved.complete entries hentries _ hentry
      obtain rfl := OsString.ofString_injective hname
      have heligible := (hobserved.eligible_iff hdevice).mpr hoffered
      obtain ⟨snapshot, hsnapshot, hhealth⟩ := h.storage observed hlisted device hdevice heligible
      exact hstale snapshot hsnapshot hhealth
  · intro h
    constructor
    · intro limiter request id hattached
      obtain ⟨snapshot, hsnapshot, hactive⟩ := active_of_prepareUpgrade hattached
      rcases answer_health hsnapshot with hhealth | ⟨error, current, hresult, hretained, rfl⟩
      · exact ⟨snapshot, hsnapshot, hhealth, hactive⟩
      · obtain ⟨inst, hmem, -, hstate⟩ := hactive
        exact absurd hstate ((h error current hresult hretained).console inst hmem)
    · intro observed hlisted device hdevice heligible
      cases hanswer : answer results n with
      | error error =>
          rw [hanswer] at hlisted
          cases hlisted
      | ok snapshot =>
          rw [hanswer] at hlisted
          rcases answer_health hanswer with hhealth | ⟨error, current, hresult, hretained, rfl⟩
          · exact ⟨snapshot, rfl, hhealth⟩
          · obtain ⟨mounts, swaps, hobserved⟩ :=
              of_observe_eq_ok (storageDevices_ok.mp hlisted)
            exact absurd ((hobserved.eligible_iff hdevice).mp heligible)
              ((h error current hresult hretained).storage mounts swaps hobserved.readable _)

end Decisions

/-- A host with one active instance. -/
def activeHost : HostObservations where
  linux := ⟨"6.12", "x86_64", ⟨[], rfl⟩, [], [], ⟨0, 0⟩⟩
  multikernel := ⟨⟨[], [], [], []⟩, [⟨5, "web", .active, ⟨[], 0, 0, []⟩, ⟨true⟩⟩], []⟩

/-- Every observation succeeds. -/
theorem healthyDecisions_iff_observed :
    HealthyDecisions (answer (fun _ => (.ok activeHost : Except Unit HostObservations)) 1)
      wholeHost twoDisks :=
  (healthyDecisions_iff _ 1 _ (fun _ => rfl) _).mpr fun _ _ hresult => absurd hresult (by simp)

/-- The host is observed once and not a second time: the console of the instance is attached and
a disk is offered all the same. -/
theorem stale_snapshot_decides :
    let results : ℕ → Except Unit HostObservations :=
      fun n => if n = 0 then .ok activeHost else .error ()
    (∃ snapshot, answer results 1 = .ok snapshot ∧ snapshot.health = .indeterminate) ∧
      (∃ limiter request, prepareUpgrade (answer results 1) limiter request = .ok ⟨5⟩) ∧
      ∃ observed, storageDevices (answer results 1) wholeHost
          twoDisks = .ok observed ∧
        ∃ device ∈ observed.devices, device.eligible = true := by
  intro results
  have hobserve : wholeHost.observe twoDisks [] =
      .ok ⟨⟨0⟩, [bridgedDisk, partedDisk, mountedPart]⟩ := by decide +kernel
  have hanswer : answer results 1 = .ok (staleSnapshot (assembleSnapshot ⟨1⟩ activeHost)) := rfl
  rw [hanswer]
  refine ⟨⟨_, rfl, rfl⟩, prepareUpgrade_of_active ?_, _, storageDevices_ok.mpr hobserve,
    bridgedDisk, List.mem_cons_self, rfl⟩
  exact ⟨_, List.mem_cons_self, rfl, rfl⟩

end Kernmux.Daemon
