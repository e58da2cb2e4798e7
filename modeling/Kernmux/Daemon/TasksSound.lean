import Kernmux.Daemon.ExecutorSound
import Kernmux.Daemon.OperationsSound
import Kernmux.Daemon.Tasks
import Mathlib.Data.List.Infix

/-!
# Kernmux.Daemon.TasksSound

**What a step of the daemon can do.** It is said once for an action
(`perform_spec`), once for a worker (`WorkerEffect`) and once for the daemon as
a whole (`ServiceEffect`). A property of single workers that survives a later
inventory and the steps of its own worker holds of all workers in every run
(`WorkerInvariant.of_run`). What a task reports in the end is such a property
(`Reports.of_run`).
-/

namespace Kernmux.Daemon

open Api.V1 Kernmux.Core Library Inventory Lifecycle Scheduler OperationRegistry ActionStage

variable {δ ο : Type} {source : Source} {replies : ℕ → DiskReply} {index : ℕ}
  {limiter : ServiceLimiter} {registry : OperationRegistry} {τ ε κ : Type}

/-! ### The inventory moves on -/

/-- The greatest generation that an inventory has assigned; generations begin at 1. -/
def hostGeneration (inventory : InventoryService τ) : ℕ :=
  (inventory.current.map fun snapshot => snapshot.generation.val.toNat).getD 0

/-- An inventory that was refreshed any number of times, on a host that did what it liked. -/
structure Later (inventory next : InventoryService τ) : Prop where
  retained : inventory.current.isSome → next.current.isSome
  generation_le : hostGeneration inventory ≤ hostGeneration next

theorem Later.of_current_eq {inventory next : InventoryService τ}
    (h : next.current = inventory.current) : Later inventory next := by
  refine ⟨fun hsome => h ▸ hsome, ?_⟩
  rw [hostGeneration, hostGeneration, h]

theorem Later.refl (inventory : InventoryService τ) : Later inventory inventory :=
  .of_current_eq rfl

theorem nextSnapshot_generation_le (current : HostSnapshot) (observations : HostObservations) :
    current.generation.val.toNat ≤ (nextSnapshot current observations).generation.val.toNat := by
  unfold nextSnapshot
  dsimp only
  split
  · exact Nat.le_refl _
  · have hword := toNat_le_maxWord current.generation.val
    simp only [assembleSnapshot, toNat_saturatingAdd, UInt64.toNat_one]
    omega

/-- A refresh shows the generation that is assigned. -/
theorem refresh_later (source : InventorySource τ ε) (inventory : InventoryService τ) :
    Later inventory (inventory.refresh source).2 ∧
      ∀ snapshot, (inventory.refresh source).1 = .ok snapshot →
        snapshot.generation.val.toNat = hostGeneration (inventory.refresh source).2 := by
  cases hcurrent : inventory.current with
  | none =>
      have hzero : hostGeneration inventory = 0 := by simp [hostGeneration, hcurrent]
      cases hobserve : (source.observe inventory.source).1 with
      | error error =>
          simp only [InventoryService.refresh, hobserve, hcurrent, settle]
          refine ⟨.of_current_eq hcurrent.symm, fun snapshot h => ?_⟩
          cases h
      | ok observations =>
          simp only [InventoryService.refresh, hobserve, hcurrent, settle]
          refine ⟨⟨fun _ => rfl, hzero ▸ Nat.zero_le _⟩, fun snapshot h => ?_⟩
          cases h
          rfl
  | some current =>
      cases hobserve : (source.observe inventory.source).1 with
      | error error =>
          simp only [InventoryService.refresh, hobserve, hcurrent, settle]
          refine ⟨.of_current_eq hcurrent.symm, fun snapshot h => ?_⟩
          cases h
          rfl
      | ok observations =>
          have hle := nextSnapshot_generation_le current observations
          simp only [InventoryService.refresh, hobserve, hcurrent, settle]
          refine ⟨⟨fun _ => rfl, ?_⟩, fun snapshot h => ?_⟩
          · simpa [hostGeneration, hcurrent] using hle
          · cases h
            rfl

/-! ### Actions -/

/-- The states in which reconciliation can leave an operation. -/
def Concluded (state : OperationState) : Prop :=
  state = .succeeded ∨ state = .failed ∨ state = .indeterminate

theorem concluded_reconcile (invocation : KerfInvocation) (process : Except κ KerfRunResult)
    (snapshot : HostSnapshot) :
    Concluded (LifecycleExecutor.reconcile invocation process snapshot).state := by
  unfold LifecycleExecutor.reconcile Concluded
  dsimp only
  split_ifs <;> simp

theorem concluded_poolReconcile (request : ResourcePoolRequest) (before after : HostSnapshot)
    (process : Except κ KerfRunResult) :
    Concluded (ResourcePoolExecutor.reconcile request before after process).state := by
  unfold ResourcePoolExecutor.reconcile Concluded
  dsimp only
  split_ifs <;> simp

/-- The inventory has a snapshot to fall back on. -/
def HasSnapshot (inventory : InventoryService τ) : Prop := inventory.current.isSome

/-- The action has not answered, and an execution that has begun has seen a snapshot. -/
def StageReady (inventory : InventoryService τ) : (kind : ActionKind) → ActionStage ε κ kind → Prop
  | .lifecycle, job => job.progress.Ready HasSnapshot inventory
  | .resourcePool, job => job.progress.Ready HasSnapshot inventory
  | .importImage, _ => True
  | .resolve, _ => True

theorem StageReady.later {inventory next : InventoryService τ} (hlater : Later inventory next)
    (kind : ActionKind) (stage : ActionStage ε κ kind) (h : StageReady inventory kind stage) :
    StageReady next kind stage := by
  cases kind with
  | lifecycle | resourcePool => exact Progress.Ready.mono h hlater.retained
  | importImage | resolve => exact trivial

/-- What can be relied on in an answer: reconciled outcomes name a generation up to `bound`,
and resolving artifacts says nothing about generations. -/
def Judged (bound : ℕ) : (kind : ActionKind) → ActionAnswer ε kind → Prop
  | .lifecycle, answer => ∀ outcome, answer = .ok outcome →
      Concluded outcome.state ∧ outcome.snapshot.generation.val.toNat ≤ bound
  | .resourcePool, answer => ∀ outcome, answer = .ok outcome →
      Concluded outcome.state ∧ outcome.snapshot.generation.val.toNat ≤ bound
  | .importImage, _ => True
  | .resolve, answer => ∀ expected actual, answer ≠ .error (.staleGeneration expected actual)

/-- An action goes on: Kerf runs are followed by the look that judges them. -/
structure Goes (next : InventoryService τ) (kind : ActionKind) (stage later : ActionStage ε κ kind) :
    Prop where
  ready : StageReady next kind later
  invokes : reconciles kind later = invokesKerf kind stage
  reconciles : reconciles kind stage = false

/-- An action answers, and the look that judges a Kerf run does so with an outcome. -/
structure Answers (next : InventoryService τ) (kind : ActionKind) (stage : ActionStage ε κ kind)
    (answer : ActionAnswer ε kind) : Prop where
  judged : Judged (hostGeneration next) kind answer
  invokes : invokesKerf kind stage = false
  reconciles : reconciles kind stage = true → ActionAnswer.isOutcome kind answer = true

/-- What one step of an action comes to, case by case. -/
def Performed.Comes {σ α : Type} (goes : σ → Prop) (answers : α → Prop) (panics : Prop) :
    Performed σ α → Prop
  | .continued later => goes later
  | .answered answer => answers answer
  | .panicked => panics

theorem Performed.Comes.mono {σ α : Type} {goes goes' : σ → Prop} {answers answers' : α → Prop}
    {panics panics' : Prop} {performed : Performed σ α} (h : performed.Comes goes answers panics)
    (hgoes : ∀ later, goes later → goes' later) (hanswers : ∀ answer, answers answer → answers' answer)
    (hpanics : panics → panics') : performed.Comes goes' answers' panics' := by
  cases performed with
  | continued later => exact hgoes later h
  | answered answer => exact hanswers answer h
  | panicked => exact hpanics h

/-- What one step of an action of some kind comes to. -/
def PerformSpec (next : InventoryService τ) (kind : ActionKind) (stage : ActionStage ε κ kind) :
    Performed (ActionStage ε κ kind) (ActionAnswer ε kind) → Prop :=
  Performed.Comes (Goes next kind stage) (Answers next kind stage)
    (invokesKerf kind stage = false ∧ reconciles kind stage = false)

section Perform

variable {config : TaskConfig τ ε κ}

theorem resume_later {unavailable : ε → δ} {preflight : HostSnapshot → Except δ KerfInvocation}
    {conclude : HostSnapshot → KerfInvocation → Except κ KerfRunResult → HostSnapshot → ο}
    (progress : Progress δ HostSnapshot KerfInvocation (Except κ KerfRunResult) ο)
    (inventory : InventoryService τ) :
    Later inventory
      (resume config.backend unavailable preflight conclude (progress, inventory)).2 := by
  have hlook : Later inventory (config.backend.observe inventory).2 :=
    (refresh_later config.source inventory).1
  cases progress with
  | begun =>
      rcases hobserve : config.backend.observe inventory with ⟨error | before, next⟩ <;>
        rw [hobserve] at hlook <;> simp only [resume, hobserve] <;> exact hlook
  | seen before =>
      simp only [resume]
      split <;> exact .refl inventory
  | decided before action => exact .of_current_eq rfl
  | acted before action process =>
      rcases hobserve : config.backend.observe inventory with ⟨error | after, next⟩ <;>
        rw [hobserve] at hlook <;> simp only [resume, hobserve] <;> exact hlook
  | ended result => exact .refl inventory

/-- One step of an execution, whatever it executes and however it concludes. -/
theorem performJob_comes {ρ : Type} {unavailable : ε → δ}
    {preflight : HostSnapshot → Except δ KerfInvocation}
    {conclude : HostSnapshot → KerfInvocation → Except κ KerfRunResult → HostSnapshot → ο}
    {job : Job ρ δ κ ο} {world : World τ} (post : ℕ → ο → Prop)
    (hready : job.progress.Ready HasSnapshot world.inventory)
    (hpost : ∀ before action process after,
      post after.generation.val.toNat (conclude before action process after)) :
    let reached := resume config.backend unavailable preflight conclude
      (job.progress, world.inventory)
    (performJob job world reached).1.Comes
      (fun later => later.progress.Ready HasSnapshot reached.2 ∧
        later.progress.isActed = job.progress.isDecided ∧ job.progress.isActed = false)
      (fun answer => (∀ outcome, answer = .ok outcome → post (hostGeneration reached.2) outcome) ∧
        job.progress.isDecided = false ∧ (job.progress.isActed = true → answer.isOk = true))
      False := by
  intro reached
  have hretains : config.backend.Retains HasSnapshot := retains_inventory config.source config.runner
  obtain ⟨-, hnext, hacted⟩ : (_ → HasSnapshot reached.2) ∧
      (reached.1.Ready HasSnapshot reached.2 ∨ ∃ result, reached.1 = .ended result) ∧
      (_ → ∃ value, reached.1 = .ended (.ok value)) := hretains.resume_ready hready
  have hdecided : reached.1.isActed = job.progress.isDecided := resume_isActed job.progress
  have hended : ∀ value, reached.1 = .ended (.ok value) → post (hostGeneration reached.2) value := by
    intro value hvalue
    have hopen : ∀ result, job.progress ≠ .ended result := by
      intro result hover
      rw [hover] at hready
      exact hready
    obtain ⟨before, action, process, after, -, hobserve, rfl⟩ := resume_ended_ok hopen hvalue
    have hshown := (refresh_later config.source world.inventory).2 after (congrArg Prod.fst hobserve)
    have hkept : (world.inventory.refresh config.source).2 = reached.2 := congrArg Prod.snd hobserve
    rw [← hkept, ← hshown]
    exact hpost before action process after
  clear_value reached
  obtain ⟨progress, inventory⟩ := reached
  cases progress with
  | ended result =>
      refine ⟨fun outcome houtcome => hended outcome (congrArg _ houtcome), hdecided.symm, fun h => ?_⟩
      obtain ⟨value, hvalue⟩ := hacted h
      cases hvalue
      rfl
  | begun | seen before | decided before action | acted before action process =>
      refine ⟨hnext.resolve_right nofun, hdecided, Bool.eq_false_iff.mpr fun h => ?_⟩
      obtain ⟨value, hvalue⟩ := hacted h
      cases hvalue

theorem performLifecycle_spec {job : LifecycleJob ε κ} {world : World τ}
    (hready : StageReady world.inventory .lifecycle job) :
    PerformSpec (performLifecycle config job world).2.inventory .lifecycle job
      (performLifecycle config job world).1 := by
  refine (performJob_comes (fun bound (outcome : LifecycleOutcome) => Concluded outcome.state ∧
    outcome.snapshot.generation.val.toNat ≤ bound) hready ?_).mono
    (fun _ h => ⟨h.1, h.2.1, h.2.2⟩) (fun _ h => ⟨h.1, h.2.1, h.2.2⟩) False.elim
  exact fun _ action process after => ⟨concluded_reconcile action process after, Nat.le_refl _⟩

theorem performResourcePool_spec {job : ResourcePoolJob ε κ} {world : World τ}
    (hready : StageReady world.inventory .resourcePool job) :
    PerformSpec (performResourcePool config job world).2.inventory .resourcePool job
      (performResourcePool config job world).1 := by
  refine (performJob_comes (fun bound (outcome : ResourcePoolOutcome) => Concluded outcome.state ∧
    outcome.snapshot.generation.val.toNat ≤ bound) hready ?_).mono
    (fun _ h => ⟨h.1, h.2.1, h.2.2⟩) (fun _ h => ⟨h.1, h.2.1, h.2.2⟩) False.elim
  exact fun before _ process after =>
    ⟨concluded_poolReconcile job.request before after process, Nat.le_refl _⟩

theorem notStale_resolveBoth (config : TaskConfig τ ε κ) (kernelId : ArtifactId)
    (initrdId : Option ArtifactId) (state : CatalogState) :
    Faulty.wp (resolveBoth config kernelId initrdId)
      (fun ended _ => ImageCatalog.NotStale ended) state := by
  unfold resolveBoth
  refine ImageCatalog.wp_bind_notStale (ImageCatalog.wp_resolve .kernel kernelId)
    (fun kernel state => ?_) state
  cases initrdId with
  | none => exact Faulty.wp_pure.mpr nofun
  | some id =>
      exact ImageCatalog.wp_bind_notStale (ImageCatalog.wp_resolve .initrd id)
        (fun initrd state => Faulty.wp_pure.mpr nofun) state

theorem perform_later {kind : ActionKind} {stage : ActionStage ε κ kind} {world reached : World τ}
    {performed : Performed (ActionStage ε κ kind) (ActionAnswer ε kind)}
    (h : perform config source replies kind stage world = (performed, reached)) :
    Later world.inventory reached.inventory := by
  obtain rfl := congrArg Prod.snd h
  cases kind with
  | lifecycle | resourcePool => exact resume_later stage.progress world.inventory
  | importImage | resolve => exact .refl _

/-- One step of an action. -/
theorem perform_spec {kind : ActionKind} {stage : ActionStage ε κ kind} {world reached : World τ}
    {performed : Performed (ActionStage ε κ kind) (ActionAnswer ε kind)}
    (h : perform config source replies kind stage world = (performed, reached))
    (hready : StageReady world.inventory kind stage) :
    PerformSpec reached.inventory kind stage performed := by
  obtain rfl := congrArg Prod.fst h
  obtain rfl := congrArg Prod.snd h
  cases kind with
  | lifecycle => exact performLifecycle_spec hready
  | resourcePool => exact performResourcePool_spec hready
  | importImage =>
      simp only [perform, performCatalog]
      split
      · exact ⟨trivial, rfl, nofun⟩
      · exact ⟨trivial, rfl, nofun⟩
      · exact ⟨rfl, rfl⟩
  | resolve =>
      have hwp := notStale_resolveBoth config stage.1 stage.2
        ⟨world.catalog, ⟨world.disk, replies⟩⟩
      simp only [perform, performCatalog]
      unfold Faulty.wp at hwp
      split
      · exact ⟨nofun, rfl, nofun⟩
      · next error herror =>
          rw [herror] at hwp
          refine ⟨fun expected actual heq => ?_, rfl, nofun⟩
          exact hwp expected actual (congrArg Ended.error (Except.error.inj heq))
      · exact ⟨rfl, rfl⟩

end Perform

/-! ### Steps of a worker -/

/-- The worker has come to its end. -/
def TaskPhase.ended : TaskPhase ε κ → Bool
  | .skipped _ | .settled _ _ => true
  | _ => false

section Effects

variable {config : TaskConfig τ ε κ} {locked : TaskMutex → Bool} {world : World τ}
  {registry : OperationRegistry} {worker : TaskWorker ε κ} {moved : TaskWorker.Moved τ ε κ}

variable (config world registry worker) in
/-- What one step of a worker can do. -/
inductive WorkerEffect : TaskWorker.Moved τ ε κ → Prop
  | spawned (hphase : worker.phase = .accepted) :
      WorkerEffect ⟨{ worker with phase := .spawned, handle := .created }, world, registry, false⟩
  | spawnFailed (hphase : worker.phase = .accepted) :
      WorkerEffect ⟨worker.release (.returned workerSpawnResult), world, registry, true⟩
  | started (hphase : worker.phase = .spawned) {operation : Operation}
      {reached : OperationRegistry} (hstart : registry.start worker.id = (.ok operation, reached)) :
      WorkerEffect ⟨worker.continueWith worker.request.task, world, reached, false⟩
  | refused (hphase : worker.phase = .spawned) {error : OperationRegistryError}
      {reached : OperationRegistry} (hstart : registry.start worker.id = (.error error, reached)) :
      WorkerEffect ⟨worker.release (.skipped error), world, reached, true⟩
  /-- The guard of a task that is over is dropped. -/
  | unguarded {result : OperationTaskResult} (hphase : worker.phase = .running (.done result)) :
      WorkerEffect ⟨{ worker with held := none }, world, registry, false⟩
  | returned {result : OperationTaskResult} (hphase : worker.phase = .running (.done result))
      (hheld : worker.held = none) :
      WorkerEffect ⟨worker.release (.returned result), world, registry, true⟩
  | passed {next : Task ε κ} (hphase : worker.phase = .running (.check next))
      (hflag : worker.cancelled = false) :
      WorkerEffect ⟨worker.continueWith next, world, registry, false⟩
  | turnedAway {next : Task ε κ} (hphase : worker.phase = .running (.check next))
      (hflag : worker.cancelled = true) :
      WorkerEffect ⟨worker.continueWith (.done (.cancelled none)), world, registry, false⟩
  | locked {mutex : TaskMutex} {next : Task ε κ}
      (hphase : worker.phase = .running (.lock mutex next)) :
      WorkerEffect ⟨worker.acquire mutex next, world, registry, false⟩
  | unlocked {mutex : TaskMutex} {next : Task ε κ}
      (hphase : worker.phase = .running (.unlock mutex next)) :
      WorkerEffect ⟨{ worker.continueWith next with held := none }, world, registry, false⟩
  | continued {kind : ActionKind} {stage later : ActionStage ε κ kind}
      {next : ActionAnswer ε kind → Task ε κ} {reached : World τ} {source : Source}
      {replies : ℕ → DiskReply} (hphase : worker.phase = .running (.act kind stage next))
      (hperform : perform config source replies kind stage world = (.continued later, reached)) :
      WorkerEffect
        ⟨(worker.acts kind stage).continueWith (.act kind later next), reached, registry, false⟩
  | answered {kind : ActionKind} {stage : ActionStage ε κ kind} {answer : ActionAnswer ε kind}
      {next : ActionAnswer ε kind → Task ε κ} {reached : World τ} {source : Source}
      {replies : ℕ → DiskReply} (hphase : worker.phase = .running (.act kind stage next))
      (hperform : perform config source replies kind stage world = (.answered answer, reached)) :
      WorkerEffect
        ⟨(worker.acts kind stage).answered kind stage answer next, reached, registry, false⟩
  /-- A call of the image store does not come back. -/
  | stopped {kind : ActionKind} {stage : ActionStage ε κ kind}
      {next : ActionAnswer ε kind → Task ε κ} {reached : World τ} {source : Source}
      {replies : ℕ → DiskReply} (hphase : worker.phase = .running (.act kind stage next))
      (hperform : perform config source replies kind stage world = (.panicked, reached)) :
      WorkerEffect ⟨(worker.acts kind stage).unwind, reached, registry, false⟩
  | panicked {task : Task ε κ} (hphase : worker.phase = .running task) :
      WorkerEffect ⟨worker.unwind, world, registry, false⟩
  | finished {result : OperationTaskResult} (completedAt : String)
      (hphase : worker.phase = .returned result) :
      WorkerEffect (worker.finish world registry result completedAt)
  | exited (hended : worker.phase.ended = true) :
      WorkerEffect ⟨{ worker with exited := true }, world, registry, false⟩

theorem advance_effect {task : Task ε κ} (hphase : worker.phase = .running task)
    (h : worker.advance config locked world registry source replies task = some moved) :
    WorkerEffect config world registry worker moved := by
  cases task with
  | done result =>
      simp only [TaskWorker.advance] at h
      split at h
      · cases h
        exact .unguarded hphase
      · next hheld =>
          cases h
          exact .returned hphase hheld
  | check next =>
      cases h
      cases hflag : worker.cancelled with
      | true => exact .turnedAway hphase hflag
      | false => exact .passed hphase hflag
  | lock mutex next =>
      simp only [TaskWorker.advance] at h
      split at h <;> cases h
      exact .locked hphase
  | unlock mutex next =>
      cases h
      exact .unlocked hphase
  | act kind stage next =>
      rcases hperform : perform config source replies kind stage world with
        ⟨later | answer | _, reached⟩
      · simp only [TaskWorker.advance, hperform] at h
        cases h
        exact .continued hphase hperform
      · simp only [TaskWorker.advance, hperform] at h
        cases h
        exact .answered hphase hperform
      · simp only [TaskWorker.advance, hperform] at h
        cases h
        exact .stopped hphase hperform

theorem worker_effect {label : WorkerLabel}
    (h : worker.step config locked world registry label = some moved) :
    WorkerEffect config world registry worker moved := by
  cases label with
  | spawn =>
      obtain ⟨next, hnext, rfl⟩ := Option.map_eq_some_iff.mp h
      unfold TaskWorker.spawn at hnext
      split at hnext <;> cases hnext
      exact .spawned ‹_›
  | spawnFails =>
      obtain ⟨next, hnext, rfl⟩ := Option.map_eq_some_iff.mp h
      unfold TaskWorker.spawnFails at hnext
      split at hnext <;> cases hnext
      exact .spawnFailed ‹_›
  | start =>
      simp only [TaskWorker.step] at h
      split at h <;> cases h
      next hphase =>
        rcases hstart : registry.start worker.id with ⟨error | operation, reached⟩
        · simp only [TaskWorker.start, hstart]
          exact .refused hphase hstart
        · simp only [TaskWorker.start, hstart]
          exact .started hphase hstart
  | advance source replies =>
      simp only [TaskWorker.step] at h
      split at h
      · next hphase => exact advance_effect hphase h
      · cases h
  | panic =>
      obtain ⟨next, hnext, rfl⟩ := Option.map_eq_some_iff.mp h
      unfold TaskWorker.panic at hnext
      split at hnext <;> cases hnext
      exact .panicked ‹_›
  | finish completedAt =>
      simp only [TaskWorker.step] at h
      split at h <;> cases h
      next hphase => exact .finished completedAt hphase
  | exit =>
      obtain ⟨next, hnext, rfl⟩ := Option.map_eq_some_iff.mp h
      unfold TaskWorker.exit at hnext
      split at hnext
      · next error hphase =>
          cases hnext
          exact .exited (by rw [hphase]; rfl)
      · next result answer hphase =>
          cases hnext
          exact .exited (by rw [hphase]; rfl)
      · cases hnext

end Effects

/-! ### Steps of the daemon -/

theorem mem_of_mem_swapRemove {items : List ℕ} {item : ℕ} (h : item ∈ swapRemove items index) :
    item ∈ items := by
  unfold swapRemove at h
  split at h
  · next last hlast =>
      rcases List.mem_or_eq_of_mem_set (List.mem_of_mem_dropLast h) with hold | rfl
      · exact hold
      · exact List.mem_of_getLast? hlast
  · exact absurd h List.not_mem_nil

/-- Reaping keeps no handle that was not there. -/
theorem mem_of_mem_reapFinished {finished : ℕ → Bool} {fuel handle : ℕ} {handles : List ℕ}
    (h : handle ∈ reapFinished finished fuel index handles) : handle ∈ handles := by
  induction fuel generalizing index handles with
  | zero => exact h
  | succ fuel ih =>
      unfold reapFinished at h
      split at h
      · exact h
      · split at h
        · exact mem_of_mem_swapRemove (ih h)
        · exact ih h

section ServiceEffects

variable {config : TaskConfig τ ε κ} {service next : TaskService τ ε κ}

variable (config service) in
/-- What a label can do to the daemon. -/
inductive ServiceEffect : TaskLabel τ → TaskService τ ε κ → Prop
  /-- Nothing happens to workers, operations and mutation permits. -/
  | quiet {label : TaskLabel τ} {next : TaskService τ ε κ}
      (hworkers : next.workers = service.workers) (hregistry : next.registry = service.registry)
      (hadmitted : next.admitted = service.admitted)
      (hlimits : next.limiter.limits = service.limiter.limits)
      (hmutations : next.limiter.state.mutations = service.limiter.state.mutations)
      (hretained : ∀ index ∈ next.retained, index ∈ service.retained)
      (hlater : Later service.world.inventory next.world.inventory) :
      ServiceEffect label next
  | admitted {label : TaskLabel τ} (submission : Submission)
      (hroom : service.limiter.state.mutations < service.limiter.limits.mutations) :
      ServiceEffect label
        { service with
          limiter := { service.limiter with
            state := { service.limiter.state with
              mutations := service.limiter.state.mutations + 1 } }
          admitted := service.admitted ++ [submission] }
  | created {index : ℕ} {submission : Submission}
      (hsubmission : service.admitted[index]? = some submission) :
      ServiceEffect (.create index) (service.create index submission)
  | moved {index : ℕ} {label : WorkerLabel} {worker : TaskWorker ε κ}
      {moved : TaskWorker.Moved τ ε κ} (hworker : service.workers[index]? = some worker)
      (heffect : WorkerEffect config service.world service.registry worker moved) :
      ServiceEffect (.worker index label) (service.move index moved)
  | retained {index : ℕ} {worker : TaskWorker ε κ}
      (hworker : service.workers[index]? = some worker) (hhandle : worker.handle = .created) :
      ServiceEffect (.retain index)
        { service with
          workers := service.workers.set index { worker with handle := .retained }
          retained := service.retained ++ [index] }
  | cancelled {id : OperationId} {index : ℕ} {worker : TaskWorker ε κ}
      (hfind : service.find id = some index) (hworker : service.workers[index]? = some worker) :
      ServiceEffect (.cancel id)
        { service with workers := service.workers.set index worker.cancel }

theorem quiet_refl (label : TaskLabel τ) : ServiceEffect config service label service :=
  .quiet rfl rfl rfl rfl rfl (fun _ h => h) (.refl _)

/-- Permits of other kinds leave the mutation permits alone. -/
theorem acquire_other {reached : ServiceLimiter} {kind : LimitKind} (hother : kind ≠ .mutation)
    (h : limiter.acquire kind = .ok reached) :
    reached.limits = limiter.limits ∧ reached.state.mutations = limiter.state.mutations := by
  unfold ServiceLimiter.acquire at h
  dsimp only at h
  split at h <;> cases h
  cases kind with
  | connection | console => exact ⟨rfl, rfl⟩
  | mutation => exact absurd rfl hother

theorem release_other {kind : LimitKind} (hother : kind ≠ .mutation) :
    (limiter.release kind).state.mutations = limiter.state.mutations := by
  cases kind with
  | connection | console => rfl
  | mutation => exact absurd rfl hother

theorem accept_effect (label : TaskLabel τ) (submission : Submission) :
    ServiceEffect config service label (service.accept submission) := by
  unfold TaskService.accept
  split
  · next limiter hacquire =>
      unfold ServiceLimiter.acquire at hacquire
      dsimp only at hacquire
      split at hacquire <;> cases hacquire
      next hroom => exact .admitted submission (Nat.lt_of_not_le hroom)
  · exact quiet_refl label

theorem service_effect {label : TaskLabel τ} (h : service.step config label = some next) :
    ServiceEffect config service label next := by
  cases label with
  | submit mutation files peer auditId createdAt =>
      simp only [TaskService.step] at h
      split at h
      · cases h
        exact quiet_refl _
      · cases h
        exact accept_effect _ _
  | create index =>
      simp only [TaskService.step] at h
      split at h <;> cases h
      next submission hsubmission => exact .created hsubmission
  | worker index label =>
      simp only [TaskService.step] at h
      split at h
      · cases h
      · next worker hworker =>
          obtain ⟨moved, hmoved, rfl⟩ := Option.map_eq_some_iff.mp h
          exact .moved hworker (worker_effect hmoved)
  | retain index =>
      simp only [TaskService.step] at h
      split at h
      · cases h
      · next kept hkept =>
          cases h
          obtain ⟨worker, hworker, hretain⟩ := Option.bind_eq_some_iff.mp hkept
          unfold TaskWorker.retain at hretain
          split at hretain <;> cases hretain
          next hhandle => exact .retained hworker hhandle
  | reap =>
      cases h
      exact .quiet rfl rfl rfl rfl rfl (fun _ => mem_of_mem_reapFinished) (.refl _)
  | cancel id =>
      simp only [TaskService.step] at h
      split at h
      · cases h
        exact quiet_refl _
      · next index hfind =>
          cases h
          have hsome := List.find?_some hfind
          obtain ⟨worker, hworker, -⟩ := (Option.any_eq_true _ _).mp hsome
          have hset : service.workers.modify index TaskWorker.cancel =
              service.workers.set index worker.cancel := by
            rw [List.modify_eq_set_getElem?, hworker]
            rfl
          rw [hset]
          exact .cancelled hfind hworker
  | drain =>
      cases h
      exact .quiet rfl rfl rfl rfl rfl nofun (.refl _)
  | refresh =>
      cases h
      exact .quiet rfl rfl rfl rfl rfl (fun _ h => h)
        (refresh_later config.source service.world.inventory).1
  | refreshCatalog replies =>
      simp only [TaskService.step] at h
      split at h <;> cases h
      exact .quiet rfl rfl rfl rfl rfl (fun _ h => h) (.refl _)
  | elapse host =>
      cases h
      exact .quiet rfl rfl rfl rfl rfl (fun _ h => h) (.of_current_eq rfl)
  | acquire kind hother =>
      simp only [TaskService.step] at h
      split at h
      · next limiter hacquire =>
          cases h
          obtain ⟨hlimits, hmutations⟩ := acquire_other hother hacquire
          exact .quiet rfl rfl rfl hlimits hmutations (fun _ h => h) (.refl _)
      · cases h
        exact quiet_refl _
  | release kind hother =>
      cases h
      exact .quiet rfl rfl rfl rfl (release_other hother) (fun _ h => h) (.refl _)

end ServiceEffects

/-! ### Properties of single workers -/

/-- A property of workers that survives what others do, kept by each step of its own worker and
by each cancellation that meets the guard. -/
structure WorkerInvariant (config : TaskConfig τ ε κ)
    (guard : TaskService τ ε κ → TaskLabel τ → Prop)
    (inv : InventoryService τ → TaskWorker ε κ → Prop) : Prop where
  fresh : ∀ inventory id request, inv inventory (.fresh id request)
  later : ∀ inventory next worker, Later inventory next → inv inventory worker → inv next worker
  step : ∀ world registry worker moved, inv world.inventory worker →
    WorkerEffect config world registry worker moved → inv moved.world.inventory moved.worker
  retain : ∀ inventory worker, worker.handle = .created → inv inventory worker →
    inv inventory { worker with handle := .retained }
  cancel : ∀ service id index worker, guard service (.cancel id) → service.find id = some index →
    service.workers[index]? = some worker → worker.handle = .retained →
    inv service.world.inventory worker → inv service.world.inventory worker.cancel

variable {config : TaskConfig τ ε κ} {world : World τ} {worker : TaskWorker ε κ}
  {moved : TaskWorker.Moved τ ε κ}

/-- What a worker does leaves a later inventory. -/
theorem WorkerEffect.later (h : WorkerEffect config world registry worker moved) :
    Later world.inventory moved.world.inventory := by
  cases h with
  | continued hphase hperform | answered hphase hperform | stopped hphase hperform =>
      exact perform_later hperform
  | spawned | spawnFailed | started | refused | unguarded | returned | passed | turnedAway
  | locked | unlocked | panicked | finished | exited => exact .refl _

theorem ServiceEffect.later {service next : TaskService τ ε κ} {label : TaskLabel τ}
    (h : ServiceEffect config service label next) :
    Later service.world.inventory next.world.inventory := by
  cases h with
  | quiet _ _ _ _ _ _ hlater => exact hlater
  | moved hworker heffect => exact heffect.later
  | admitted | created | retained | cancelled => exact .refl _

/-- A worker stays the worker of its operation. -/
theorem WorkerEffect.keeps (h : WorkerEffect config world registry worker moved) :
    moved.worker.id = worker.id ∧ moved.worker.request = worker.request := by
  cases h <;> exact ⟨rfl, rfl⟩

/-- No worker goes back to its beginning, and only the first step makes a handle. -/
theorem WorkerEffect.handle (h : WorkerEffect config world registry worker moved) :
    moved.worker.phase ≠ .accepted ∧
      (worker.phase ≠ .accepted → moved.worker.handle = worker.handle) := by
  cases h with
  | spawned hphase => exact ⟨nofun, fun hne => absurd hphase hne⟩
  | unguarded hphase => exact ⟨by simp [hphase], fun _ => rfl⟩
  | exited hended =>
      refine ⟨fun hphase => ?_, fun _ => rfl⟩
      rw [show worker.phase = .accepted from hphase] at hended
      cases hended
  | spawnFailed | started | refused | returned | passed | turnedAway | locked | unlocked
  | continued | answered | stopped | panicked | finished => exact ⟨nofun, fun _ => rfl⟩

section Rule

variable {guard : TaskService τ ε κ → TaskLabel τ → Prop}
  {inv : InventoryService τ → TaskWorker ε κ → Prop} {service next : TaskService τ ε κ}

/-- All workers have the property, and the scheduler keeps handles of threads that exist. -/
structure WorkersKeep (inv : InventoryService τ → TaskWorker ε κ → Prop)
    (service : TaskService τ ε κ) : Prop where
  workers : ∀ worker ∈ service.workers, inv service.world.inventory worker
  accepted : ∀ worker ∈ service.workers, worker.phase = .accepted → worker.handle = .missing
  retained : ∀ index ∈ service.retained, ∃ worker, service.workers[index]? = some worker ∧
    worker.handle = .retained

/-- One worker changes and its handle stays where it is or is retained. -/
theorem WorkersKeep.set {changed : TaskWorker ε κ} {inventory : InventoryService τ}
    (h : WorkersKeep inv service) (hworker : service.workers[index]? = some worker)
    (hothers : ∀ other ∈ service.workers, inv inventory other) (hchanged : inv inventory changed)
    (haccepted : changed.phase = .accepted → changed.handle = .missing)
    (hhandle : worker.handle = .retained → changed.handle = .retained)
    (hinventory : next.world.inventory = inventory)
    (hworkers : next.workers = service.workers.set index changed)
    (hretained : ∀ place ∈ next.retained, place ∈ service.retained ∨
      place = index ∧ changed.handle = .retained) : WorkersKeep inv next := by
  have hindex := (List.getElem?_eq_some_iff.mp hworker).1
  refine ⟨fun other hother => ?_, fun other hother => ?_, fun place hplace => ?_⟩
  · rw [hinventory]
    rw [hworkers] at hother
    rcases List.mem_or_eq_of_mem_set hother with hold | rfl
    · exact hothers other hold
    · exact hchanged
  · rw [hworkers] at hother
    rcases List.mem_or_eq_of_mem_set hother with hold | rfl
    · exact h.accepted other hold
    · exact haccepted
  · rw [hworkers]
    by_cases hsame : place = index
    · subst hsame
      refine ⟨changed, List.getElem?_set_self hindex, ?_⟩
      rcases hretained place hplace with hold | ⟨-, hnew⟩
      · obtain ⟨old, hold, hkept⟩ := h.retained place hold
        obtain rfl := Option.some.inj (hworker.symm.trans hold)
        exact hhandle hkept
      · exact hnew
    · rcases hretained place hplace with hold | ⟨heq, -⟩
      · obtain ⟨old, hold, hkept⟩ := h.retained place hold
        exact ⟨old, (List.getElem?_set_ne (Ne.symm hsame)).trans hold, hkept⟩
      · exact absurd heq hsame

/-- One step of the daemon. -/
theorem WorkersKeep.step (hinv : WorkerInvariant config guard inv) (h : WorkersKeep inv service)
    {label : TaskLabel τ} (hguard : guard service label)
    (heffect : ServiceEffect config service label next) : WorkersKeep inv next := by
  have hothers : ∀ other ∈ service.workers, inv next.world.inventory other :=
    fun other hother => hinv.later _ _ other heffect.later (h.workers other hother)
  cases heffect with
  | quiet hworkers _ _ _ _ hretained _ =>
      refine ⟨fun worker hworker => ?_, fun worker hworker => ?_, fun index hindex => ?_⟩
      · exact hothers worker (hworkers ▸ hworker)
      · exact h.accepted worker (hworkers ▸ hworker)
      · rw [hworkers]
        exact h.retained index (hretained index hindex)
  | admitted submission hroom => exact ⟨h.workers, h.accepted, h.retained⟩
  | created hsubmission =>
      refine ⟨fun worker hworker => ?_, fun worker hworker hphase => ?_, fun index hindex => ?_⟩
      · rcases List.mem_append.mp hworker with hold | hnew
        · exact h.workers worker hold
        · obtain rfl := List.mem_singleton.mp hnew
          exact hinv.fresh _ _ _
      · rcases List.mem_append.mp hworker with hold | hnew
        · exact h.accepted worker hold hphase
        · obtain rfl := List.mem_singleton.mp hnew
          rfl
      · obtain ⟨worker, hworker, hkept⟩ := h.retained index hindex
        exact ⟨worker, List.getElem?_append_left (List.getElem?_eq_some_iff.mp hworker).1 ▸ hworker,
          hkept⟩
  | moved hworker hmoves =>
      have hmem := List.mem_of_getElem? hworker
      refine h.set hworker hothers (hinv.step _ _ _ _ (h.workers _ hmem) hmoves) ?_ ?_ rfl rfl
        fun place hplace => .inl hplace
      · intro hphase
        exact absurd hphase hmoves.handle.1
      · intro hkept
        rw [← hkept]
        refine hmoves.handle.2 fun hphase => ?_
        rw [h.accepted _ hmem hphase] at hkept
        cases hkept
  | retained hworker hhandle =>
      have hmem := List.mem_of_getElem? hworker
      refine h.set hworker hothers (hinv.retain _ _ hhandle (h.workers _ hmem)) ?_ (fun _ => rfl)
        rfl rfl ?_
      · intro hphase
        rw [h.accepted _ hmem hphase] at hhandle
        cases hhandle
      · intro place hplace
        rcases List.mem_append.mp hplace with hold | hnew
        · exact .inl hold
        · exact .inr ⟨List.mem_singleton.mp hnew, rfl⟩
  | cancelled hfind hworker =>
      have hmem := List.mem_of_getElem? hworker
      obtain ⟨worker, hsame, hkept⟩ := h.retained _ (List.mem_of_find?_eq_some hfind)
      obtain rfl := Option.some.inj (hworker.symm.trans hsame)
      have hchanged := hinv.cancel service _ _ _ hguard hfind hworker hkept (h.workers _ hmem)
      have haccepted := h.accepted _ hmem
      exact h.set hworker hothers hchanged haccepted id rfl rfl fun place hplace => .inl hplace

/-- A property of single workers holds of all workers in every guarded run. -/
theorem WorkerInvariant.of_run (hinv : WorkerInvariant config guard inv)
    {labels : List (TaskLabel τ)} {reached : TaskService τ ε κ}
    (hguarded : Guarded (TaskService.step config) guard (.new world registry limiter) labels)
    (hrun : run (TaskService.step config) (.new world registry limiter) labels = some reached) :
    ∀ worker ∈ reached.workers, inv reached.world.inventory worker := by
  have hstart : WorkersKeep inv (.new world registry limiter) :=
    ⟨List.forall_mem_nil _, List.forall_mem_nil _,
      List.forall_mem_nil _⟩
  have hstep : ∀ service label next, WorkersKeep inv service → guard service label →
      service.step config label = some next → WorkersKeep inv next :=
    fun _ _ _ hkeep hguard hstep => hkeep.step hinv hguard (service_effect hstep)
  have hreached : WorkersKeep inv reached := run_invariant hstep hstart hguarded hrun
  exact hreached.workers

end Rule

/-! ### What a task reports -/

/-- The request is to import something. -/
def TaskRequest.importsImage : TaskRequest → Bool
  | .imageImport .. | .osImageImport .. => true
  | .lifecycle .. | .resourcePool _ | .managedLoad _ => false

/-- The result of a task that has come to its end. -/
def TaskPhase.result : TaskPhase ε κ → Option OperationTaskResult
  | .returned result | .settled result _ => some result
  | _ => none

/-- A property of what is left of a task and one of its result, once there is one; `idle` is said
of workers whose task does not run. -/
def TaskPhase.Holds (idle : Prop) (task : Task ε κ → Prop) (result : OperationTaskResult → Prop) :
    TaskPhase ε κ → Prop
  | .accepted | .spawned | .skipped _ => idle
  | .running rest => task rest
  | .returned value => result value
  | .settled value _ => result value

/-- More may be known of what is left of a task. -/
theorem TaskPhase.Holds.mono {idle : Prop} {task task' : Task ε κ → Prop}
    {result : OperationTaskResult → Prop} {phase : TaskPhase ε κ}
    (h : phase.Holds idle task result) (htask : ∀ rest, task rest → task' rest) :
    phase.Holds idle task' result := by
  cases phase with
  | running rest => exact htask rest h
  | accepted | spawned | returned value | skipped error | settled value answer => exact h

/-- What is left of a task yields results with a property, and so did what is over. -/
def TaskPhase.Yields (inventory : InventoryService τ) (expected : (kind : ActionKind) →
    ActionAnswer ε kind → Prop) (post : OperationTaskResult → Prop) (phase : TaskPhase ε κ) : Prop :=
  phase.Holds True (fun task => task.Yields (StageReady inventory) expected post) post

/-- A step of the task that a worker runs, which leaves the inventory `next`. -/
abbrev TaskStep (next : InventoryService τ) (worker : TaskWorker ε κ) (task rest : Task ε κ) : Prop :=
  Program.Step (Goes next) (Answers next) worker.cancelled (.cancelled none) task rest

/-- **One step of a worker**: what has to be shown for properties of its task and its result. -/
theorem WorkerEffect.holds {idle idle' : Prop} {task task' : Task ε κ → Prop}
    {result result' : OperationTaskResult → Prop}
    (h : WorkerEffect config world registry worker moved)
    (hholds : worker.phase.Holds idle task result)
    (hready : ∀ kind stage rest, task (.act kind stage rest) →
      StageReady world.inventory kind stage)
    (hquiet : (∀ rest, worker.phase ≠ .running rest) → (idle → idle') ∧
      (idle → task' worker.request.task) ∧
      (worker.phase = .accepted → moved.worker.handle = worker.handle → idle →
        result' workerSpawnResult) ∧
      ∀ value, worker.phase.result = some value → result value → result' value)
    (hpanic : ∀ rest, worker.phase = .running rest → task rest →
      moved.worker.trace.panicked = true → task' (.done workerPanicResult))
    (hdone : ∀ value, worker.phase = .running (.done value) → task (.done value) →
      task' (.done value) ∧ result' value)
    (hstep : ∀ rest rest', worker.phase = .running rest → task rest →
      TaskStep moved.world.inventory worker rest rest' →
      (∀ mutex, rest = .lock mutex rest' → moved.worker = worker.acquire mutex rest') →
      task' rest') :
    moved.worker.phase.Holds idle' task' result' := by
  cases h with
  | spawned hphase | refused hphase hrefused =>
      rw [hphase] at hholds hquiet
      exact (hquiet nofun).1 hholds
  | spawnFailed hphase =>
      rw [hphase] at hholds hquiet
      exact (hquiet nofun).2.2.1 rfl rfl hholds
  | started hphase hstarted =>
      rw [hphase] at hholds hquiet
      exact (hquiet nofun).2.1 hholds
  | unguarded hphase =>
      rw [hphase] at hholds
      show worker.phase.Holds idle' task' result'
      rw [hphase]
      exact (hdone _ hphase hholds).1
  | returned hphase hheld =>
      rw [hphase] at hholds
      exact (hdone _ hphase hholds).2
  | passed hphase hflag =>
      rw [hphase] at hholds
      exact hstep _ _ hphase hholds (.passed _ hflag) nofun
  | turnedAway hphase hflag =>
      rw [hphase] at hholds
      exact hstep _ _ hphase hholds (.turnedAway _ hflag) nofun
  | locked hphase =>
      rw [hphase] at hholds
      refine hstep _ _ hphase hholds (.locked _ _) fun mutex heq => ?_
      rw [(Program.lock.inj heq).1]
  | unlocked hphase =>
      rw [hphase] at hholds
      exact hstep _ _ hphase hholds (.unlocked _ _) nofun
  | continued hphase hperform =>
      rw [hphase] at hholds
      have hgoes : Goes _ _ _ _ := perform_spec hperform (hready _ _ _ hholds)
      exact hstep _ _ hphase hholds (.continued _ _ _ _ hgoes) nofun
  | answered hphase hperform =>
      rw [hphase] at hholds
      have hanswers : Answers _ _ _ _ := perform_spec hperform (hready _ _ _ hholds)
      exact hstep _ _ hphase hholds (.answered _ _ _ _ hanswers) nofun
  | stopped hphase hperform | panicked hphase =>
      rw [hphase] at hholds
      exact hpanic _ hphase hholds rfl
  | finished completedAt hphase =>
      rw [hphase] at hholds hquiet
      exact (hquiet nofun).2.2.2 _ rfl hholds
  | exited hended =>
      show worker.phase.Holds idle' task' result'
      cases hphase : worker.phase with
      | skipped error =>
          rw [hphase] at hholds hquiet
          exact (hquiet nofun).1 hholds
      | settled value answer =>
          rw [hphase] at hholds hquiet
          exact (hquiet nofun).2.2.2 value rfl hholds
      | accepted | spawned | running rest | returned value =>
          rw [hphase] at hended
          cases hended

/-- Every way in which the task of a request can end has a property, if its actions answer as
expected. -/
structure Reports (expected : (kind : ActionKind) → ActionAnswer ε kind → Prop)
    (post : OperationTaskResult → Prop) (request : TaskRequest) : Prop where
  cancelled : post (.cancelled none)
  panicked : post workerPanicResult
  unspawned : post workerSpawnResult
  lifecycle : ∀ answer, expected .lifecycle answer → post (lifecycleTaskResult answer)
  resourcePool : ∀ answer, expected .resourcePool answer → post (resourcePoolTaskResult answer)
  imports : request.importsImage = true → ∀ answer, post (importTaskResult answer)
  unresolved : ∀ error, expected .resolve (.error error) → post (catalogFailure error)

section Reports

variable {expected : (kind : ActionKind) → ActionAnswer ε kind → Prop}
  {post : OperationTaskResult → Prop} {request : TaskRequest} {inventory : InventoryService τ}

theorem Reports.yields_runLifecycle (h : Reports expected post request)
    (lifecycle : LifecycleRequest) :
    (runLifecycle lifecycle : Task ε κ).Yields (StageReady inventory) expected post :=
  ⟨trivial, fun answer hanswer => h.lifecycle answer hanswer⟩

theorem Reports.yields_task (h : Reports expected post request) :
    (request.task : Task ε κ).Yields (StageReady inventory) expected post := by
  cases request with
  | lifecycle request kind expectedGeneration instanceId => exact h.yields_runLifecycle request
  | resourcePool mutation => exact ⟨trivial, fun answer hanswer => h.resourcePool answer hanswer⟩
  | imageImport kind boot expectedGeneration expectedId
  | osImageImport expectedGeneration label architecture expectedId =>
      exact ⟨trivial, fun answer _ => h.imports rfl answer⟩
  | managedLoad request =>
      refine ⟨trivial, fun answer hanswer => ?_⟩
      cases answer with
      | error error => exact h.unresolved error hanswer
      | ok paths => exact h.yields_runLifecycle _

theorem TaskPhase.Yields.later {phase : TaskPhase ε κ} {next : InventoryService τ}
    (h : phase.Yields inventory expected post) (hlater : Later inventory next) :
    phase.Yields next expected post :=
  h.mono fun _ htask => Program.Yields.mono htask (StageReady.later hlater)

/-- One step of a worker, with answers that are expected in the inventory it leaves. -/
theorem WorkerEffect.yields (h : WorkerEffect config world registry worker moved)
    (hreports : Reports expected post worker.request)
    (hexpected : ∀ kind answer, Judged (hostGeneration moved.world.inventory) kind answer →
      expected kind answer) (hyields : worker.phase.Yields world.inventory expected post) :
    moved.worker.phase.Yields moved.world.inventory expected post := by
  refine h.holds hyields (fun _ _ _ hact => hact.1)
    (fun _ => ⟨id, fun _ => hreports.yields_task, fun _ _ _ => hreports.unspawned,
      fun _ _ hvalue => hvalue⟩)
    (fun _ _ _ _ => hreports.panicked) (fun _ _ hdone => ⟨hdone, hdone⟩) ?_
  intro rest rest' _ hrest hstep _
  exact hrest.step hreports.cancelled hstep (fun _ _ _ _ hgoes => hgoes.ready)
    (fun _ _ _ _ hanswers => hexpected _ _ hanswers.judged) (StageReady.later h.later)

/-- An answer that can be relied on, whatever the generation. -/
def Reliable (kind : ActionKind) (answer : ActionAnswer ε kind) : Prop :=
  ∃ bound, Judged bound kind answer

/-- Results that have a property whatever the inventory shows. -/
theorem Reports.of_run {post : TaskRequest → OperationTaskResult → Prop}
    (h : ∀ request, Reports (fun kind (answer : ActionAnswer ε kind) => Reliable kind answer)
      (post request) request) {labels : List (TaskLabel τ)} {reached : TaskService τ ε κ}
    (hrun : run (TaskService.step config) (.new world registry limiter) labels = some reached) :
    ∀ worker ∈ reached.workers,
      worker.phase.Yields reached.world.inventory Reliable (post worker.request) := by
  let inv (inventory : InventoryService τ) (worker : TaskWorker ε κ) : Prop :=
    worker.phase.Yields inventory Reliable (post worker.request)
  have hinv : WorkerInvariant config (fun _ _ => True) inv := by
    refine ⟨fun _ _ _ => trivial, fun _ _ _ hlater hyields => hyields.later hlater,
      fun world registry worker moved hyields heffect => ?_, fun _ _ _ hyields => hyields,
      fun _ _ _ _ _ _ _ _ hyields => hyields⟩
    have hyields' := heffect.yields (h worker.request) (fun kind answer hjudged => ⟨_, hjudged⟩)
      hyields
    rw [← heffect.keeps.2] at hyields'
    exact hyields'
  exact hinv.of_run (guarded_true _ _) hrun

end Reports

end Kernmux.Daemon
