import Kernmux.Daemon.HostApi
import Kernmux.Daemon.ImageCatalog
import Kernmux.Daemon.Router
import Kernmux.Daemon.Workers
import Kernmux.Library.Cancellable

/-!
# Kernmux.Daemon.Tasks

The five mutations of the host API as cancellable programs, and the daemon that
runs them. A mutation is checked, takes a permit, creates its operation and is
given to a worker thread. The thread starts the operation, goes through its
task, which waits for mutexes, refreshes the host, runs Kerf or imports images,
and finishes the operation with the result.

Every thread may be overtaken between any two of its steps (`TaskService.step`).
Tasks may panic at every point, and so may calls of the image store in the
middle of their work. What a worker has done is written down in its `Trace`.
-/

namespace Kernmux.Daemon

open Api.V1 Library Inventory Lifecycle Scheduler

/-! ### Requests -/

/-- A mutation whose request has been checked. -/
inductive TaskRequest
  | lifecycle (request : LifecycleRequest) (kind : OperationKind)
      (expectedGeneration : Generation) (instanceId : InstanceId)
  | resourcePool (mutation : ResourcePoolMutation)
  | imageImport (kind : ArtifactKind) (boot : kind ≠ .osImage) (expectedGeneration : Generation)
      (expectedId : Option ArtifactId)
  | osImageImport (expectedGeneration : Generation) (label : String)
      (architecture : Option String) (expectedId : Option ArtifactId)
  | managedLoad (request : ManagedLoadRequest)

namespace HostApi

/-- The kinds of boot artifacts. -/
def artifactKind : ImageKind → Except ApiError { kind : ArtifactKind // kind ≠ .osImage }
  | .kernel => .ok ⟨.kernel, nofun⟩
  | .initrd => .ok ⟨.initrd, nofun⟩
  | .unknown => .error (invalid "image kind is not supported")

/-- The identity that an import has to have. -/
def parseExpectedId (expectedId : Option String) : Except ApiError (Option ArtifactId) :=
  mapErr imageStoreApiError (expectedId.mapM ArtifactId.parse)

/-- What the handlers check before they ask for a permit. -/
def prepare (policy : ImagePolicy) (files : FileView) : Mutation → Except ApiError TaskRequest
  | .lifecycle request kind expectedGeneration instanceId =>
      .ok (.lifecycle request kind expectedGeneration instanceId)
  | .resourcePool mutation => .ok (.resourcePool mutation)
  | .imageImport mutation => do
      let kind ← artifactKind mutation.kind
      let _ ← policy.resolve files mutation.sourcePath
      let expectedId ← parseExpectedId mutation.expectedId
      return .imageImport kind.1 kind.2 mutation.expectedGeneration expectedId
  | .osImageImport mutation => do
      let _ ← policy.resolve files mutation.sourcePath
      let expectedId ← parseExpectedId mutation.expectedId
      return .osImageImport mutation.expectedGeneration mutation.label mutation.architecture
        expectedId
  | .managedLoad request => .ok (.managedLoad request)

def newOperation (kind : OperationKind) (expectedGeneration : Generation)
    (resource : ResourceReference) (peer : PeerIdentity) (auditId : Option String)
    (createdAt : String) : NewOperation where
  kind := kind
  expectedGeneration := expectedGeneration
  affectedResources := [resource]
  actor := some peer.actor
  auditId := auditId
  createdAt := createdAt

def imageCatalogTaskError : ImageCatalogError → ApiError × Option Generation
  | .staleGeneration _ actual =>
      ({ error .preconditionFailed "image catalog generation has changed" false with
          currentGeneration := some actual }, some actual)
  | .generationExhausted =>
      (error .backendUnavailable "image catalog generation is unavailable" false, none)
  | .store error => (imageStoreApiError error, none)

end HostApi

namespace TaskRequest

def expectedGeneration : TaskRequest → Generation
  | .lifecycle _ _ expectedGeneration _ => expectedGeneration
  | .resourcePool mutation => mutation.expectedGeneration
  | .imageImport _ _ expectedGeneration _ => expectedGeneration
  | .osImageImport expectedGeneration _ _ _ => expectedGeneration
  | .managedLoad request => request.expectedGeneration

def kind : TaskRequest → OperationKind
  | .lifecycle _ kind _ _ => kind
  | .resourcePool mutation =>
      if mutation.cpuHardwareIds = [] ∧ mutation.memoryBytes = 0 then .releaseResourcePool
      else .initializeResourcePool
  | .imageImport .. => .importImage
  | .osImageImport .. => .importOsImage
  | .managedLoad _ => .loadInstance

def resource : TaskRequest → ResourceReference
  | .lifecycle _ _ _ instanceId => ⟨.instance, toString instanceId.val⟩
  | .resourcePool _ => ⟨.resourcePool, "host"⟩
  | .imageImport _ _ _ expectedId => ⟨.image, (expectedId.map ArtifactId.value).getD "catalog"⟩
  | .osImageImport _ _ _ expectedId => ⟨.osImage, (expectedId.map ArtifactId.value).getD "catalog"⟩
  | .managedLoad request => ⟨.instance, toString request.instanceId.val⟩

/-- The operation that a submission of the request creates. -/
def operation (request : TaskRequest) (peer : PeerIdentity) (auditId : Option String)
    (createdAt : String) : NewOperation :=
  HostApi.newOperation request.kind request.expectedGeneration request.resource peer auditId
    createdAt

end TaskRequest

/-! ### Tasks -/

/-- The mutexes that tasks wait for. -/
inductive TaskMutex
  | lifecycle
  | resourcePool
  | catalog
  deriving DecidableEq, Repr

/-- What a task may do between its checks. -/
inductive ActionKind
  | lifecycle
  | resourcePool
  | importImage
  | resolve
  deriving DecidableEq, Repr

/-- How far an action has come; executions go through several stages. -/
abbrev ActionStage (ε κ : Type) : ActionKind → Type
  | .lifecycle => LifecycleJob ε κ
  | .resourcePool => ResourcePoolJob ε κ
  | .importImage => Generation × (Source → ImportCall)
  | .resolve => ArtifactId × Option ArtifactId

/-- What comes of an action. -/
abbrev ActionAnswer (ε : Type) : ActionKind → Type
  | .lifecycle => Except (LifecycleExecutionError ε) LifecycleOutcome
  | .resourcePool => Except (ResourcePoolExecutionError ε) ResourcePoolOutcome
  | .importImage => Except ImageCatalogError (ArtifactRecord × ImageCatalogSnapshot)
  | .resolve => Except ImageCatalogError (PathBuf × Option PathBuf)

/-- The closure that a worker runs. -/
abbrev Task (ε κ : Type) := Program TaskMutex (ActionStage ε κ) (ActionAnswer ε) OperationTaskResult

section Tasks

variable {ε κ : Type}

/-- A catalog error as the result of a task. -/
def catalogFailure (error : ImageCatalogError) : OperationTaskResult :=
  .failed (HostApi.imageCatalogTaskError error).1 (HostApi.imageCatalogTaskError error).2

def importTaskResult :
    Except ImageCatalogError (ArtifactRecord × ImageCatalogSnapshot) → OperationTaskResult
  | .ok (_, snapshot) => .succeeded snapshot.generation
  | .error error => catalogFailure error

def runLifecycle (request : LifecycleRequest) : Task ε κ :=
  .check <| .lock .lifecycle <| .check <|
    .act .lifecycle ⟨request, .begun⟩ fun result => .done (lifecycleTaskResult result)

def resourcePoolTask (mutation : ResourcePoolMutation) : Task ε κ :=
  .check <| .lock .resourcePool <| .check <|
    .act .resourcePool
      ⟨⟨mutation.expectedGeneration, mutation.cpuHardwareIds, mutation.memoryBytes⟩, .begun⟩
      fun result => .done (resourcePoolTaskResult result)

def imageImportTask (kind : ArtifactKind) (boot : kind ≠ .osImage)
    (expectedGeneration : Generation) (expectedId : Option ArtifactId) : Task ε κ :=
  .check <| .lock .catalog <| .check <|
    .act .importImage (expectedGeneration, fun source => .path kind boot source expectedId)
      fun result => .done (importTaskResult result)

/-- Unlike the other imports, this one does not look at its token again once it has the
catalog. -/
def osImageImportTask (expectedGeneration : Generation) (label : String)
    (architecture : Option String) (expectedId : Option ArtifactId) : Task ε κ :=
  .check <| .lock .catalog <|
    .act .importImage
      (expectedGeneration, fun source => .osImage source label architecture expectedId)
      fun result => .done (importTaskResult result)

def managedLoadTask (request : ManagedLoadRequest) : Task ε κ :=
  .check <| .lock .catalog <|
    .act .resolve (request.kernelId, request.initrdId) fun resolved =>
      .unlock .catalog <|
        match resolved with
        | .error error => .done (catalogFailure error)
        | .ok (kernel, initrd) =>
            runLifecycle (.load ⟨⟨request.expectedGeneration, request.instanceId⟩, kernel, initrd,
                request.commandLine⟩)

def TaskRequest.task : TaskRequest → Task ε κ
  | .lifecycle request _ _ _ => runLifecycle request
  | .resourcePool mutation => resourcePoolTask mutation
  | .imageImport kind boot expectedGeneration expectedId =>
      imageImportTask kind boot expectedGeneration expectedId
  | .osImageImport expectedGeneration label architecture expectedId =>
      osImageImportTask expectedGeneration label architecture expectedId
  | .managedLoad request => managedLoadTask request

/-- The mutex that serialises the mutation. -/
def TaskRequest.serialMutex : TaskRequest → TaskMutex
  | .lifecycle .. | .managedLoad _ => .lifecycle
  | .resourcePool _ => .resourcePool
  | .imageImport .. | .osImageImport .. => .catalog

end Tasks

/-! ### Workers -/

/-- How far the worker of an accepted operation has come. -/
inductive TaskPhase (ε κ : Type)
  /-- The operation exists, its thread does not. -/
  | accepted
  /-- The thread exists and has not called the registry yet. -/
  | spawned
  /-- The operation was started; this is left of its task, which holds the permit. -/
  | running (task : Task ε κ)
  /-- The task is gone with its permit, its result is not recorded yet. -/
  | returned (result : OperationTaskResult)
  /-- The registry refused to start the operation; the task never ran. -/
  | skipped (error : OperationRegistryError)
  /-- The worker has ended; this is what the registry said to its result. -/
  | settled (result : OperationTaskResult) (answer : Except OperationRegistryError Operation)

/-- What a worker has done. -/
structure Trace where
  /-- It has acquired the mutex that serialises its mutation. -/
  serialised : Bool
  /-- A cancellation was accepted before that. -/
  cancelledEarly : Bool
  /-- It has invoked Kerf. -/
  kerf : Bool
  /-- The refresh after its Kerf run has answered. -/
  reconciled : Bool
  /-- It has called the image store to import something. -/
  imported : Bool
  panicked : Bool
  /-- How many permits it has given back. -/
  released : ℕ
  deriving DecidableEq, Repr

/-- Where the handle of a worker's thread is. -/
inductive ThreadHandle
  | missing
  /-- The thread exists, the scheduler does not know it yet. -/
  | created
  | retained
  deriving DecidableEq, Repr

/-- The worker of one accepted operation. -/
structure TaskWorker (ε κ : Type) where
  id : OperationId
  request : TaskRequest
  handle : ThreadHandle
  /-- Its cancellation token. -/
  cancelled : Bool
  phase : TaskPhase ε κ
  /-- The mutex whose guard it has. -/
  held : Option TaskMutex
  /-- Its thread has come to an end. -/
  exited : Bool
  trace : Trace

namespace TaskWorker

variable {ε κ : Type}

/-- The worker of an operation that has just been created. -/
def fresh (id : OperationId) (request : TaskRequest) : TaskWorker ε κ where
  id := id
  request := request
  handle := .missing
  cancelled := false
  phase := .accepted
  held := none
  exited := false
  trace := ⟨false, false, false, false, false, false, 0⟩

def continueWith (worker : TaskWorker ε κ) (task : Task ε κ) : TaskWorker ε κ :=
  { worker with phase := .running task }

/-- The permit of the worker is dropped. -/
def release (worker : TaskWorker ε κ) (phase : TaskPhase ε κ) : TaskWorker ε κ :=
  { worker with
    phase := phase
    trace := { worker.trace with released := worker.trace.released + 1 } }

def spawn (worker : TaskWorker ε κ) : Option (TaskWorker ε κ) :=
  match worker.phase with
  | .accepted => some { worker with phase := .spawned, handle := .created }
  | _ => none

/-- The closure is dropped with the thread that could not be created. -/
def spawnFails (worker : TaskWorker ε κ) : Option (TaskWorker ε κ) :=
  match worker.phase with
  | .accepted => some (worker.release (.returned workerSpawnResult))
  | _ => none

/-- The task is over, except that its guard and its permit are still to be dropped. -/
def unwind (worker : TaskWorker ε κ) : TaskWorker ε κ :=
  { worker.continueWith (.done workerPanicResult) with
    trace := { worker.trace with panicked := true } }

def panic (worker : TaskWorker ε κ) : Option (TaskWorker ε κ) :=
  match worker.phase with
  | .running _ => some worker.unwind
  | _ => none

def exit (worker : TaskWorker ε κ) : Option (TaskWorker ε κ) :=
  match worker.phase with
  | .skipped _ | .settled _ _ => some { worker with exited := true }
  | _ => none

/-- The scheduler keeps the handle. -/
def retain (worker : TaskWorker ε κ) : Option (TaskWorker ε κ) :=
  match worker.handle with
  | .created => some { worker with handle := .retained }
  | _ => none

/-- The token of the worker is set. -/
def cancel (worker : TaskWorker ε κ) : TaskWorker ε κ :=
  { worker with
    cancelled := true
    trace := { worker.trace with
      cancelledEarly := worker.trace.cancelledEarly || !worker.trace.serialised } }

/-- The guard of a mutex is returned to the worker. -/
def acquire (worker : TaskWorker ε κ) (mutex : TaskMutex) (next : Task ε κ) : TaskWorker ε κ :=
  { worker.continueWith next with
    held := some mutex
    trace := { worker.trace with
      serialised := worker.trace.serialised || decide (mutex = worker.request.serialMutex) } }

end TaskWorker

/-! ### Actions -/

/-- What the daemon is built from. -/
structure TaskConfig (τ ε κ : Type) where
  source : InventorySource τ ε
  runner : KerfRunner τ κ
  store : ImageStore
  imagePolicy : ImagePolicy

/-- What the executors look at and act on. -/
def TaskConfig.backend {τ ε κ : Type} (config : TaskConfig τ ε κ) :
    Backend (InventoryService τ) ε HostSnapshot KerfInvocation (Except κ KerfRunResult) :=
  executorBackend config.runner.onSource (inventoryRefresher config.source)

/-- What tasks work on. -/
structure World (τ : Type) where
  inventory : InventoryService τ
  catalog : ImageCatalog
  disk : Disk StoreDirectory

/-- What becomes of an action in one step. -/
inductive Performed (σ α : Type)
  | continued (stage : σ)
  | answered (answer : α)
  | panicked

section Perform

variable {τ ε κ : Type} (config : TaskConfig τ ε κ)

/-- What the next step of an execution comes to. -/
def performJob {ρ δ ο : Type} (job : Job ρ δ κ ο) (world : World τ)
    (reached : Progress δ HostSnapshot KerfInvocation (Except κ KerfRunResult) ο ×
      InventoryService τ) : Performed (Job ρ δ κ ο) (Except δ ο) × World τ :=
  (match reached.1 with
    | .ended result => .answered result
    | progress => .continued { job with progress := progress },
    { world with inventory := reached.2 })

def performLifecycle (job : LifecycleJob ε κ) (world : World τ) :
    Performed (LifecycleJob ε κ) (Except (LifecycleExecutionError ε) LifecycleOutcome) × World τ :=
  performJob job world <|
    resume config.backend .inventory (LifecycleExecutor.preflight job.request)
      LifecycleExecutor.conclude (job.progress, world.inventory)

def performResourcePool (job : ResourcePoolJob ε κ) (world : World τ) :
    Performed (ResourcePoolJob ε κ) (Except (ResourcePoolExecutionError ε) ResourcePoolOutcome) ×
      World τ :=
  performJob job world <|
    resume config.backend .inventory (ResourcePoolExecutor.preflight job.request)
      (ResourcePoolExecutor.conclude job.request) (job.progress, world.inventory)

/-- A call of the catalog, which is not interrupted since its mutex is held. A call that does
not come back panics. -/
def performCatalog {σ α : Type} (action : CatalogM α) (replies : ℕ → DiskReply)
    (world : World τ) : Performed σ (Except ImageCatalogError α) × World τ :=
  let reached := action ⟨world.catalog, ⟨world.disk, replies⟩⟩
  (match reached.1 with
    | .ok value => .answered (.ok value)
    | .error error => .answered (.error error)
    | .stopped => .panicked,
    { world with catalog := reached.2.catalog, disk := reached.2.device.disk })

/-- Both artifacts of a managed load. -/
def resolveBoth (kernelId : ArtifactId) (initrdId : Option ArtifactId) :
    CatalogM (PathBuf × Option PathBuf) := do
  let kernel ← ImageCatalog.resolve config.store .kernel kernelId
  match initrdId with
  | none => return (kernel, none)
  | some id => do
      let initrd ← ImageCatalog.resolve config.store .initrd id
      return (kernel, some initrd)

/-- The next step of an action; `source` is what an import finds at its path. -/
def perform (source : Source) (replies : ℕ → DiskReply) :
    (kind : ActionKind) → ActionStage ε κ kind → World τ →
      Performed (ActionStage ε κ kind) (ActionAnswer ε kind) × World τ
  | .lifecycle, job, world => performLifecycle config job world
  | .resourcePool, job, world => performResourcePool config job world
  | .importImage, (expectedGeneration, call), world =>
      performCatalog
        (ImageCatalog.importWith config.store expectedGeneration ((call source).run config.store))
        replies world
  | .resolve, (kernelId, initrdId), world =>
      performCatalog (resolveBoth config kernelId initrdId) replies world

/-- An execution is about to invoke Kerf. -/
def ActionStage.invokesKerf : (kind : ActionKind) → ActionStage ε κ kind → Bool
  | .lifecycle, job => job.progress.isDecided
  | .resourcePool, job => job.progress.isDecided
  | .importImage, _ | .resolve, _ => false

/-- An execution is about to look at the host again. -/
def ActionStage.reconciles : (kind : ActionKind) → ActionStage ε κ kind → Bool
  | .lifecycle, job => job.progress.isActed
  | .resourcePool, job => job.progress.isActed
  | .importImage, _ | .resolve, _ => false

/-- The execution has an outcome. -/
def ActionAnswer.isOutcome : (kind : ActionKind) → ActionAnswer ε kind → Bool
  | .lifecycle, answer => answer.isOk
  | .resourcePool, answer => answer.isOk
  | .importImage, _ | .resolve, _ => false

end Perform

/-! ### Steps of a worker -/

namespace TaskWorker

variable {τ ε κ : Type}

/-- The worker takes the next step of an action. -/
def acts (worker : TaskWorker ε κ) (kind : ActionKind) (stage : ActionStage ε κ kind) :
    TaskWorker ε κ :=
  { worker with
    trace := { worker.trace with
      kerf := worker.trace.kerf || ActionStage.invokesKerf kind stage
      imported := worker.trace.imported || decide (kind = .importImage) } }

/-- The last step of an action has answered. -/
def answered (worker : TaskWorker ε κ) (kind : ActionKind) (stage : ActionStage ε κ kind)
    (answer : ActionAnswer ε kind) (next : ActionAnswer ε kind → Task ε κ) : TaskWorker ε κ :=
  { worker.continueWith (next answer) with
    trace := { worker.trace with
      reconciled := worker.trace.reconciled ||
        (ActionStage.reconciles kind stage && ActionAnswer.isOutcome kind answer) } }

/-- What a step of a worker leads to. -/
structure Moved (τ ε κ : Type) where
  worker : TaskWorker ε κ
  world : World τ
  registry : OperationRegistry
  /-- The permit of the worker was dropped. -/
  released : Bool

variable (config : TaskConfig τ ε κ) (locked : TaskMutex → Bool) (world : World τ)
  (registry : OperationRegistry) (worker : TaskWorker ε κ)

/-- The next step of a task. A guard is dropped before the permit. -/
def advance (source : Source) (replies : ℕ → DiskReply) : Task ε κ → Option (Moved τ ε κ)
  | .done result =>
      match worker.held with
      | some _ => some ⟨{ worker with held := none }, world, registry, false⟩
      | none => some ⟨worker.release (.returned result), world, registry, true⟩
  | .check next =>
      some ⟨worker.continueWith (if worker.cancelled then .done (.cancelled none) else next),
        world, registry, false⟩
  | .lock mutex next =>
      if locked mutex then none else some ⟨worker.acquire mutex next, world, registry, false⟩
  | .unlock _ next => some ⟨{ worker.continueWith next with held := none }, world, registry, false⟩
  | .act kind stage next =>
      match perform config source replies kind stage world with
      | (.continued later, world) =>
          some ⟨(worker.acts kind stage).continueWith (.act kind later next), world, registry, false⟩
      | (.answered answer, world) =>
          some ⟨(worker.acts kind stage).answered kind stage answer next, world, registry, false⟩
      | (.panicked, world) => some ⟨(worker.acts kind stage).unwind, world, registry, false⟩

/-- The thread begins. If the registry refuses, the closure is dropped. -/
def start : Moved τ ε κ :=
  match registry.start worker.id with
  | (.ok _, registry) => ⟨worker.continueWith worker.request.task, world, registry, false⟩
  | (.error error, registry) => ⟨worker.release (.skipped error), world, registry, true⟩

/-- The result is recorded; what the registry answers is discarded. -/
def finish (result : OperationTaskResult) (completedAt : String) : Moved τ ε κ :=
  let reached := registry.finish worker.id result.state result.observedGeneration result.error
    completedAt
  ⟨{ worker with phase := .settled result reached.1 }, world, reached.2, false⟩

end TaskWorker

/-- A step of a worker, or of the thread that creates it. -/
inductive WorkerLabel
  | spawn
  | spawnFails
  | start
  /-- `source` is what an import finds at its path, `replies` what the disk does. -/
  | advance (source : Source) (replies : ℕ → DiskReply)
  | panic
  | finish (completedAt : String)
  | exit

/-- What a worker does next; `none` when the step is not its next one. -/
def TaskWorker.step {τ ε κ : Type} (config : TaskConfig τ ε κ) (locked : TaskMutex → Bool)
    (world : World τ) (registry : OperationRegistry) (worker : TaskWorker ε κ) :
    WorkerLabel → Option (Moved τ ε κ)
  | .spawn => worker.spawn.map fun worker => ⟨worker, world, registry, false⟩
  | .spawnFails => worker.spawnFails.map fun worker => ⟨worker, world, registry, true⟩
  | .start =>
      match worker.phase with
      | .spawned => some (worker.start world registry)
      | _ => none
  | .advance source replies =>
      match worker.phase with
      | .running task => worker.advance config locked world registry source replies task
      | _ => none
  | .panic => worker.panic.map fun worker => ⟨worker, world, registry, false⟩
  | .finish completedAt =>
      match worker.phase with
      | .returned result => some (worker.finish world registry result completedAt)
      | _ => none
  | .exit => worker.exit.map fun worker => ⟨worker, world, registry, false⟩

/-! ### The daemon as a whole -/

/-- A mutation that has a permit and is on its way to the scheduler. -/
structure Submission where
  request : TaskRequest
  operation : NewOperation

/-- The daemon; workers are never taken off their list. -/
structure TaskService (τ ε κ : Type) where
  world : World τ
  registry : OperationRegistry
  limiter : ServiceLimiter
  admitted : List Submission
  workers : List (TaskWorker ε κ)
  /-- The workers whose handles the scheduler keeps, in its order. -/
  retained : List ℕ

/-- The daemon after its start. -/
def TaskService.new {τ ε κ : Type} (world : World τ) (registry : OperationRegistry)
    (limiter : ServiceLimiter) : TaskService τ ε κ :=
  ⟨world, registry, limiter, [], [], []⟩

/-- The item goes and the last one takes its place. -/
def swapRemove (items : List ℕ) (index : ℕ) : List ℕ :=
  match items.getLast? with
  | some last => (items.set index last).dropLast
  | none => []

/-- Go through the handles and drop those of finished threads. Each round leaves one handle
fewer to look at, so `fuel` is the number of handles. -/
def reapFinished (finished : ℕ → Bool) : (fuel index : ℕ) → List ℕ → List ℕ
  | 0, _, handles => handles
  | fuel + 1, index, handles =>
      match handles[index]? with
      | none => handles
      | some handle =>
          if finished handle then reapFinished finished fuel index (swapRemove handles index)
          else reapFinished finished fuel (index + 1) handles

/-- A step of somebody. -/
inductive TaskLabel (τ : Type)
  /-- A peer sends a mutation. -/
  | submit (mutation : HostApi.Mutation) (files : FileView) (peer : PeerIdentity)
      (auditId : Option String) (createdAt : String)
  /-- The scheduler creates the operation of a submission. -/
  | create (index : ℕ)
  | worker (index : ℕ) (label : WorkerLabel)
  /-- The scheduler keeps the handle of a new thread. -/
  | retain (index : ℕ)
  /-- What the scheduler does before it accepts a submission or a cancellation. -/
  | reap
  | cancel (id : OperationId)
  | drain
  /-- A client reads the inventory. -/
  | refresh
  /-- A client reads the image catalog. -/
  | refreshCatalog (replies : ℕ → DiskReply)
  /-- The host changes. -/
  | elapse (next : τ)
  /-- A permit of another kind. -/
  | acquire (kind : LimitKind) (other : kind ≠ .mutation)
  | release (kind : LimitKind) (other : kind ≠ .mutation)

namespace TaskService

variable {τ ε κ : Type}

/-- Some worker holds the mutex. -/
def locked (service : TaskService τ ε κ) (mutex : TaskMutex) : Bool :=
  service.workers.any fun worker => worker.held = some mutex

/-- The first retained worker with this ID. -/
def find (service : TaskService τ ε κ) (id : OperationId) : Option ℕ :=
  service.retained.find? fun index => service.workers[index]?.any fun worker => worker.id = id

/-- A worker and what it shares with others after one of its steps. -/
def move (service : TaskService τ ε κ) (index : ℕ) (moved : TaskWorker.Moved τ ε κ) : TaskService τ ε κ :=
  { service with
    world := moved.world
    registry := moved.registry
    limiter := if moved.released then service.limiter.release .mutation else service.limiter
    workers := service.workers.set index moved.worker }

/-- A submission gets a permit or is turned away. -/
def accept (service : TaskService τ ε κ) (submission : Submission) : TaskService τ ε κ :=
  match service.limiter.acquire .mutation with
  | .ok limiter => { service with limiter := limiter, admitted := service.admitted ++ [submission] }
  | .error _ => service

/-- The operation of an admitted submission is created. -/
def create (service : TaskService τ ε κ) (index : ℕ) (submission : Submission) : TaskService τ ε κ :=
  let created := service.registry.create submission.operation
  { service with
    registry := created.2
    admitted := service.admitted.eraseIdx index
    workers := service.workers ++ [.fresh created.1.id submission.request] }

/-- What a label does; `none` when it cannot happen now. -/
def step (config : TaskConfig τ ε κ) (service : TaskService τ ε κ) :
    TaskLabel τ → Option (TaskService τ ε κ)
  | .submit mutation files peer auditId createdAt =>
      match HostApi.prepare config.imagePolicy files mutation with
      | .error _ => some service
      | .ok request =>
          some (service.accept ⟨request, request.operation peer auditId createdAt⟩)
  | .create index =>
      match service.admitted[index]? with
      | none => none
      | some submission => some (service.create index submission)
  | .worker index label =>
      match service.workers[index]? with
      | none => none
      | some worker =>
          (worker.step config service.locked service.world service.registry label).map
            (service.move index)
  | .retain index =>
      match service.workers[index]?.bind TaskWorker.retain with
      | none => none
      | some worker =>
          some { service with
            workers := service.workers.set index worker
            retained := service.retained ++ [index] }
  | .reap =>
      some { service with
        retained := reapFinished (fun index => service.workers[index]?.any TaskWorker.exited)
          service.retained.length 0 service.retained }
  | .cancel id =>
      match service.find id with
      | none => some service
      | some index => some { service with workers := service.workers.modify index TaskWorker.cancel }
  | .drain => some { service with retained := [] }
  | .refresh =>
      some { service with
        world := { service.world with
          inventory := (service.world.inventory.refresh config.source).2 } }
  | .refreshCatalog replies =>
      if service.locked .catalog then none
      else
        let reached := ImageCatalog.refresh config.store
          ⟨service.world.catalog, ⟨service.world.disk, replies⟩⟩
        some { service with
          world := { service.world with
            catalog := reached.2.catalog, disk := reached.2.device.disk } }
  | .elapse next =>
      some { service with
        world := { service.world with
          inventory := { service.world.inventory with source := next } } }
  | .acquire kind _ =>
      match service.limiter.acquire kind with
      | .ok limiter => some { service with limiter := limiter }
      | .error _ => some service
  | .release kind _ => some { service with limiter := service.limiter.release kind }

end TaskService

end Kernmux.Daemon
