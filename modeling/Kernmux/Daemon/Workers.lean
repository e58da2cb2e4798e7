import Kernmux.Daemon.Operations
import Kernmux.Daemon.Scheduler
import Kernmux.Daemon.Security
import Kernmux.Library.Transition

/-!
# Kernmux.Daemon.Workers

Mutation workers as a state machine. A submission acquires a permit, creates
its operation and spawns a thread; the thread starts the operation, runs the
task and finishes the operation. The permit lives in the task, so it is gone
when the task returns, before the operation is finished.

Threads take these steps in any order: each step is a label of `Service.step`,
and a run is any list of labels that can be carried out. What the registry
answers to a worker is discarded by the source; here it stays visible in the
worker's phase.
-/

namespace Kernmux.Daemon

open Api.V1 Library Scheduler

/-! ### Workers -/

/-- The result recorded when the worker thread cannot be created. -/
def Scheduler.workerSpawnResult : OperationTaskResult where
  state := .failed
  observedGeneration := none
  error := some (apiError .internal "operation worker could not be started" true [])

/-- How far the worker of an accepted operation has come. -/
inductive WorkerPhase
  /-- The operation exists, its thread does not. -/
  | accepted
  /-- The thread exists and has not called the registry yet. -/
  | spawned
  /-- The operation was started; the task runs and holds the permit. -/
  | running
  /-- The task is gone with its permit, its result is not recorded yet. -/
  | returned (result : OperationTaskResult)
  /-- The registry refused to start the operation; the task never ran. -/
  | skipped (error : OperationRegistryError)
  /-- The worker has ended; this is what the registry said to its result. -/
  | settled (result : OperationTaskResult) (answer : Except OperationRegistryError Operation)
  deriving DecidableEq

/-- The worker of one accepted operation. -/
structure Worker where
  id : OperationId
  phase : WorkerPhase
  deriving DecidableEq

/-- Registry, limiter and workers. `admitted` counts the submissions that hold a permit
and have not created their operation yet. -/
structure Service where
  registry : OperationRegistry
  limiter : ServiceLimiter
  admitted : ℕ
  workers : List Worker

/-- A service in which nothing has been submitted. -/
def Service.idle (registry : OperationRegistry) (limiter : ServiceLimiter) : Service :=
  ⟨registry, limiter, 0, []⟩

/-- One step of one thread. -/
inductive ServiceLabel
  | acquire
  | create (request : NewOperation)
  | spawn (id : OperationId)
  | spawnFails (id : OperationId)
  | start (id : OperationId)
  | taskReturns (id : OperationId) (result : OperationTaskResult)
  | finish (id : OperationId) (completedAt : String)

namespace Service

/-- The phase of the worker with this ID. -/
def phaseOf (service : Service) (id : OperationId) : Option WorkerPhase :=
  (service.workers.find? (·.id = id)).map Worker.phase

/-- The service with the worker of this ID in another phase. -/
def setPhase (service : Service) (id : OperationId) (phase : WorkerPhase) : Service :=
  { service with
    workers := service.workers.map fun worker =>
      if worker.id = id then { worker with phase := phase } else worker }

/-- A mutation permit is dropped. -/
def releasePermit (service : Service) : Service :=
  { service with limiter := service.limiter.release .mutation }

/-- What a thread does next; `none` when the step is not its next one. -/
def step (service : Service) : ServiceLabel → Option Service
  | .acquire =>
      match service.limiter.acquire .mutation with
      | .ok limiter => some { service with limiter := limiter, admitted := service.admitted + 1 }
      | .error _ => some service
  | .create request =>
      if service.admitted = 0 then none
      else
        let (operation, registry) := service.registry.create request
        some { service with
          registry := registry
          admitted := service.admitted - 1
          workers := service.workers ++ [⟨operation.id, .accepted⟩] }
  | .spawn id =>
      match service.phaseOf id with
      | some .accepted => some (service.setPhase id .spawned)
      | _ => none
  | .spawnFails id =>
      match service.phaseOf id with
      | some .accepted => some ((service.setPhase id (.returned workerSpawnResult)).releasePermit)
      | _ => none
  | .start id =>
      match service.phaseOf id with
      | some .spawned =>
          match service.registry.start id with
          | (.ok _, registry) =>
              some { service.setPhase id .running with registry := registry }
          | (.error error, registry) =>
              some { (service.setPhase id (.skipped error)).releasePermit with registry := registry }
      | _ => none
  | .taskReturns id result =>
      match service.phaseOf id with
      | some .running => some ((service.setPhase id (.returned result)).releasePermit)
      | _ => none
  | .finish id completedAt =>
      match service.phaseOf id with
      | some (.returned result) =>
          let (answer, registry) := service.registry.finish id result.state
            result.observedGeneration result.error completedAt
          some { service.setPhase id (.settled result answer) with registry := registry }
      | _ => none

end Service

end Kernmux.Daemon
