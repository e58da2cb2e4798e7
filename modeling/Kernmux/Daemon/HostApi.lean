import Kernmux.Daemon.InventorySound
import Kernmux.Daemon.ResourcePool
import Kernmux.Library.Transition

/-!
# Kernmux.Daemon.HostApi

The dispatcher and its two executors as a state machine. Lifecycle requests and
resource-pool requests each have an executor of their own behind a mutex of its
own, and both executors refresh one shared inventory. A worker waits for the
mutex of its executor, takes its steps (refresh, plan, run Kerf, refresh) and
unlocks. Clients refresh the inventory at any time.

The steps of a worker are those of the supervised action that `execute` is
(`lifecycleJob_execute`, `resourcePoolJob_execute`); between two of them anybody
else may take a step. The daemon is the only writer of the host: apart from
Kerf runs, time changes nothing that makes a new generation.
-/

namespace Kernmux.Daemon

open Api.V1 Kernmux.Core Library Inventory Lifecycle

/-! ### The host -/

/-- A host that only Kerf changes. -/
structure ManagedHost (τ ε κ : Type) where
  /-- What there is to be observed. -/
  kernel : τ → HostObservations
  source : InventorySource τ ε
  runner : KerfRunner τ κ
  observe_ok : ∀ host observations next, source.observe host = (.ok observations, next) →
    observations = kernel host
  observe_content : ∀ host,
    observedContent (kernel (source.observe host).2) = observedContent (kernel host)

variable {τ ε κ : Type}

/-- What the executors on a host look at and act on. -/
def ManagedHost.backend (host : ManagedHost τ ε κ) :
    Backend (InventoryService τ) ε HostSnapshot KerfInvocation (Except κ KerfRunResult) :=
  executorBackend host.runner.onSource (inventoryRefresher host.source)

/-! ### Jobs -/

/-- A worker that holds the mutex of an executor. -/
structure Job (ρ δ κ ο : Type) where
  request : ρ
  progress : Progress δ HostSnapshot KerfInvocation (Except κ KerfRunResult) ο

abbrev LifecycleJob (ε κ : Type) :=
  Job LifecycleRequest (LifecycleExecutionError ε) κ LifecycleOutcome

abbrev ResourcePoolJob (ε κ : Type) :=
  Job ResourcePoolRequest (ResourcePoolExecutionError ε) κ ResourcePoolOutcome

/-- The next step of a job of the lifecycle executor. -/
def LifecycleJob.resume (host : ManagedHost τ ε κ) (job : LifecycleJob ε κ)
    (inventory : InventoryService τ) :=
  Library.resume host.backend .inventory (LifecycleExecutor.preflight job.request)
    LifecycleExecutor.conclude (job.progress, inventory)

/-- The next step of a job of the resource-pool executor. -/
def ResourcePoolJob.resume (host : ManagedHost τ ε κ) (job : ResourcePoolJob ε κ)
    (inventory : InventoryService τ) :=
  Library.resume host.backend .inventory (ResourcePoolExecutor.preflight job.request)
    (ResourcePoolExecutor.conclude job.request) (job.progress, inventory)

/-- One Kerf run: the generation that its request carried, the snapshot that its plan was
validated against, and the kernel before and after. -/
structure KerfRun where
  generation : Generation
  validated : HostSnapshot
  start : HostObservations
  finish : HostObservations

/-- The Kerf run that a step is, if it is one. -/
def Job.kerfRun {ρ δ ο : Type} (job : Job ρ δ κ ο) (generation : Generation)
    (start finish : HostObservations) : Option KerfRun :=
  match job.progress with
  | .decided before _ => some ⟨generation, before, start, finish⟩
  | _ => none

/-! ### The dispatcher -/

/-- The two executors. -/
inductive ExecutorKind
  | lifecycle
  | resourcePool
  deriving DecidableEq, Repr

/-- The other executor. -/
def ExecutorKind.other : ExecutorKind → ExecutorKind
  | lifecycle => resourcePool
  | resourcePool => lifecycle

/-- The shared inventory, the workers that wait for a mutex, who holds the mutexes, and the
Kerf runs so far. -/
structure HostApi (τ ε κ : Type) where
  inventory : InventoryService τ
  waiting : List HostRequest
  lifecycle : Option (LifecycleJob ε κ)
  resourcePool : Option (ResourcePoolJob ε κ)
  runs : List KerfRun

/-- A step of somebody. -/
inductive HostApiLabel (τ : Type)
  /-- A client submits a request. -/
  | submit (request : HostRequest)
  /-- A waiting worker finds that its operation was cancelled. -/
  | cancel (index : ℕ)
  /-- A waiting worker gets the mutex of its executor. -/
  | lock (index : ℕ)
  /-- The holder of a mutex takes its next step. -/
  | advance (executor : ExecutorKind)
  /-- The holder of a mutex has ended, or was cancelled before it began, and lets go of it. -/
  | unlock (executor : ExecutorKind)
  /-- A client refreshes the inventory. -/
  | refresh
  /-- Time goes by. -/
  | elapse (next : τ)

namespace HostApi

/-- The daemon after its start. -/
def new (host : τ) : HostApi τ ε κ := ⟨.new host, [], none, none, []⟩

/-- A worker gets a mutex if nobody holds it. -/
def lock (api : HostApi τ ε κ) : HostRequest → Option (HostApi τ ε κ)
  | .lifecycle request =>
      match api.lifecycle with
      | none => some { api with lifecycle := some ⟨request, .begun⟩ }
      | some _ => none
  | .pool request =>
      match api.resourcePool with
      | none => some { api with resourcePool := some ⟨request, .begun⟩ }
      | some _ => none

/-- The lifecycle job takes its next step. -/
def advanceLifecycle (host : ManagedHost τ ε κ) (api : HostApi τ ε κ) (job : LifecycleJob ε κ) :
    HostApi τ ε κ :=
  let reached := job.resume host api.inventory
  { api with
    inventory := reached.2
    lifecycle := some { job with progress := reached.1 }
    runs := api.runs ++ (job.kerfRun job.request.expectedGeneration
      (host.kernel api.inventory.source) (host.kernel reached.2.source)).toList }

/-- The resource-pool job takes its next step. -/
def advanceResourcePool (host : ManagedHost τ ε κ) (api : HostApi τ ε κ)
    (job : ResourcePoolJob ε κ) : HostApi τ ε κ :=
  let reached := job.resume host api.inventory
  { api with
    inventory := reached.2
    resourcePool := some { job with progress := reached.1 }
    runs := api.runs ++ (job.kerfRun job.request.expectedGeneration
      (host.kernel api.inventory.source) (host.kernel reached.2.source)).toList }

/-- A mutex is released before the first step or after the last one. -/
def mayUnlock {ρ δ ο : Type} (job : Job ρ δ κ ο) : Bool :=
  match job.progress with
  | .begun | .ended _ => true
  | _ => false

/-- What a label does; `none` when it cannot happen now. -/
def step (host : ManagedHost τ ε κ) (api : HostApi τ ε κ) : HostApiLabel τ → Option (HostApi τ ε κ)
  | .submit request => some { api with waiting := api.waiting ++ [request] }
  | .cancel index => some { api with waiting := api.waiting.eraseIdx index }
  | .lock index =>
      api.waiting[index]?.bind { api with waiting := api.waiting.eraseIdx index }.lock
  | .advance .lifecycle => api.lifecycle.map (api.advanceLifecycle host)
  | .advance .resourcePool => api.resourcePool.map (api.advanceResourcePool host)
  | .unlock .lifecycle =>
      if api.lifecycle.any mayUnlock then some { api with lifecycle := none } else none
  | .unlock .resourcePool =>
      if api.resourcePool.any mayUnlock then some { api with resourcePool := none } else none
  | .refresh => some { api with inventory := (api.inventory.refresh host.source).2 }
  | .elapse next =>
      if observedContent (host.kernel next) = observedContent (host.kernel api.inventory.source) then
        some { api with inventory := { api.inventory with source := next } }
      else none

end HostApi

/-! ### Undisturbed jobs -/

/-- A lifecycle job whose steps follow one another is a call of `execute`. -/
theorem lifecycleJob_execute (host : ManagedHost τ ε κ) (request : LifecycleRequest)
    (inventory : InventoryService τ) :
    let executor : LifecycleExecutor (InventoryService τ) ε κ :=
      ⟨host.runner.onSource, inventoryRefresher host.source⟩
    (fun reached : _ × InventoryService τ =>
        LifecycleJob.resume host ⟨request, reached.1⟩ reached.2)^[4] (.begun, inventory) =
      (.ended (executor.execute request inventory).1, (executor.execute request inventory).2) :=
  resume_supervise

/-- A pool job whose steps follow one another is a call of `execute`. -/
theorem resourcePoolJob_execute (host : ManagedHost τ ε κ) (request : ResourcePoolRequest)
    (inventory : InventoryService τ) :
    let executor : ResourcePoolExecutor (InventoryService τ) ε κ :=
      ⟨host.runner.onSource, inventoryRefresher host.source⟩
    (fun reached : _ × InventoryService τ =>
        ResourcePoolJob.resume host ⟨request, reached.1⟩ reached.2)^[4] (.begun, inventory) =
      (.ended (executor.execute request inventory).1, (executor.execute request inventory).2) :=
  resume_supervise

end Kernmux.Daemon
