import Kernmux.Daemon.OperationsSound
import Kernmux.Daemon.Workers
import Kernmux.Library.Ownership

/-!
# Kernmux.Daemon.WorkersSound

**When an accepted operation stays observable.** `Observable` says that every
accepted operation is found in the registry until its terminal result has been
recorded there, and that no worker was turned away for want of its operation.

The registry makes room for a new operation by forgetting the oldest one,
whatever state that is in, while permits only bound how many tasks run at a
time. So the property can be lost: one slow operation overtaken by a few short
ones is enough. What keeps it is that whenever a submission finds the registry
full, the operation it pushes out has come to an end (`Service.Evictable`).
-/

namespace Kernmux.Daemon

open Api.V1 Library OperationRegistry Service OperationRegistry

variable {service : Service} {id : OperationId} {phase : WorkerPhase} {registry : OperationRegistry}

/-! ### The property -/

/-- The registry has recorded a result of the worker. -/
def WorkerPhase.Recorded : WorkerPhase → Prop
  | .settled _ (.ok _) => True
  | _ => False

/-- Every accepted operation can be found until its result is recorded, every worker could
start its operation, and every terminal result was recorded. -/
structure Observable (service : Service) : Prop where
  retained : ∀ worker ∈ service.workers, ¬ worker.phase.Recorded →
    ∃ operation, service.registry.get worker.id = some operation ∧
      isTerminal operation.state = false
  started : ∀ worker ∈ service.workers, ∀ error, worker.phase ≠ .skipped error
  recorded : ∀ worker ∈ service.workers, ∀ result answer,
    worker.phase = .settled result answer → answer ≠ .error .notFound ∧
      (isTerminal result.state = true →
        ∃ operation, answer = .ok operation ∧ operation.state = result.state)

/-- The operation that a submission would push out has come to an end, and there is a
number left for the new one. -/
def Service.Evictable (service : Service) : ServiceLabel → Prop
  | .create _ =>
      service.registry.state.nextOperation ≠ maxWord ∧
        (service.registry.state.operations.length = service.registry.operationCapacity →
          ∀ oldest ∈ service.registry.state.operations.head?, isTerminal oldest.state = true)
  | _ => True

instance (service : Service) : DecidablePred service.Evictable := by
  intro label
  cases label <;> unfold Evictable <;> infer_instance

/-! ### Operations that are found -/

section Registry

/-- The operations of a registry are in order. -/
abbrev OperationRegistry.Ordered (registry : OperationRegistry) : Prop :=
  OperationsInv registry.state.nextOperation.toNat registry.operationCapacity
    registry.state.operations

theorem get_of_mem {next : ℕ}
    (h : OperationsInv next registry.operationCapacity registry.state.operations)
    {operation : Operation} (hmem : operation ∈ registry.state.operations) :
    registry.get operation.id = some operation := by
  have hsome : (registry.get operation.id).isSome :=
    List.find?_isSome.mpr ⟨operation, hmem, by simp⟩
  obtain ⟨found, hfound⟩ := Option.isSome_iff_exists.mp hsome
  obtain ⟨hfoundMem, hid⟩ := mem_of_get hfound
  rw [hfound, h.eq_of_id_eq hfoundMem hmem hid]

/-- What becomes of the registry when a retained operation is mutated. -/
structure Updated (registry reached : OperationRegistry) (next : ℕ) (before : Operation)
    (answer : Except OperationRegistryError Operation) : Prop where
  ordered : OperationsInv next reached.operationCapacity reached.state.operations
  capacity_eq : reached.operationCapacity = registry.operationCapacity
  next_eq : reached.state.nextOperation = registry.state.nextOperation
  mem : ∀ after, answer = .ok after → after ∈ reached.state.operations
  unchanged : ∀ error, answer = .error error → reached = registry
  others : ∀ other ∈ registry.state.operations, other.id ≠ before.id →
    other ∈ reached.state.operations

theorem Updated.reached_ordered {reached : OperationRegistry} {before : Operation}
    {answer : Except OperationRegistryError Operation}
    (h : Updated registry reached registry.state.nextOperation.toNat before answer) :
    reached.Ordered := by
  rw [Ordered, h.next_eq]
  exact h.ordered

theorem update_of_mem {next : ℕ}
    (h : OperationsInv next registry.operationCapacity registry.state.operations)
    {before : Operation} (hmem : before ∈ registry.state.operations)
    {mutation : Operation → Except OperationRegistryError Operation}
    (hmutation : Advances mutation) :
    ∃ reached, registry.update before.id mutation = (mutation before, reached) ∧
      Updated registry reached next before (mutation before) := by
  have hget := get_of_mem h hmem
  have heffect := update_cases registry before.id mutation
  generalize registry.update before.id mutation = answer at heffect ⊢
  cases heffect with
  | missing hmissing => exact absurd (hget.symm.trans hmissing) (by simp)
  | rejected hfound herror =>
      obtain rfl := Option.some.inj (hget.symm.trans hfound)
      rw [herror]
      exact ⟨_, rfl, h, rfl, rfl, by simp, fun _ _ => rfl, fun _ hother _ => hother⟩
  | @changed _ after index hfound hafter hat =>
      obtain rfl := Option.some.inj (hget.symm.trans hfound)
      obtain ⟨hstep, hknown⟩ := hmutation before after (h.known before hmem) hafter
      rw [hafter]
      refine ⟨_, rfl, h.set hat hstep.id_eq hknown, rfl, rfl, fun _ hsame => ?_, by simp,
        fun other hother hne => (h.mem_set hat).mpr (.inr ⟨hother, hne⟩)⟩
      exact (h.mem_set hat).mpr (.inl (Except.ok.inj hsame).symm)

/-- A submission keeps every operation but one that has come to an end. -/
theorem mem_create_of_live {request : NewOperation} (hevict : service.Evictable (.create request))
    {operation : Operation} (hmem : operation ∈ service.registry.state.operations)
    (hlive : isTerminal operation.state = false) :
    operation ∈ (service.registry.create request).2.state.operations := by
  -- only the oldest operation of a full registry goes
  refine mem_pushBounded_of_mem hmem fun hfull holdest => ?_
  have hterminal := hevict.2 hfull operation holdest
  exact absurd hterminal (by simp [hlive])

theorem create_ordered (h : registry.Ordered) (hroom : registry.state.nextOperation ≠ maxWord)
    (request : NewOperation) : (registry.create request).2.Ordered := by
  have hnext := toNat_saturatingAdd_one (toNat_lt_of_ne_maxWord hroom)
  simp only [Ordered, create, publishOperationEvent, hnext]
  exact h.push registry.operationCapacity_pos rfl rfl rfl

end Registry

/-! ### Phases and operations -/

/-- One of the operations has this ID and is in a state with the property `p`. -/
def Retains (operations : List Operation) (id : OperationId) (p : OperationState → Prop) : Prop :=
  ∃ operation ∈ operations, operation.id = id ∧ p operation.state

/-- What the phase of a worker says about its operation. -/
def PhaseInv (operations : List Operation) (id : OperationId) : WorkerPhase → Prop
  | .accepted | .spawned => Retains operations id (· = .queued)
  | .running => Retains operations id (· = .running)
  | .returned _ => Retains operations id (isTerminal · = false)
  | .skipped _ => False
  | .settled result (.ok operation) => operation.state = result.state
  | .settled result (.error error) =>
      error ≠ .notFound ∧ isTerminal result.state = false ∧
        Retains operations id (isTerminal · = false)

/-- Every operation with this ID that has not come to an end is still there. -/
def KeepsLive (earlier later : List Operation) (id : OperationId) : Prop :=
  ∀ operation ∈ earlier, operation.id = id → isTerminal operation.state = false → operation ∈ later

theorem Retains.mono {earlier later : List Operation} {p : OperationState → Prop}
    (h : Retains earlier id p) (hlive : ∀ state, p state → isTerminal state = false)
    (hkeeps : KeepsLive earlier later id) :
    Retains later id p := by
  obtain ⟨operation, hmem, hid, hp⟩ := h
  exact ⟨operation, hkeeps operation hmem hid (hlive _ hp), hid, hp⟩

theorem PhaseInv.mono {earlier later : List Operation} (h : PhaseInv earlier id phase)
    (hkeeps : KeepsLive earlier later id) :
    PhaseInv later id phase := by
  cases phase with
  | accepted | spawned => exact Retains.mono (p := (· = .queued)) h (fun _ heq => heq ▸ rfl) hkeeps
  | running => exact Retains.mono (p := (· = .running)) h (fun _ heq => heq ▸ rfl) hkeeps
  | returned result => exact Retains.mono (p := (isTerminal · = false)) h (fun _ hp => hp) hkeeps
  | skipped error => exact h
  | settled result answer =>
      cases answer with
      | ok operation => exact h
      | error error => exact ⟨h.1, h.2.1, h.2.2.mono (fun _ hp => hp) hkeeps⟩

/-- Until its result is recorded, an operation is there and has not come to an end. -/
theorem PhaseInv.live {operations : List Operation} (h : PhaseInv operations id phase)
    (hopen : ¬ phase.Recorded) :
    Retains operations id (isTerminal · = false) := by
  have hstate : ∀ {state}, isTerminal state = false → Retains operations id (· = state) →
      Retains operations id (isTerminal · = false) := by
    rintro state hlive ⟨operation, hmem, hid, rfl⟩
    exact ⟨operation, hmem, hid, hlive⟩
  cases phase with
  | accepted | spawned | running => exact hstate rfl h
  | returned result => exact h
  | skipped error => cases h
  | settled result answer =>
      cases answer with
      | ok operation => exact absurd trivial hopen
      | error error => exact h.2.2

/-- Every worker stands for an operation of its own and is in a phase that fits it. -/
structure WorkersInv (registry : OperationRegistry) (workers : List Worker) : Prop where
  ordered : registry.Ordered
  ids_nodup : (workers.map Worker.id).Nodup
  ids_old : ∀ worker ∈ workers,
    ∃ number < registry.state.nextOperation.toNat, worker.id = operationId number
  phases : ∀ worker ∈ workers, PhaseInv registry.state.operations worker.id worker.phase

theorem phaseInv_of_phaseOf (h : WorkersInv service.registry service.workers)
    (hphase : service.phaseOf id = some phase) :
    PhaseInv service.registry.state.operations id phase := by
  obtain ⟨worker, hfind, rfl⟩ := Option.map_eq_some_iff.mp hphase
  have hid : worker.id = id := by simpa using List.find?_some hfind
  rw [← hid]
  exact h.phases worker (List.mem_of_find?_eq_some hfind)

/-- One worker moves on and its operation with it. -/
theorem WorkersInv.setPhase (h : WorkersInv service.registry service.workers)
    (hordered : registry.Ordered)
    (hnext : registry.state.nextOperation = service.registry.state.nextOperation)
    (hothers : ∀ operation ∈ service.registry.state.operations, operation.id ≠ id →
      operation ∈ registry.state.operations)
    (hphase : PhaseInv registry.state.operations id phase) :
    WorkersInv registry (service.setPhase id phase).workers := by
  have hids : (service.setPhase id phase).workers.map Worker.id = service.workers.map Worker.id :=
    map_update fun _ => rfl
  refine ⟨hordered, ?_, fun worker hworker => ?_, fun worker hworker => ?_⟩
  · rw [hids]
    exact h.ids_nodup
  · obtain ⟨old, hold, hid⟩ := List.mem_map.mp (hids ▸ List.mem_map_of_mem hworker)
    rw [hnext, ← hid]
    exact h.ids_old old hold
  · rcases mem_update hworker with ⟨old, hold, rfl, rfl⟩ | ⟨hold, hid⟩
    · exact hphase
    · refine (h.phases worker hold).mono fun operation hmem hsame _ => ?_
      exact hothers operation hmem fun heq => hid (hsame.symm.trans heq)

/-- A step of a worker that leaves the registry alone. -/
theorem WorkersInv.setPhase_same (h : WorkersInv service.registry service.workers)
    (hphase : PhaseInv service.registry.state.operations id phase) :
    WorkersInv service.registry (service.setPhase id phase).workers :=
  h.setPhase h.ordered rfl (fun _ hmem _ => hmem) hphase

/-! ### Steps -/

/-- A worker whose operation is queued can start it. -/
theorem start_of_queued (h : registry.Ordered)
    (hqueued : Retains registry.state.operations id (· = .queued)) :
    ∃ operation reached, registry.start id = (.ok operation, reached) ∧ reached.Ordered ∧
      reached.state.nextOperation = registry.state.nextOperation ∧
      Retains reached.state.operations id (· = .running) ∧
      ∀ other ∈ registry.state.operations, other.id ≠ id → other ∈ reached.state.operations := by
  obtain ⟨before, hmem, rfl, hstate⟩ := hqueued
  obtain ⟨reached, hstart, hupdated⟩ := update_of_mem h hmem startMutation_advances
  have hafter := startMutation_eq_ok.mpr ⟨hstate, rfl⟩
  exact ⟨_, reached, hstart.trans (by rw [hafter]), hupdated.reached_ordered,
    hupdated.next_eq, ⟨_, hupdated.mem _ hafter, rfl, rfl⟩, hupdated.others⟩

/-- What the registry says to a result while the operation is there. -/
theorem finish_of_live (h : registry.Ordered)
    (hlive : Retains registry.state.operations id (isTerminal · = false))
    (result : OperationTaskResult) (completedAt : String) :
    ∃ answer reached,
      registry.finish id result.state result.observedGeneration result.error completedAt =
        (answer, reached) ∧ reached.Ordered ∧
      reached.state.nextOperation = registry.state.nextOperation ∧
      PhaseInv reached.state.operations id (.settled result answer) ∧
      ∀ other ∈ registry.state.operations, other.id ≠ id → other ∈ reached.state.operations := by
  obtain ⟨before, hmem, rfl, hstate⟩ := hlive
  obtain ⟨reached, hfinish, hupdated⟩ := update_of_mem h hmem
    (finishMutation_advances result.state result.observedGeneration result.error completedAt)
  refine ⟨_, reached, hfinish, hupdated.reached_ordered, hupdated.next_eq, ?_, hupdated.others⟩
  -- a task may hand back a state that is not terminal; the registry then refuses it
  by_cases hterminal : isTerminal result.state = true
  · rw [finishMutation_eq_ok.mpr ⟨hstate, hterminal, rfl⟩]
    rfl
  · have hrejected : finishMutation result.state result.observedGeneration result.error
        completedAt before = .error .invalidTransition := by
      simp [finishMutation, rejectIf, hterminal, bind, Except.bind]
    obtain rfl := hupdated.unchanged _ hrejected
    rw [hrejected]
    exact ⟨by simp, by simpa using hterminal, before, hmem, rfl, hstate⟩

/-- A submission that pushes out nothing unfinished. -/
theorem WorkersInv.create (h : WorkersInv service.registry service.workers) {request : NewOperation}
    (hevict : service.Evictable (.create request)) :
    let created := service.registry.create request
    WorkersInv created.2 (service.workers ++ [⟨created.1.id, .accepted⟩]) := by
  have hnext : (service.registry.create request).2.state.nextOperation.toNat =
      service.registry.state.nextOperation.toNat + 1 :=
    toNat_saturatingAdd_one (toNat_lt_of_ne_maxWord hevict.1)
  intro created
  refine ⟨create_ordered h.ordered hevict.1 request, ?_, fun worker hworker => ?_,
    fun worker hworker => ?_⟩
  · rw [List.map_append]
    refine h.ids_nodup.append (List.nodup_singleton _) ?_
    -- the new ID has a number that no worker had before
    intro id hold hnew
    obtain ⟨worker, hworker, rfl⟩ := List.mem_map.mp hold
    obtain ⟨number, hlt, hid⟩ := h.ids_old worker hworker
    have hnumber : worker.id = operationId service.registry.state.nextOperation.toNat :=
      List.mem_singleton.mp hnew
    exact absurd (operationId_injective (hid.symm.trans hnumber)) hlt.ne
  · rcases List.mem_append.mp hworker with hold | hnew
    · obtain ⟨number, hlt, hid⟩ := h.ids_old worker hold
      exact ⟨number, by rw [hnext]; omega, hid⟩
    · obtain rfl := List.mem_singleton.mp hnew
      exact ⟨service.registry.state.nextOperation.toNat, by rw [hnext]; omega, rfl⟩
  · rcases List.mem_append.mp hworker with hold | hnew
    · refine (h.phases worker hold).mono fun operation hmem _ hlive => ?_
      exact mem_create_of_live hevict hmem hlive
    · obtain rfl := List.mem_singleton.mp hnew
      exact ⟨_, mem_pushBounded_self, rfl, rfl⟩

/-- Every step that meets the guard keeps the workers in order. -/
theorem workersInv_step {next : Service} {label : ServiceLabel}
    (h : WorkersInv service.registry service.workers) (hevict : service.Evictable label)
    (hstep : service.step label = some next) : WorkersInv next.registry next.workers := by
  cases label with
  | acquire =>
      simp only [step] at hstep
      split at hstep <;> obtain rfl := Option.some.inj hstep <;> exact h
  | create request =>
      simp only [step] at hstep
      split at hstep <;> cases hstep
      exact h.create hevict
  | spawn id =>
      simp only [step] at hstep
      split at hstep <;> cases hstep
      next hphase =>
        obtain ⟨operation, hmem, hid, hqueued⟩ := phaseInv_of_phaseOf h hphase
        exact h.setPhase_same ⟨operation, hmem, hid, hqueued⟩
  | spawnFails id =>
      simp only [step] at hstep
      split at hstep <;> cases hstep
      next hphase =>
        obtain ⟨operation, hmem, hid, hqueued⟩ := phaseInv_of_phaseOf h hphase
        exact h.setPhase_same ⟨operation, hmem, hid, by rw [hqueued]; rfl⟩
  | start id =>
      simp only [step] at hstep
      split at hstep
      case h_1 hphase =>
        obtain ⟨operation, reached, hstart, hordered, hnext, hrunning, hothers⟩ :=
          start_of_queued h.ordered (phaseInv_of_phaseOf h hphase)
        rw [hstart] at hstep
        cases hstep
        exact h.setPhase hordered hnext hothers hrunning
      case h_2 => cases hstep
  | taskReturns id result =>
      simp only [step] at hstep
      split at hstep <;> cases hstep
      next hphase =>
        obtain ⟨operation, hmem, hid, hrunning⟩ := phaseInv_of_phaseOf h hphase
        exact h.setPhase_same ⟨operation, hmem, hid, by rw [hrunning]; rfl⟩
  | finish id completedAt =>
      simp only [step] at hstep
      split at hstep
      case h_1 result hphase =>
        obtain ⟨answer, reached, hfinish, hordered, hnext, hsettled, hothers⟩ :=
          finish_of_live h.ordered (phaseInv_of_phaseOf h hphase) result completedAt
        rw [hfinish] at hstep
        cases hstep
        exact h.setPhase hordered hnext hothers hsettled
      case h_2 => cases hstep

/-- Workers in order are observable. -/
theorem WorkersInv.observable
    (h : WorkersInv service.registry service.workers) : Observable service := by
  refine ⟨fun worker hworker hrecorded => ?_, fun worker hworker error hskipped => ?_,
    fun worker hworker result answer hsettled => ?_⟩
  · obtain ⟨operation, hmem, hid, hlive⟩ := (h.phases worker hworker).live hrecorded
    exact ⟨operation, hid ▸ get_of_mem h.ordered hmem, hlive⟩
  · have hphase := h.phases worker hworker
    rw [hskipped] at hphase
    exact hphase
  · have hphase := h.phases worker hworker
    rw [hsettled] at hphase
    cases answer with
    | ok operation => exact ⟨by simp, fun _ => ⟨operation, rfl, hphase⟩⟩
    | error error =>
        refine ⟨fun heq => hphase.1 (Except.error.inj heq), fun hterminal => ?_⟩
        exact absurd hterminal (by simp [hphase.2.1])

/-- Accepted operations stay observable in every run in which no submission pushes out an
unfinished operation. -/
theorem observable_of_guarded_run {operationCapacity eventCapacity : ℕ} {limiter : ServiceLimiter}
    (hregistry : new operationCapacity eventCapacity = .ok registry)
    {labels : List ServiceLabel} {reached : Service}
    (hguarded : Guarded step Evictable (.idle registry limiter) labels)
    (hrun : run step (.idle registry limiter) labels = some reached) :
    Observable reached := by
  let inv (service : Service) : Prop := WorkersInv service.registry service.workers
  have hstart : inv (.idle registry limiter) :=
    ⟨(registryInv_new hregistry).operations, List.nodup_nil, by simp [idle],
      by simp [idle]⟩
  have hstep : ∀ service label next, inv service → service.Evictable label →
      service.step label = some next → inv next :=
    fun _ _ _ => workersInv_step
  have hreached : inv reached := run_invariant hstep hstart hguarded hrun
  exact hreached.observable

/-- Submit a request and let its worker come to the end before anything else happens. -/
def promptRun (id : OperationId) (request : NewOperation) : List ServiceLabel :=
  [.acquire, .create request, .spawn id, .start id, .taskReturns id ⟨.succeeded, none, none⟩,
    .finish id "later"]

/-- A request to start an instance. -/
def startRequest : NewOperation :=
  ⟨.startInstance, ⟨1⟩, [⟨.instance, "1"⟩], none, none, "now"⟩

/-- An idle service for `count` operations, all of which may run at a time. -/
def idleService (count : ℕ) (hpos : 0 < count) : Service :=
  .idle ⟨count, 1, ⟨1, 1, ⟨0⟩, [], []⟩, hpos, Nat.one_pos⟩ ⟨⟨1, count, 1⟩, ⟨0, 0, 0⟩⟩

/-- Two operations one after the other in a registry for one: the second pushes out the
first, which is over. -/
theorem observable_of_guarded_run_prompt : ∃ registry limiter reached, new 1 1 = .ok registry ∧
      ServiceLimiter.new ⟨1, 1, 1⟩ = .ok limiter ∧
      run step (.idle registry limiter)
        (promptRun ⟨"op-1"⟩ startRequest ++ promptRun ⟨"op-2"⟩ startRequest) = some reached ∧
      Observable reached := by
  let service := idleService 1 Nat.one_pos
  have hdone : (run step service
      (promptRun ⟨"op-1"⟩ startRequest ++ promptRun ⟨"op-2"⟩ startRequest)).isSome := by
    decide
  obtain ⟨reached, hrun⟩ := Option.isSome_iff_exists.mp hdone
  have hregistry : new 1 1 = .ok service.registry := rfl
  refine ⟨service.registry, service.limiter, reached, hregistry, rfl, hrun, ?_⟩
  exact observable_of_guarded_run hregistry (by decide) hrun

/-- The first operation is still running when a second one has come and gone and a third one
is submitted; then it succeeds. -/
def overtakenRun : List ServiceLabel :=
  [.acquire, .create startRequest, .spawn ⟨"op-1"⟩, .start ⟨"op-1"⟩] ++
    promptRun ⟨"op-2"⟩ startRequest ++
    [.acquire, .create startRequest,
      .taskReturns ⟨"op-1"⟩ ⟨.succeeded, none, none⟩, .finish ⟨"op-1"⟩ "later"]

/-- Overtaken in a registry for two, with never more than two permits out, an operation is
forgotten while it runs, and its success is turned away. -/
theorem slow_operation_evicted : ∃ registry limiter reached, new 2 1 = .ok registry ∧
      ServiceLimiter.new ⟨1, 2, 1⟩ = .ok limiter ∧
      run step (.idle registry limiter) overtakenRun = some reached ∧
      ⟨⟨"op-1"⟩, .settled ⟨.succeeded, none, none⟩ (.error .notFound)⟩ ∈ reached.workers ∧
      ¬ Observable reached := by
  let service := idleService 2 Nat.two_pos
  have hfirst : (run step service overtakenRun).bind (·.workers.head?) =
      some ⟨⟨"op-1"⟩, .settled ⟨.succeeded, none, none⟩ (.error .notFound)⟩ := by
    decide
  obtain ⟨reached, hrun, hhead⟩ := Option.bind_eq_some_iff.mp hfirst
  have hlost := List.mem_of_mem_head? hhead
  refine ⟨service.registry, service.limiter, reached, rfl, rfl, hrun, hlost, fun hobservable => ?_⟩
  exact (hobservable.recorded _ hlost _ _ rfl).1 rfl

end Kernmux.Daemon
