import Kernmux.Daemon.Cancellation

/-!
# Kernmux.Daemon.PublishedGenerations

**Which generations the registry publishes.** Every event carries the latest
generation of the registry, a running maximum over what operations speak for:
the generation that their client expected until they come to an end, then the
one that was observed. Executions observe generations of the host. The expected
generation is whatever the client has written, and imports of images report
generations of the image catalog, which is counted on its own.

So the registry publishes generations of the host (`PublishedReal`) as long as
clients expect no generation that the host has not had, and the catalog does
not run ahead of the host.
-/

namespace Kernmux.Daemon

open Api.V1 Kernmux.Core Library Inventory Lifecycle Scheduler OperationRegistry
open OperationRegistry (new of_new_eq_ok)

variable {τ ε κ : Type} {config : TaskConfig τ ε κ}

/-! ### Registries -/

/-- A generation, if there is one, up to a bound. -/
def GenerationWithin (bound : ℕ) (generation : Option Generation) : Prop :=
  ∀ value, generation = some value → value.val.toNat ≤ bound

/-- Everything that a registry publishes or may publish is up to a bound. -/
structure RegistryWithin (bound : ℕ) (registry : OperationRegistry) : Prop where
  latest : registry.state.latestGeneration.val.toNat ≤ bound
  events : ∀ event ∈ registry.state.events, event.snapshotGeneration.val.toNat ≤ bound
  expected : ∀ operation ∈ registry.state.operations, operation.expectedGeneration.val.toNat ≤ bound
  observed : ∀ operation ∈ registry.state.operations,
    GenerationWithin bound operation.observedGeneration

section Registry

variable {bound : ℕ} {registry : OperationRegistry}

theorem GenerationWithin.mono {bound' : ℕ} {generation : Option Generation}
    (h : GenerationWithin bound generation) (hle : bound ≤ bound') :
    GenerationWithin bound' generation :=
  fun value hvalue => (h value hvalue).trans hle

theorem RegistryWithin.mono {bound' : ℕ} (h : RegistryWithin bound registry)
    (hle : bound ≤ bound') : RegistryWithin bound' registry :=
  ⟨h.latest.trans hle, fun event hevent => (h.events event hevent).trans hle,
    fun operation hoperation => (h.expected operation hoperation).trans hle,
    fun operation hoperation => (h.observed operation hoperation).mono hle⟩

theorem latest_le {current reported : Generation} (hcurrent : current.val.toNat ≤ bound)
    (hreported : reported.val.toNat ≤ bound) : (latest current reported).val.toNat ≤ bound := by
  unfold OperationRegistry.latest
  split
  · exact hreported
  · exact hcurrent

theorem operationGeneration_le {operation : Operation}
    (hexpected : operation.expectedGeneration.val.toNat ≤ bound)
    (hobserved : GenerationWithin bound operation.observedGeneration) :
    (operationGeneration operation).val.toNat ≤ bound := by
  unfold operationGeneration
  cases hgeneration : operation.observedGeneration with
  | none => exact hexpected
  | some value => exact hobserved value hgeneration

/-- The registry replaces its operations and publishes an event for one of them. -/
theorem RegistryWithin.publish (h : RegistryWithin bound registry) {next : UInt64}
    {operations : List Operation} {operation : Operation}
    (hexpected : operation.expectedGeneration.val.toNat ≤ bound)
    (hobserved : GenerationWithin bound operation.observedGeneration)
    (hoperations : ∀ other ∈ operations, other ∈ registry.state.operations ∨ other = operation) :
    RegistryWithin bound { registry with
      state := publishOperationEvent registry.eventCapacity
        { registry.state with nextOperation := next, operations := operations } operation } := by
  have hlatest : (OperationRegistry.latest registry.state.latestGeneration
      (operationGeneration operation)).val.toNat ≤ bound :=
    latest_le h.latest (operationGeneration_le hexpected hobserved)
  refine ⟨hlatest, fun event hevent => ?_, fun other hother => ?_, fun other hother => ?_⟩
  · rcases mem_of_mem_pushBounded hevent with hold | rfl
    · exact h.events event hold
    · exact hlatest
  · rcases hoperations other hother with hold | rfl
    · exact h.expected other hold
    · exact hexpected
  · rcases hoperations other hother with hold | rfl
    · exact h.observed other hold
    · exact hobserved

theorem RegistryWithin.create (h : RegistryWithin bound registry) {request : NewOperation}
    (hexpected : request.expectedGeneration.val.toNat ≤ bound) :
    RegistryWithin bound (registry.create request).2 :=
  h.publish hexpected (fun _ hvalue => nomatch hvalue) fun _ => mem_of_mem_pushBounded

theorem RegistryWithin.update (h : RegistryWithin bound registry) {id : OperationId}
    {mutation : Operation → Except OperationRegistryError Operation}
    (hmutation : ∀ before after, mutation before = .ok after →
      after.expectedGeneration = before.expectedGeneration ∧
        (GenerationWithin bound before.observedGeneration →
          GenerationWithin bound after.observedGeneration)) :
    RegistryWithin bound (registry.update id mutation).2 := by
  unfold OperationRegistry.update
  split
  · exact h
  · next before hget =>
      split
      · exact h
      · next after hafter =>
          have hmem : before ∈ registry.state.operations := List.mem_of_find?_eq_some hget
          obtain ⟨hexpected, hobserved⟩ := hmutation before after hafter
          exact h.publish (hexpected ▸ h.expected before hmem) (hobserved (h.observed before hmem))
            fun _ => List.mem_or_eq_of_mem_set

theorem RegistryWithin.start (h : RegistryWithin bound registry) (id : OperationId) :
    RegistryWithin bound (registry.start id).2 := by
  refine h.update fun before after hmutation => ?_
  simp only [startMutation, guard_eq_ok, pure_eq_ok] at hmutation
  obtain ⟨-, rfl⟩ := hmutation
  exact ⟨rfl, fun hobserved => hobserved⟩

theorem RegistryWithin.finish (h : RegistryWithin bound registry) (id : OperationId)
    (state : OperationState) {observedGeneration : Option Generation} (error : Option ApiError)
    (completedAt : String) (hobserved : GenerationWithin bound observedGeneration) :
    RegistryWithin bound (registry.finish id state observedGeneration error completedAt).2 := by
  refine h.update fun before after hmutation => ?_
  simp only [finishMutation, guard_eq_ok, pure_eq_ok] at hmutation
  obtain ⟨-, rfl⟩ := hmutation
  exact ⟨rfl, fun _ => hobserved⟩

end Registry

/-! ### Tasks -/

section Tasks

variable {bound : ℕ} {world : World τ} {registry : OperationRegistry} {worker : TaskWorker ε κ}
  {moved : TaskWorker.Moved τ ε κ}

theorem Judged.mono {bound' : ℕ} {kind : ActionKind} {answer : ActionAnswer ε kind}
    (h : Judged bound kind answer) (hle : bound ≤ bound') : Judged bound' kind answer := by
  cases kind with
  | lifecycle
  | resourcePool => exact fun outcome hok => ⟨(h outcome hok).1, (h outcome hok).2.trans hle⟩
  | importImage => exact trivial
  | resolve => exact h

theorem within_none : GenerationWithin bound none := fun _ hvalue => nomatch hvalue

theorem within_some {generation : Generation} (h : generation.val.toNat ≤ bound) :
    GenerationWithin bound (some generation) := by
  intro value hvalue
  cases hvalue
  exact h

/-- Tasks that import nothing report generations of the host, or none. -/
theorem reports_within (request : TaskRequest) (hhost : request.importsImage = false) :
    Reports (fun kind (answer : ActionAnswer ε kind) => Judged bound kind answer)
      (fun result => GenerationWithin bound result.observedGeneration) request where
  cancelled := within_none
  panicked := within_none
  unspawned := within_none
  lifecycle answer hanswer := by
    cases answer with
    | error error => exact within_none
    | ok outcome => exact within_some (hanswer outcome rfl).2
  resourcePool answer hanswer := by
    cases answer with
    | error error => exact within_none
    | ok outcome => exact within_some (hanswer outcome rfl).2
  imports himports := nomatch hhost.symm.trans himports
  unresolved error hanswer := by
    cases error with
    | staleGeneration expected actual => exact absurd rfl (hanswer expected actual)
    | generationExhausted | store error => exact within_none

/-- Whatever generations the host will have had by then, a worker that imports nothing reports
one of them, or none. -/
def ReportsHost (inventory : InventoryService τ) (worker : TaskWorker ε κ) : Prop :=
  worker.request.importsImage = false → ∀ bound, hostGeneration inventory ≤ bound →
    worker.phase.Yields inventory (Judged bound)
      fun result => GenerationWithin bound result.observedGeneration

theorem reportsHost_invariant (guard : TaskService τ ε κ → TaskLabel τ → Prop) :
    WorkerInvariant config guard ReportsHost := by
  refine ⟨fun _ _ _ _ _ _ => trivial, fun _ _ _ hlater h hhost bound hbound => ?_,
    fun world registry worker moved h heffect hhost bound hbound => ?_, fun _ _ _ h => h,
    fun _ _ _ _ _ _ _ _ h => h⟩
  · exact (h hhost bound (hlater.generation_le.trans hbound)).later hlater
  · rw [heffect.keeps.2] at hhost
    refine heffect.yields (reports_within worker.request hhost) (fun _ _ h => h.mono hbound) ?_
    exact h hhost bound (heffect.later.generation_le.trans hbound)

/-- The generation that a worker is about to record, if it has imported something, is up to a
bound. -/
def TaskWorker.importWithin (worker : TaskWorker ε κ) (bound : ℕ) : Bool :=
  match worker.phase with
  | .returned result =>
      !worker.request.importsImage || result.observedGeneration.all (·.val.toNat ≤ bound)
  | _ => true

theorem ReportsHost.returned (h : ReportsHost world.inventory worker)
    {result : OperationTaskResult} (hphase : worker.phase = .returned result)
    (himport : worker.importWithin (hostGeneration world.inventory) = true) :
    GenerationWithin (hostGeneration world.inventory) result.observedGeneration := by
  cases hhost : worker.request.importsImage with
  | false =>
      have hyields := h hhost _ (Nat.le_refl _)
      rw [hphase] at hyields
      exact hyields
  | true =>
      intro value hvalue
      simp only [TaskWorker.importWithin, hphase, hhost, hvalue, Option.all_some, Bool.not_true,
        Bool.false_or, decide_eq_true_eq] at himport
      exact himport

theorem WorkerEffect.within (h : WorkerEffect config world registry worker moved)
    (hregistry : RegistryWithin bound registry)
    (hreturned : ∀ result, worker.phase = .returned result →
      GenerationWithin bound result.observedGeneration) :
    RegistryWithin bound moved.registry := by
  cases h with
  | started hphase hstart | refused hphase hstart =>
      have hnext := hregistry.start worker.id
      rw [hstart] at hnext
      exact hnext
  | finished completedAt hphase => exact hregistry.finish _ _ _ _ (hreturned _ hphase)
  | spawned | spawnFailed | unguarded | returned | passed | turnedAway | locked | unlocked
  | continued | answered | stopped | panicked | exited => exact hregistry

end Tasks

/-! ### Runs -/

/-- A new operation expects a generation that the host has had, and the catalog generation that
is recorded for an import is not ahead of the host. -/
def TaskService.Genuine (service : TaskService τ ε κ) : TaskLabel τ → Prop
  | .create index =>
      (service.admitted[index]?).all (fun submission =>
        submission.operation.expectedGeneration.val.toNat ≤
          hostGeneration service.world.inventory) = true
  | .worker index _ =>
      (service.workers[index]?).all
        (·.importWithin (hostGeneration service.world.inventory)) = true
  | _ => True

instance (service : TaskService τ ε κ) : (label : TaskLabel τ) → Decidable (service.Genuine label)
  | .create _ => inferInstanceAs (Decidable (_ = true))
  | .worker .. => inferInstanceAs (Decidable (_ = true))
  | .submit .. | .cancel _ | .retain _ | .reap | .drain | .refresh | .refreshCatalog _ | .elapse _
  | .acquire .. | .release .. => inferInstanceAs (Decidable True)

/-- Published generations are generations that the host has had. -/
structure PublishedReal (service : TaskService τ ε κ) : Prop where
  latest : service.registry.state.latestGeneration.val.toNat ≤
    hostGeneration service.world.inventory
  events : ∀ event ∈ service.registry.state.events,
    event.snapshotGeneration.val.toNat ≤ hostGeneration service.world.inventory

/-- What is kept along a run. -/
structure PublishesHost (service : TaskService τ ε κ) : Prop where
  workers : WorkersKeep ReportsHost service
  registry : RegistryWithin (hostGeneration service.world.inventory) service.registry

theorem PublishesHost.step {service next : TaskService τ ε κ} {label : TaskLabel τ}
    (h : PublishesHost service) (hgenuine : service.Genuine label)
    (heffect : ServiceEffect config service label next) : PublishesHost next := by
  refine ⟨h.workers.step (reportsHost_invariant TaskService.Genuine) hgenuine heffect, ?_⟩
  refine RegistryWithin.mono ?_ heffect.later.generation_le
  cases heffect with
  | quiet hworkers hregistry =>
      rw [hregistry]
      exact h.registry
  | admitted submission hroom | retained hworker hhandle | cancelled hfind hworker =>
      exact h.registry
  | created hsubmission =>
      simp only [TaskService.Genuine, hsubmission, Option.all_some, decide_eq_true_eq] at hgenuine
      exact h.registry.create hgenuine
  | moved hworker hmoves =>
      simp only [TaskService.Genuine, hworker, Option.all_some] at hgenuine
      have hreports := h.workers.workers _ (List.mem_of_getElem? hworker)
      exact hmoves.within h.registry fun result hphase => hreports.returned hphase hgenuine

/-- **Published generations are real** in every run in which clients expect no other and the
catalog is not ahead. -/
theorem publishedReal_of_genuine_run {world : World τ} {operationCapacity eventCapacity : ℕ}
    {registry : OperationRegistry} {limiter : ServiceLimiter}
    (hregistry : new operationCapacity eventCapacity = .ok registry)
    {labels : List (TaskLabel τ)} {reached : TaskService τ ε κ}
    (hguarded : Guarded (TaskService.step config) TaskService.Genuine (.new world registry limiter)
      labels)
    (hrun : run (TaskService.step config) (.new world registry limiter) labels = some reached) :
    PublishedReal reached := by
  obtain ⟨-, -, hstate⟩ := of_new_eq_ok hregistry
  have hstart : PublishesHost (.new world registry limiter : TaskService τ ε κ) := by
    refine ⟨⟨List.forall_mem_nil _, List.forall_mem_nil _,
      List.forall_mem_nil _⟩, ?_⟩
    simp only [TaskService.new]
    refine ⟨?_, ?_, ?_, ?_⟩ <;> rw [hstate]
    · exact Nat.zero_le _
    · exact List.forall_mem_nil _
    · exact List.forall_mem_nil _
    · exact List.forall_mem_nil _
  have hstep : ∀ (service : TaskService τ ε κ) label next, PublishesHost service →
      service.Genuine label → service.step config label = some next → PublishesHost next :=
    fun _ _ _ h hgenuine hstep => h.step hgenuine (service_effect hstep)
  have hreached : PublishesHost reached := run_invariant hstep hstart hguarded hrun
  exact ⟨hreached.registry.latest, hreached.registry.events⟩

theorem publishedReal_of_genuine_run_pool :
    ∃ (registry : OperationRegistry) (limiter : ServiceLimiter)
      (reached : TaskService HostObservations Unit Unit),
      new 1 4 = .ok registry ∧
      Guarded (TaskService.step smallConfig) TaskService.Genuine (.new smallWorld registry limiter)
        (.refresh :: poolRun) ∧
      run (TaskService.step smallConfig) (.new smallWorld registry limiter) (.refresh :: poolRun) =
        some reached ∧
      reached.registry.state.events.map Event.snapshotGeneration = [⟨1⟩, ⟨1⟩, ⟨2⟩] ∧
      PublishedReal reached := by
  let registry : OperationRegistry := ⟨1, 4, ⟨1, 1, ⟨0⟩, [], []⟩, Nat.one_pos, by decide⟩
  let limiter : ServiceLimiter := ⟨⟨1, 2, 1⟩, ⟨0, 0, 0⟩⟩
  have hregistry : new 1 4 = .ok registry := rfl
  have hguarded : Guarded (TaskService.step smallConfig) TaskService.Genuine
      (.new smallWorld registry limiter) (.refresh :: poolRun) := by decide
  have hdone : (run (TaskService.step smallConfig) (.new smallWorld registry limiter)
      (.refresh :: poolRun)).map
      (fun service => service.registry.state.events.map Event.snapshotGeneration) =
      some [⟨1⟩, ⟨1⟩, ⟨2⟩] := by decide
  obtain ⟨reached, hrun, hevents⟩ := Option.map_eq_some_iff.mp hdone
  exact ⟨registry, limiter, reached, hregistry, hguarded, hrun, hevents,
    publishedReal_of_genuine_run hregistry hguarded hrun⟩

/-- A client that expects generation 99. -/
def expectNinetyNine : TaskLabel HostObservations :=
  .submit (.lifecycle (.start ⟨⟨99⟩, ⟨1⟩⟩) .startInstance ⟨99⟩ ⟨1⟩)
    ⟨fun _ => none, fun _ => none⟩ ⟨7, ⟨0, 0, none⟩⟩ none "now"

/-- The host has generation 1, and the registry publishes what the client has made up. -/
theorem expected_generation_published : ∃ (registry : OperationRegistry) (limiter : ServiceLimiter)
      (reached : TaskService HostObservations Unit Unit),
      new 1 1 = .ok registry ∧
      run (TaskService.step smallConfig) (.new smallWorld registry limiter)
        [.refresh, expectNinetyNine, .create 0] = some reached ∧
      hostGeneration reached.world.inventory = 1 ∧
      reached.registry.state.latestGeneration = ⟨99⟩ ∧
      reached.registry.state.events.map Event.snapshotGeneration = [⟨99⟩] :=
  ⟨⟨1, 1, ⟨1, 1, ⟨0⟩, [], []⟩, Nat.one_pos, Nat.one_pos⟩, ⟨⟨1, 2, 1⟩, ⟨0, 0, 0⟩⟩, _, rfl, rfl, rfl,
    rfl, rfl⟩

end Kernmux.Daemon
