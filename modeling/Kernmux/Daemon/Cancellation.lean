import Kernmux.Daemon.HostApiSound
import Kernmux.Daemon.Settlement

/-!
# Kernmux.Daemon.Cancellation

**What cancelling an operation means.** A task looks at its token before it
waits for a mutex and, in all tasks but one, again when it has the mutex. What
it does after the last of these checks cannot be called off.

An operation that ends cancelled is untouched (`CancelledUntouched`): its task
has neither invoked Kerf nor called the image store. Once it has invoked Kerf,
nothing holds it up any more, and it comes to its end with a reconciled result.
The record of an operation says the same, unless the registry has run out of
numbers and another operation has the same ID.
-/

namespace Kernmux.Daemon

open Api.V1 Kernmux.Core Library Inventory Lifecycle Scheduler OperationRegistry TaskLabel
  OperationTaskResult ActionStage

variable {τ ε κ : Type} {config : TaskConfig τ ε κ}

/-! ### After the mutation -/

/-- The worker has invoked Kerf or called the image store to import something. -/
def TaskWorker.mutated (worker : TaskWorker ε κ) : Bool :=
  worker.trace.kerf || worker.trace.imported

/-- Resolving artifacts changes nothing. -/
def ActionKind.Decisive (kind : ActionKind) : Prop := kind ≠ .resolve

theorem not_decisive_resolve : ¬ ActionKind.resolve.Decisive := fun h => h rfl

/-- The result does not say that the operation was cancelled. -/
def OperationTaskResult.NotCancelled (result : OperationTaskResult) : Prop :=
  result.state ≠ .cancelled

section Mutated

variable {world : World τ} {registry : OperationRegistry} {worker : TaskWorker ε κ}
  {moved : TaskWorker.Moved τ ε κ}

theorem mutated_eq_false : worker.mutated = false ↔
    worker.trace.kerf = false ∧ worker.trace.imported = false := by
  simp [TaskWorker.mutated]

theorem decisive_of_mutated_acts {kind : ActionKind} {stage : ActionStage ε κ kind}
    (h : (worker.acts kind stage).mutated = true) : worker.mutated = true ∨ kind.Decisive := by
  cases kind with
  | resolve =>
      refine .inl ?_
      simpa [TaskWorker.mutated, TaskWorker.acts, invokesKerf] using h
  | lifecycle | resourcePool | importImage => exact .inr nofun

/-- Only a decisive action mutates something. -/
theorem WorkerEffect.mutates (h : WorkerEffect config world registry worker moved)
    (hmutated : moved.worker.mutated = true) : worker.mutated = true ∨
      ∃ kind stage rest, worker.phase = .running (.act kind stage rest) ∧ kind.Decisive := by
  cases h with
  | continued hphase hperform | answered hphase hperform | stopped hphase hperform =>
      rcases decisive_of_mutated_acts hmutated with hbefore | hdecisive
      · exact .inl hbefore
      · exact .inr ⟨_, _, _, hphase, hdecisive⟩
  | spawned | spawnFailed | started | refused | unguarded | returned | passed | turnedAway
  | locked | unlocked | panicked | finished | exited => exact .inl hmutated

theorem notCancelled_of_concluded {result : OperationTaskResult} (h : Concluded result.state) :
    result.NotCancelled := by
  intro hcancelled
  rw [hcancelled] at h
  rcases h with h | h | h <;> cases h

theorem decides_runLifecycle (request : LifecycleRequest) :
    (runLifecycle request : Task ε κ).Decides ActionKind.Decisive Reliable
      NotCancelled := by
  refine ⟨fun _ answer hanswer => ⟨_, rfl, ?_⟩, fun _ => trivial⟩
  obtain ⟨bound, hjudged⟩ := hanswer
  cases answer with
  | error error => exact nofun
  | ok outcome => exact notCancelled_of_concluded (hjudged outcome rfl).1

/-- After Kerf or an import a task has nothing left to do but to report. -/
theorem decides_task (request : TaskRequest) :
    (request.task : Task ε κ).Decides ActionKind.Decisive Reliable
      NotCancelled := by
  have himport : ∀ answer, (importTaskResult answer).NotCancelled := by
    intro answer
    cases answer with
    | error error | ok imported => exact nofun
  cases request with
  | lifecycle request kind expectedGeneration instanceId => exact decides_runLifecycle request
  | resourcePool mutation =>
      refine ⟨fun _ answer hanswer => ⟨_, rfl, ?_⟩, fun _ => trivial⟩
      obtain ⟨bound, hjudged⟩ := hanswer
      cases answer with
      | error error => exact nofun
      | ok outcome => exact notCancelled_of_concluded (hjudged outcome rfl).1
  | imageImport kind boot expectedGeneration expectedId
  | osImageImport expectedGeneration label architecture expectedId =>
      exact ⟨fun _ answer _ => ⟨_, rfl, himport answer⟩, fun _ => trivial⟩
  | managedLoad request =>
      refine ⟨fun hdecisive => absurd rfl hdecisive, fun answer => ?_⟩
      cases answer with
      | error error => exact trivial
      | ok paths => exact decides_runLifecycle _

/-- An execution that has invoked Kerf is about to look at the host again, or has done so. -/
def TaskPhase.Reconciled (trace : Trace) : TaskPhase ε κ → Prop
  | .running (.act kind stage _) => reconciles kind stage = true
  | _ => trace.reconciled = true

/-- A worker with what is known of its task before and after it has mutated something. -/
structure Orderly (inventory : InventoryService τ) (worker : TaskWorker ε κ) : Prop where
  holds : worker.phase.Holds (worker.mutated = false)
    (fun task =>
      task.Yields (StageReady inventory) Reliable (fun result => isTerminal result.state = true) ∧
        task.Decides ActionKind.Decisive Reliable NotCancelled ∧
        (worker.mutated = true → task.AtLast Reliable NotCancelled))
    (fun result => worker.mutated = true → result.NotCancelled)
  reconciled : worker.trace.kerf = true → worker.trace.panicked = false →
    worker.phase.Reconciled worker.trace

theorem mutated_of_kerf (h : worker.trace.kerf = true) : worker.mutated = true := by
  rw [TaskWorker.mutated, h, Bool.true_or]

theorem Orderly.later {inventory next : InventoryService τ} (h : Orderly inventory worker)
    (hlater : Later inventory next) : Orderly next worker := by
  refine ⟨h.holds.mono fun task htask => ?_, h.reconciled⟩
  exact ⟨Program.Yields.mono htask.1 (StageReady.later hlater), htask.2⟩

/-- The properties of task and result go along. -/
theorem Orderly.holds_step (h : Orderly world.inventory worker)
    (heffect : WorkerEffect config world registry worker moved) :
    moved.worker.phase.Holds (moved.worker.mutated = false)
      (fun task =>
        task.Yields (StageReady moved.world.inventory) Reliable
            (fun result => isTerminal result.state = true) ∧
          task.Decides ActionKind.Decisive Reliable NotCancelled ∧
          (moved.worker.mutated = true → task.AtLast Reliable NotCancelled))
      (fun result => moved.worker.mutated = true → result.NotCancelled) := by
  refine heffect.holds h.holds (fun _ _ _ hact => hact.1.1) (fun hquiet => ?_) ?_ ?_ ?_
  · -- without a task nothing is mutated
    have hkept : moved.worker.mutated = true → worker.mutated = true := by
      intro hmutated
      rcases heffect.mutates hmutated with hbefore | ⟨kind, stage, rest, hphase, -⟩
      · exact hbefore
      · exact absurd hphase (hquiet _)
    refine ⟨fun hidle => ?_, fun hidle => ?_, fun _ _ _ _ => nofun, fun _ _ hvalue hmutated =>
      hvalue (hkept hmutated)⟩
    · exact Bool.eq_false_iff.mpr fun hmutated => Bool.eq_false_iff.mp hidle (hkept hmutated)
    · exact ⟨(reports_terminal _).yields_task, decides_task _, fun hmutated =>
        absurd (hkept hmutated) (Bool.eq_false_iff.mp hidle)⟩
  · exact fun _ _ _ _ => ⟨rfl, trivial, fun _ => nofun⟩
  · intro value hphase hdone
    have hkept : moved.worker.mutated = true → value.NotCancelled := by
      intro hmutated
      rcases heffect.mutates hmutated with hbefore | ⟨kind, stage, rest, hact, -⟩
      · exact hdone.2.2 hbefore
      · cases hphase.symm.trans hact
    exact ⟨⟨hdone.1, trivial, hkept⟩, hkept⟩
  · intro task next hphase htask hstep _
    obtain ⟨hyields, hdecides, hlast⟩ := htask
    refine ⟨hyields.step rfl hstep (fun _ _ _ _ hgoes => hgoes.ready)
      (fun _ _ _ _ hanswers => ⟨_, hanswers.judged⟩) (StageReady.later heffect.later),
      hdecides.step hstep, fun hmutated => ?_⟩
    refine Program.AtLast.step ?_ hstep fun _ _ _ _ _ hanswers => ⟨_, hanswers.judged⟩
    rcases heffect.mutates hmutated with hbefore | ⟨kind, stage, rest, hact, hdecisive⟩
    · exact hlast hbefore
    · obtain rfl := TaskPhase.running.inj (hphase.symm.trans hact)
      exact hdecides.1 hdecisive

/-- So does what is known of a Kerf run. -/
theorem Orderly.reconciled_step (h : Orderly world.inventory worker)
    (heffect : WorkerEffect config world registry worker moved)
    (hkerf : moved.worker.trace.kerf = true) (hcalm : moved.worker.trace.panicked = false) :
    moved.worker.phase.Reconciled moved.worker.trace := by
  have hholds := h.holds
  have hreconciled := h.reconciled
  cases heffect with
  | spawned hphase | spawnFailed hphase | refused hphase hstart | returned hphase hheld
  | finished completedAt hphase =>
      rw [hphase] at hreconciled
      exact hreconciled hkerf hcalm
  | started hphase hstart =>
      rw [hphase] at hholds
      exact absurd (mutated_of_kerf hkerf) (Bool.eq_false_iff.mp hholds)
  | unguarded hphase | exited hended => exact hreconciled hkerf hcalm
  | passed hphase hflag | turnedAway hphase hflag | locked hphase | unlocked hphase =>
      -- nothing of this kind is left after Kerf
      rw [hphase] at hholds
      exact absurd (hholds.2.2 (mutated_of_kerf hkerf)) not_false
  | @continued kind stage later rest reached source replies hphase hperform =>
      rw [hphase] at hholds hreconciled
      have hgoes : Goes _ _ _ _ := perform_spec hperform hholds.1.1
      show reconciles kind later = true
      rw [hgoes.invokes]
      rcases (Bool.or_eq_true _ _).mp hkerf with hbefore | hinvokes
      · exact nomatch hgoes.reconciles.symm.trans (hreconciled hbefore hcalm)
      · exact hinvokes
  | @answered kind stage answer rest reached source replies hphase hperform =>
      rw [hphase] at hholds hreconciled
      have hanswers : Answers _ _ _ _ := perform_spec hperform hholds.1.1
      rcases (Bool.or_eq_true _ _).mp hkerf with hbefore | hinvokes
      · obtain ⟨result, hdone, -⟩ :=
          hholds.2.2 (mutated_of_kerf hbefore) answer ⟨_, hanswers.judged⟩
        have hstage := hreconciled hbefore hcalm
        show TaskPhase.Reconciled _ (.running (rest answer))
        rw [hdone]
        show (_ || (reconciles kind stage && ActionAnswer.isOutcome kind answer)) = true
        rw [show reconciles kind stage = true from hstage, hanswers.reconciles hstage,
          Bool.and_true, Bool.or_true]
      · cases hanswers.invokes.symm.trans hinvokes
  | stopped hphase hperform | panicked hphase => cases hcalm

theorem orderly_invariant : WorkerInvariant config (fun _ _ => True) Orderly := by
  refine ⟨fun _ _ _ => ⟨rfl, nofun⟩, fun _ _ _ hlater h => h.later hlater,
    fun _ _ _ _ h heffect => ⟨h.holds_step heffect, h.reconciled_step heffect⟩,
    fun _ _ _ h => ⟨h.holds, h.reconciled⟩, fun _ _ _ _ _ _ _ _ h => ⟨h.holds, h.reconciled⟩⟩

end Mutated

/-! ### Nothing holds up a worker that has invoked Kerf -/

/-- The worker at `index` comes to its end by steps of its own, without a panic, with a reconciled
result. -/
def Concludes (config : TaskConfig τ ε κ) (index : ℕ) (service : TaskService τ ε κ) : Prop :=
  ∃ labels reached worker, (∀ label ∈ labels, ∃ own, label = .worker index own ∧ own ≠ .panic) ∧
    run (TaskService.step config) service labels = some reached ∧
    reached.workers[index]? = some worker ∧ worker.trace.reconciled = true ∧
    ∃ result answer, worker.phase = .settled result answer ∧ result.NotCancelled

section Concludes

variable {service : TaskService τ ε κ} {index : ℕ} {worker : TaskWorker ε κ}

section

variable (hworker : service.workers[index]? = some worker)

include hworker

theorem Concludes.step {label : WorkerLabel} {moved : TaskWorker.Moved τ ε κ}
    (hstep : worker.step config service.locked service.world service.registry label = some moved)
    (hlabel : label ≠ .panic)
    (h : Concludes config index (service.move index moved)) : Concludes config index service := by
  obtain ⟨labels, reached, final, hown, hrun, hfinal⟩ := h
  have hnext : service.step config (.worker index label) = some (service.move index moved) := by
    simp only [TaskService.step, hworker, hstep, Option.map_some]
  refine ⟨.worker index label :: labels, reached, final, ?_, run_cons.mpr ⟨_, hnext, hrun⟩, hfinal⟩
  intro other hother
  rcases List.mem_cons.mp hother with rfl | hother
  · exact ⟨label, rfl, hlabel⟩
  · exact hown other hother

theorem getElem?_move (moved : TaskWorker.Moved τ ε κ) :
    (service.move index moved).workers[index]? = some moved.worker :=
  List.getElem?_set_self (List.getElem?_eq_some_iff.mp hworker).1

/-- An import that finds nothing, and a disk that does what it is told. -/
def quietAdvance : WorkerLabel := .advance ⟨none, .ok (true, 0), [], none, []⟩ fun _ => .done

omit hworker in
theorem quietAdvance_ne_panic : quietAdvance ≠ .panic := nofun

theorem concludes_of_settled {result : OperationTaskResult}
    {answer : Except OperationRegistryError Operation}
    (hphase : worker.phase = .settled result answer) (hresult : result.NotCancelled)
    (hreconciled : worker.trace.reconciled = true) :
    Concludes config index service :=
  ⟨[], service, worker, List.forall_mem_nil _, rfl, hworker, hreconciled, result,
    answer, hphase, hresult⟩

theorem concludes_of_returned {result : OperationTaskResult}
    (hphase : worker.phase = .returned result) (hresult : result.NotCancelled)
    (hreconciled : worker.trace.reconciled = true) :
    Concludes config index service := by
  have hstep : worker.step config service.locked service.world service.registry (.finish "") =
      some (worker.finish service.world service.registry result "") := by
    simp only [TaskWorker.step, hphase]
  exact .step hworker hstep (by simp)
    (concludes_of_settled (getElem?_move hworker _) rfl hresult hreconciled)

theorem concludes_of_done {result : OperationTaskResult}
    (hphase : worker.phase = .running (.done result)) (hresult : result.NotCancelled)
    (hreconciled : worker.trace.reconciled = true) : Concludes config index service := by
  have hreturns : ∀ (service : TaskService τ ε κ) (worker : TaskWorker ε κ),
      service.workers[index]? = some worker → worker.phase = .running (.done result) →
      worker.held = none → worker.trace.reconciled = true → Concludes config index service := by
    intro service worker hworker hphase hheld hreconciled
    have hstep : worker.step config service.locked service.world service.registry quietAdvance =
        some ⟨worker.release (.returned result), service.world, service.registry, true⟩ := by
      simp only [TaskWorker.step, quietAdvance, hphase, TaskWorker.advance, hheld]
    exact .step hworker hstep quietAdvance_ne_panic
      (concludes_of_returned (getElem?_move hworker _) rfl hresult hreconciled)
  cases hheld : worker.held with
  | none => exact hreturns service worker hworker hphase hheld hreconciled
  | some mutex =>
      -- first the guard goes
      have hstep : worker.step config service.locked service.world service.registry quietAdvance =
          some ⟨{ worker with held := none }, service.world, service.registry, false⟩ := by
        simp only [TaskWorker.step, quietAdvance, hphase, TaskWorker.advance, hheld]
      exact .step hworker hstep quietAdvance_ne_panic
        (hreturns _ _ (getElem?_move hworker _) hphase rfl hreconciled)

end

theorem Orderly.concludes (h : Orderly service.world.inventory worker)
    (hworker : service.workers[index]? = some worker) (hkerf : worker.trace.kerf = true)
    (hcalm : worker.trace.panicked = false) : Concludes config index service := by
  have hmutated := mutated_of_kerf hkerf
  have hholds := h.holds
  have hreconciled := h.reconciled hkerf hcalm
  cases hphase : worker.phase with
  | accepted | spawned | skipped error =>
      rw [hphase] at hholds
      exact absurd hmutated (Bool.eq_false_iff.mp hholds)
  | returned result =>
      rw [hphase] at hholds hreconciled
      exact concludes_of_returned hworker hphase (hholds hmutated) hreconciled
  | settled result answer =>
      rw [hphase] at hholds hreconciled
      exact concludes_of_settled hworker hphase (hholds hmutated) hreconciled
  | running task =>
      rw [hphase] at hholds hreconciled
      have hlast := hholds.2.2 hmutated
      cases task with
      | done result => exact concludes_of_done hworker hphase hlast hreconciled
      | check rest | lock mutex rest | unlock mutex rest => cases hlast
      | act kind stage rest =>
          -- the look that judges the Kerf run answers
          rcases hperform : perform config ⟨none, .ok (true, 0), [], none, []⟩ (fun _ => .done) kind
            stage service.world with ⟨later | answer | _, reached⟩
          · have hgoes : Goes _ _ _ _ := perform_spec hperform hholds.1.1
            cases hgoes.reconciles.symm.trans hreconciled
          · have hanswers : Answers _ _ _ _ := perform_spec hperform hholds.1.1
            obtain ⟨result, hdone, hresult⟩ := hlast answer ⟨_, hanswers.judged⟩
            have hstep : worker.step config service.locked service.world service.registry
                quietAdvance =
                some ⟨(worker.acts kind stage).answered kind stage answer rest, reached,
                  service.registry, false⟩ := by
              simp only [TaskWorker.step, quietAdvance, hphase, TaskWorker.advance, hperform]
            refine .step hworker hstep quietAdvance_ne_panic
              (concludes_of_done (getElem?_move hworker _) ?_ hresult ?_)
            · exact congrArg TaskPhase.running hdone
            · show (_ || (reconciles kind stage && ActionAnswer.isOutcome kind answer)) = true
              rw [show reconciles kind stage = true from hreconciled,
                hanswers.reconciles hreconciled, Bool.and_true, Bool.or_true]
          · have hpanic : _ ∧ _ := perform_spec hperform hholds.1.1
            cases hpanic.2.symm.trans hreconciled

end Concludes

/-! ### Cancelled means untouched -/

/-- What holds of cancelled operations, and of Kerf runs, at every moment. -/
structure CancelledUntouched (config : TaskConfig τ ε κ) (service : TaskService τ ε κ) : Prop where
  result : ∀ worker ∈ service.workers, ∀ result, worker.phase.result = some result →
    result.state = .cancelled → worker.trace.kerf = false ∧ worker.trace.imported = false
  record : service.workers.length < 2 ^ 64 → ∀ worker ∈ service.workers,
    ∀ operation ∈ service.registry.state.operations, operation.id = worker.id →
    operation.state = .cancelled → worker.trace.kerf = false ∧ worker.trace.imported = false
  reconciled : ∀ worker ∈ service.workers, worker.trace.kerf = true →
    worker.trace.panicked = false → worker.phase.ended = true →
    worker.trace.reconciled = true ∧
      ∃ result, worker.phase.result = some result ∧ result.state ≠ .cancelled
  concludes : ∀ index worker, service.workers[index]? = some worker → worker.trace.kerf = true →
    worker.trace.panicked = false → Concludes config index service

/-- **Cancelled means untouched**, in every run of the daemon; records beyond the largest number
of the registry apart. -/
theorem cancelledUntouched_of_run {world : World τ} {operationCapacity eventCapacity : ℕ}
    {registry : OperationRegistry} {limiter : ServiceLimiter}
    (hregistry : OperationRegistry.new operationCapacity eventCapacity = .ok registry)
    {labels : List (TaskLabel τ)} {reached : TaskService τ ε κ}
    (hrun : run (TaskService.step config) (.new world registry limiter) labels = some reached) :
    CancelledUntouched config reached := by
  have horderly : ∀ worker ∈ reached.workers, Orderly reached.world.inventory worker :=
    orderly_invariant.of_run (guarded_true _ _) hrun
  have hresults : ∀ worker ∈ reached.workers, ∀ result, worker.phase.result = some result →
      result.state = .cancelled → worker.trace.kerf = false ∧ worker.trace.imported = false := by
    intro worker hworker result hresult hcancelled
    refine mutated_eq_false.mp (Bool.eq_false_iff.mpr fun hmutated => ?_)
    have hholds := (horderly worker hworker).holds
    cases hphase : worker.phase with
    | returned other | settled other answer =>
        rw [hphase] at hholds hresult
        cases hresult
        exact hholds hmutated hcancelled
    | accepted | spawned | running task | skipped error =>
        rw [hphase] at hresult
        cases hresult
  refine ⟨hresults, fun hroom worker hworker operation hoperation hown hcancelled => ?_,
    fun worker hworker hkerf hcalm hended => ?_,
    fun index worker hworker => (horderly worker (List.mem_of_getElem? hworker)).concludes hworker⟩
  · have hfits := (operationsFit_of_run hregistry hrun hroom).fits worker hworker operation
      hoperation hown
    have hterminal := Reports.of_run reports_terminal hrun worker hworker
    rw [hcancelled] at hfits
    -- a record is cancelled by the result of its worker only
    cases hphase : worker.phase with
    | settled result answer =>
        rw [hphase] at hfits hterminal
        cases answer with
        | ok recorded =>
            refine hresults worker hworker result ?_ hfits.symm
            rw [hphase]
            rfl
        | error error =>
            exact nomatch (show isTerminal result.state = true from hterminal).symm.trans hfits
    | accepted | spawned | running task | returned result | skipped error =>
        rw [hphase] at hfits
        cases hfits
  · have hworkerOrderly := horderly worker hworker
    have hholds := hworkerOrderly.holds
    have hreconciled := hworkerOrderly.reconciled hkerf hcalm
    cases hphase : worker.phase with
    | settled result answer =>
        rw [hphase] at hholds hreconciled
        exact ⟨hreconciled, result, rfl, hholds (mutated_of_kerf hkerf)⟩
    | skipped error =>
        rw [hphase] at hholds
        exact absurd (mutated_of_kerf hkerf) (Bool.eq_false_iff.mp hholds)
    | accepted | spawned | running task | returned result =>
        rw [hphase] at hended
        cases hended

/-! ### Behind other workers -/

/-- Two registries that differ in their events only. -/
structure SameOperations (registry other : OperationRegistry) : Prop where
  capacity_eq : other.operationCapacity = registry.operationCapacity
  next_eq : other.state.nextOperation = registry.state.nextOperation
  operations_eq : other.state.operations = registry.state.operations

section SameOperations

variable {registry other : OperationRegistry}

/-- What a registry answers does not depend on its events. -/
theorem SameOperations.update (h : SameOperations registry other) (id : OperationId)
    (mutation : Operation → Except OperationRegistryError Operation) :
    (other.update id mutation).1 = (registry.update id mutation).1 ∧
      SameOperations (registry.update id mutation).2 (other.update id mutation).2 := by
  have hget : other.get id = registry.get id := by
    rw [OperationRegistry.get, h.operations_eq]
    rfl
  simp only [OperationRegistry.update, hget]
  split
  · exact ⟨rfl, h⟩
  · split
    · exact ⟨rfl, h⟩
    · refine ⟨rfl, h.capacity_eq, h.next_eq, ?_⟩
      simp only [publishOperationEvent, h.operations_eq]

theorem SameOperations.create (h : SameOperations registry other) (request : NewOperation) :
    (other.create request).1 = (registry.create request).1 ∧
      SameOperations (registry.create request).2 (other.create request).2 := by
  have hcreated : (other.create request).1 = (registry.create request).1 :=
    congrArg (queuedOperation · request) h.next_eq
  refine ⟨hcreated, h.capacity_eq, ?_, ?_⟩
  · exact congrArg (saturatingAdd · 1) h.next_eq
  · show pushBounded _ _ (other.create request).1 = pushBounded _ _ (registry.create request).1
    rw [h.capacity_eq, h.operations_eq, hcreated]

theorem advance_sameOperations {locked : TaskMutex → Bool} {world : World τ}
    {worker : TaskWorker ε κ} {source : Source} {replies : ℕ → DiskReply} {task : Task ε κ}
    {moved : TaskWorker.Moved τ ε κ}
    (h : worker.advance config locked world registry source replies task = some moved) :
    moved.registry = registry ∧ worker.advance config locked world other source replies task =
        some { moved with registry := other } := by
  cases task with
  | done result | act kind stage next =>
      simp only [TaskWorker.advance] at h ⊢
      split at h <;> exact Option.some.inj h ▸ ⟨rfl, rfl⟩
  | check next | unlock mutex next => exact Option.some.inj h ▸ ⟨rfl, rfl⟩
  | lock mutex next =>
      simp only [TaskWorker.advance] at h ⊢
      split at h
      · cases h
      · next hfree => exact Option.some.inj h ▸ ⟨rfl, if_neg hfree⟩

/-- A worker takes the same step. -/
theorem SameOperations.step (h : SameOperations registry other) {locked : TaskMutex → Bool}
    {world : World τ} {worker : TaskWorker ε κ} {label : WorkerLabel}
    {moved : TaskWorker.Moved τ ε κ}
    (hstep : worker.step config locked world registry label = some moved) :
    ∃ later, SameOperations moved.registry later ∧
      worker.step config locked world other label = some { moved with registry := later } := by
  have hquiet : ∀ {next : Option (TaskWorker ε κ)} {released : Bool},
      (next.map fun worker => ⟨worker, world, registry, released⟩) = some moved →
      SameOperations moved.registry other ∧
        (next.map fun worker => ⟨worker, world, other, released⟩) =
          some { moved with registry := other } := by
    intro next released hmap
    obtain ⟨worker, rfl, rfl⟩ := Option.map_eq_some_iff.mp hmap
    exact ⟨h, rfl⟩
  cases label with
  | spawn | spawnFails | panic | exit => exact ⟨other, hquiet hstep⟩
  | start =>
      simp only [TaskWorker.step] at hstep ⊢
      split at hstep <;> cases hstep
      obtain ⟨hanswer, hafter⟩ := h.update worker.id startMutation
      simp only [TaskWorker.start, OperationRegistry.start]
      generalize registry.update worker.id startMutation = before at hanswer hafter
      generalize other.update worker.id startMutation = after at hanswer hafter
      obtain ⟨answer, reached⟩ := before
      obtain ⟨answer', later⟩ := after
      obtain rfl : answer' = answer := hanswer
      cases answer' with
      | error error | ok operation => exact ⟨later, hafter, rfl⟩
  | advance source replies =>
      simp only [TaskWorker.step] at hstep ⊢
      split at hstep
      · obtain ⟨hregistry, hother⟩ := advance_sameOperations hstep
        exact ⟨other, hregistry ▸ h, hother⟩
      · cases hstep
  | finish completedAt =>
      simp only [TaskWorker.step] at hstep ⊢
      split at hstep <;> cases hstep
      next result hphase =>
        obtain ⟨hanswer, hafter⟩ := h.update worker.id
          (finishMutation result.state result.observedGeneration result.error completedAt)
        refine ⟨_, hafter, ?_⟩
        simp only [TaskWorker.finish, OperationRegistry.finish, hanswer]

end SameOperations

/-- The same service with another history: workers that have come before, and the registry that
they have left. -/
def TaskService.behind (before : List (TaskWorker ε κ)) (registry : OperationRegistry)
    (service : TaskService τ ε κ) : TaskService τ ε κ :=
  { service with
    registry := registry
    workers := before ++ service.workers
    retained := service.retained.map (before.length + ·) }

/-- A label with the numbers that workers have behind `count` others. -/
def TaskLabel.behind (count : ℕ) : TaskLabel τ → TaskLabel τ
  | .worker index label => .worker (count + index) label
  | .retain index => .retain (count + index)
  | label => label

section Behind

variable {before : List (TaskWorker ε κ)} {registry : OperationRegistry}
  {service next : TaskService τ ε κ}

theorem getElem?_behind (index : ℕ) :
    (service.behind before registry).workers[before.length + index]? = service.workers[index]? := by
  rw [TaskService.behind, List.getElem?_append_right (Nat.le_add_right _ _),
    Nat.add_sub_cancel_left]

theorem set_behind (index : ℕ) (worker : TaskWorker ε κ) :
    (before ++ service.workers).set (before.length + index) worker =
      before ++ service.workers.set index worker := by
  rw [List.set_append_right _ _ (Nat.le_add_right _ _), Nat.add_sub_cancel_left]

theorem modify_behind (index : ℕ) (change : TaskWorker ε κ → TaskWorker ε κ) :
    (before ++ service.workers).modify (before.length + index) change =
      before ++ service.workers.modify index change := by
  have hget : (service.behind before service.registry).workers[before.length + index]? =
      service.workers[index]? := getElem?_behind index
  rw [List.modify_eq_set_getElem?, List.modify_eq_set_getElem?]
  simp only [TaskService.behind] at hget
  rw [hget]
  cases service.workers[index]? with
  | none => rfl
  | some worker => exact set_behind index (change worker)

theorem find_behind (id : OperationId) :
    (service.behind before registry).find id = (service.find id).map (before.length + ·) := by
  show (service.retained.map (before.length + ·)).find? _ = _
  rw [List.find?_map]
  refine congrArg _ (congrArg (List.find? · service.retained) (funext fun index => ?_))
  exact congrArg (Option.any _) (getElem?_behind index)

theorem locked_behind (hheld : ∀ worker ∈ before, worker.held = none) :
    (service.behind before registry).locked = service.locked := by
  funext mutex
  have hfree : (before.any fun worker => worker.held = some mutex) = false := by
    rw [List.any_eq_false]
    intro worker hworker
    simp [hheld worker hworker]
  rw [TaskService.locked, TaskService.behind, List.any_append, hfree, Bool.false_or]
  rfl

/-- Workers that hold no mutex are in nobody's way. -/
theorem step_behind (hheld : ∀ worker ∈ before, worker.held = none)
    (hsame : SameOperations service.registry registry) {label : TaskLabel τ}
    (hlabel : label ≠ .reap) (hstep : service.step config label = some next) :
    ∃ later, SameOperations next.registry later ∧
      (service.behind before registry).step config (label.behind before.length) =
        some (next.behind before later) := by
  have hlocked : (service.behind before registry).locked = service.locked := locked_behind hheld
  cases label with
  | submit mutation files peer auditId createdAt =>
      simp only [TaskService.step, behind] at hstep ⊢
      split at hstep
      · cases hstep
        exact ⟨registry, hsame, rfl⟩
      · cases hstep
        simp only [TaskService.accept, TaskService.behind]
        split <;> exact ⟨registry, hsame, rfl⟩
  | create index =>
      simp only [TaskService.step, behind] at hstep ⊢
      split at hstep <;> cases hstep
      next submission hsubmission =>
        obtain ⟨hcreated, hafter⟩ := hsame.create submission.operation
        refine ⟨_, hafter, ?_⟩
        simp only [TaskService.behind, hsubmission, TaskService.create, List.append_assoc,
          hcreated]
  | worker index label =>
      simp only [TaskService.step, behind] at hstep ⊢
      split at hstep
      · cases hstep
      · next worker hworker =>
          obtain ⟨moved, hmoved, rfl⟩ := Option.map_eq_some_iff.mp hstep
          obtain ⟨later, hlater, hother⟩ := hsame.step hmoved
          refine ⟨later, hlater, ?_⟩
          simp only [getElem?_behind, hworker, hlocked]
          refine Option.map_eq_some_iff.mpr ⟨_, hother, ?_⟩
          simp only [TaskService.move, TaskService.behind, set_behind]
  | retain index =>
      simp only [TaskService.step, behind] at hstep ⊢
      split at hstep <;> cases hstep
      next worker hworker =>
        refine ⟨registry, hsame, ?_⟩
        simp only [getElem?_behind, hworker]
        simp only [TaskService.behind, set_behind, List.map_append, List.map_singleton]
  | reap => exact absurd rfl hlabel
  | cancel id =>
      simp only [TaskService.step, behind] at hstep ⊢
      rw [find_behind]
      split at hstep
      · next hnone =>
          cases hstep
          exact ⟨registry, hsame, by rw [hnone]; rfl⟩
      · next index hindex =>
          cases hstep
          refine ⟨registry, hsame, ?_⟩
          rw [hindex]
          simp only [Option.map_some, TaskService.behind, modify_behind]
  | drain | refresh | elapse host | release kind hother =>
      cases hstep
      exact ⟨registry, hsame, rfl⟩
  | refreshCatalog replies =>
      simp only [TaskService.step, behind, hlocked] at hstep ⊢
      split at hstep <;> cases hstep
      next hfree =>
        rw [if_neg hfree]
        exact ⟨registry, hsame, rfl⟩
  | acquire kind hother =>
      simp only [TaskService.step, behind] at hstep ⊢
      refine ⟨registry, ?_⟩
      split at hstep <;> cases hstep
      · next hacquire => exact ⟨hsame, by simp only [TaskService.behind, hacquire]⟩
      · next hacquire => exact ⟨hsame, by simp only [TaskService.behind, hacquire]⟩

theorem run_behind (hheld : ∀ worker ∈ before, worker.held = none)
    (hsame : SameOperations service.registry registry) {labels : List (TaskLabel τ)}
    (hlabels : ∀ label ∈ labels, label ≠ .reap)
    (hrun : run (TaskService.step config) service labels = some next) :
    ∃ later, SameOperations next.registry later ∧
      run (TaskService.step config) (service.behind before registry)
        (labels.map (behind before.length)) = some (next.behind before later) := by
  induction labels generalizing service registry with
  | nil =>
      cases hrun
      exact ⟨registry, hsame, rfl⟩
  | cons label labels ih =>
      obtain ⟨middle, hstep, hrest⟩ := run_cons.mp hrun
      obtain ⟨between, hbetween, hfirst⟩ :=
        step_behind hheld hsame (hlabels label List.mem_cons_self) hstep
      obtain ⟨later, hlater, hmapped⟩ :=
        ih hbetween (fun other hother => hlabels other (List.mem_cons_of_mem label hother)) hrest
      exact ⟨later, hlater, run_cons.mpr ⟨_, hfirst, hmapped⟩⟩

end Behind

/-! ### Two operations with one number -/

/-- A daemon on a small host that Kerf changes. -/
def smallConfig : TaskConfig HostObservations Unit Unit where
  source := HostApi.smallHost.source
  runner := HostApi.smallHost.runner
  store := blindConfig.store
  imagePolicy := ⟨[]⟩

def smallWorld : World HostObservations := ⟨.new HostApi.smallKernel, .new, .empty⟩

/-- A request to make CPU 5 and 8 KiB the pool. -/
def submitPool : TaskLabel HostObservations :=
  .submit (.resourcePool ⟨⟨1⟩, [5], 8192⟩) ⟨fun _ => none, fun _ => none⟩ ⟨7, ⟨0, 0, none⟩⟩ none
    "now"

/-- The pool request invokes Kerf, reconciles and is settled. -/
def poolRun : List (TaskLabel HostObservations) :=
  [submitPool, .create 0, .worker 0 .spawn, .retain 0, .worker 0 .start] ++
    List.replicate 6 (advanceTask 0) ++ [.cancel ⟨"op-1"⟩] ++ List.replicate 3 (advanceTask 0) ++
    [.worker 0 (.finish "later")]

/-- The cancellation comes when Kerf has run. -/
theorem cancelledUntouched_of_run_pool : ∃ (registry : OperationRegistry) (limiter : ServiceLimiter)
      (reached : TaskService HostObservations Unit Unit),
      OperationRegistry.new 1 1 = .ok registry ∧
      run (TaskService.step smallConfig) (.new smallWorld registry limiter) poolRun = some reached ∧
      reached.workers.map (fun worker => (worker.phase.ended, worker.cancelled, worker.trace.kerf)) =
        [(true, true, true)] ∧ CancelledUntouched smallConfig reached := by
  let registry : OperationRegistry := ⟨1, 1, ⟨1, 1, ⟨0⟩, [], []⟩, Nat.one_pos, Nat.one_pos⟩
  let limiter : ServiceLimiter := ⟨⟨1, 2, 1⟩, ⟨0, 0, 0⟩⟩
  have hregistry : OperationRegistry.new 1 1 = .ok registry := rfl
  have hdone : (run (TaskService.step smallConfig) (.new smallWorld registry limiter) poolRun).map
      (fun service => service.workers.map fun worker =>
        (worker.phase.ended, worker.cancelled, worker.trace.kerf)) = some [(true, true, true)] := by
    decide
  obtain ⟨reached, hrun, hended⟩ := Option.map_eq_some_iff.mp hdone
  exact ⟨registry, limiter, reached, hregistry, hrun, hended,
    cancelledUntouched_of_run hregistry hrun⟩

/-- The last number goes to a lifecycle request and to a pool request. The second one invokes
Kerf, the first one is cancelled and finishes the record of the second. -/
def twinRun : List (TaskLabel HostObservations) :=
  [.worker 0 .spawn, .retain 0, .worker 0 .start, submitPool, .create 0, .worker 1 .spawn,
    .worker 1 .start] ++ List.replicate 6 (advanceTask 1) ++
    [.cancel (operationId (2 ^ 64 - 1)), advanceTask 0, advanceTask 0, .worker 0 (.finish "later")]

/-- The daemon with its lifecycle request and without a history. -/
def twinStart : TaskService HostObservations Unit Unit :=
  (TaskService.new smallWorld
    ⟨1, 1, ⟨maxWord, 1, ⟨0⟩, [], []⟩, Nat.one_pos, Nat.one_pos⟩ ⟨⟨1, 2, 1⟩, ⟨0, 0, 0⟩⟩).joined ⟨1, 2, 1⟩

theorem twin_run : ∃ reached worker operation,
    run (TaskService.step smallConfig) twinStart twinRun = some reached ∧
      reached.workers.getLast? = some worker ∧ worker.trace.kerf = true ∧
      reached.registry.state.operations.getLast? = some operation ∧ operation.id = worker.id ∧
      operation.kind = worker.request.kind ∧ operation.state = .cancelled := by
  have hdone : (run (TaskService.step smallConfig) twinStart twinRun).map (fun service =>
      (service.workers.getLast?.map fun worker =>
          (worker.trace.kerf, worker.id, worker.request.kind),
        service.registry.state.operations.getLast?.map fun operation =>
          (operation.id, operation.kind, operation.state))) =
      some (some (true, operationId (2 ^ 64 - 1), .initializeResourcePool),
        some (operationId (2 ^ 64 - 1), .initializeResourcePool, .cancelled)) := by
    decide +kernel
  obtain ⟨reached, hrun, hmapped⟩ := Option.map_eq_some_iff.mp hdone
  obtain ⟨worker, hworker, hkerf⟩ := Option.map_eq_some_iff.mp (Prod.mk.inj hmapped).1
  obtain ⟨operation, hoperation, hstate⟩ := Option.map_eq_some_iff.mp (Prod.mk.inj hmapped).2
  simp only [Prod.mk.injEq] at hkerf hstate
  exact ⟨reached, worker, operation, hrun, hworker, hkerf.1, hoperation,
    hstate.1.trans hkerf.2.1.symm, hstate.2.1.trans hkerf.2.2.symm, hstate.2.2⟩

/-- With the last number left, the history before the lifecycle request does not matter. -/
theorem Unspawned.joined_eq {count : ℕ} {service : TaskService HostObservations Unit Unit}
    (h : Unspawned smallWorld ⟨1, 2, 1⟩ 1 count service) (hcount : count + 2 = 2 ^ 64) :
    SameOperations twinStart.registry (service.joined ⟨1, 2, 1⟩).registry ∧
      service.joined ⟨1, 2, 1⟩ =
        twinStart.behind service.workers (service.joined ⟨1, 2, 1⟩).registry := by
  have hnext : service.registry.state.nextOperation = maxWord := by
    have hnext := h.fit.next_eq
    rw [h.length_eq] at hnext
    refine UInt64.toNat_inj.mp (hnext.trans ?_)
    rw [toNat_maxWord]
    omega
  have hcreated : (service.registry.create startSubmission.operation).1 =
      queuedOperation maxWord startSubmission.operation :=
    congrArg (queuedOperation · startSubmission.operation) hnext
  refine ⟨⟨h.capacity_eq, ?_, ?_⟩, ?_⟩
  · show saturatingAdd service.registry.state.nextOperation 1 = saturatingAdd maxWord 1
    rw [hnext]
  · show pushBounded service.registry.operationCapacity service.registry.state.operations
      (service.registry.create startSubmission.operation).1 = _
    have hbounded := h.fit.ordered.bounded
    rw [h.capacity_eq] at hbounded ⊢
    rw [hcreated, pushBounded_one hbounded]
    rfl
  · obtain ⟨world, registry, limiter, admitted, workers, retained⟩ := service
    obtain rfl : world = smallWorld := h.world_eq
    obtain rfl : retained = [] := h.retained_eq
    simp only [TaskService.joined, TaskService.create, hcreated]
    rfl

/-- When there are no more numbers, an operation that has invoked Kerf may become cancelled. -/
theorem last_number_cancels_other : ∃ (registry : OperationRegistry) (limiter : ServiceLimiter)
      (labels : List (TaskLabel HostObservations)) (reached : TaskService HostObservations Unit Unit)
      (worker : TaskWorker Unit Unit) (operation : Operation),
      OperationRegistry.new 1 1 = .ok registry ∧ ServiceLimiter.new ⟨1, 2, 1⟩ = .ok limiter ∧
      run (TaskService.step smallConfig) (.new smallWorld registry limiter) labels = some reached ∧
      reached.workers.getLast? = some worker ∧ worker.trace.kerf = true ∧
      reached.registry.state.operations.getLast? = some operation ∧ operation.id = worker.id ∧
      operation.kind = worker.request.kind ∧ operation.state = .cancelled := by
  let registry : OperationRegistry := ⟨1, 1, ⟨1, 1, ⟨0⟩, [], []⟩, Nat.one_pos, Nat.one_pos⟩
  let limiter : ServiceLimiter := ⟨⟨1, 2, 1⟩, ⟨0, 0, 0⟩⟩
  have hregistry : OperationRegistry.new 1 1 = .ok registry := rfl
  have hlimiter : ServiceLimiter.new ⟨1, 2, 1⟩ = .ok limiter := rfl
  obtain ⟨count, hcount⟩ : ∃ count, count + 2 = 2 ^ 64 := ⟨2 ^ 64 - 2, by norm_num⟩
  obtain ⟨middle, hmiddle, hunspawned⟩ : ∃ middle, run (TaskService.step smallConfig)
      (.new smallWorld registry limiter) ((List.range count).flatMap unspawnedRun) = some middle ∧
      Unspawned smallWorld ⟨1, 2, 1⟩ 1 count middle :=
    unspawned_run hregistry Nat.two_pos (by omega)
  obtain ⟨hjoins, -, -⟩ := hunspawned.joins smallConfig Nat.two_pos
  obtain ⟨hsame, hjoined⟩ := hunspawned.joined_eq hcount
  obtain ⟨reached, worker, operation, hrun, hworker, hkerf, hoperation, hcancelled⟩ := twin_run
  have hlabels : ∀ label ∈ twinRun, label ≠ .reap := by
    simp [twinRun, submitPool, advanceTask]
  obtain ⟨later, hlater, hbehind⟩ := run_behind hunspawned.held_eq hsame hlabels hrun
  rw [← hjoined] at hbehind
  refine ⟨registry, limiter, _, reached.behind middle.workers later, worker, operation, hregistry,
    hlimiter, run_append hmiddle (run_append hjoins hbehind), ?_, hkerf, ?_, hcancelled⟩
  · show (middle.workers ++ reached.workers).getLast? = _
    rw [List.getLast?_append, hworker]
    rfl
  · show later.state.operations.getLast? = _
    rw [hlater.operations_eq, hoperation]

end Kernmux.Daemon
