import Kernmux.Daemon.TasksSound
import Kernmux.Daemon.WorkersSound

/-!
# Kernmux.Daemon.Settlement

**Operations are settled and permits are given back.** A permit lives in the
closure of its task, so it is dropped on every way out of it: when the task
returns or panics, when the registry refuses to start the operation, and when
no thread could be created. Counting the submissions and workers that hold one
gives the counter of the limiter (`PermitsBalanced`).

The state of an operation follows the phase of its worker (`PhaseFits`), as long
as no two operations have the same ID. The registry counts operations up to the
largest word and then gives the same number again, so this is so for the first
`2 ^ 64 - 1` operations of a run and not beyond.
-/

namespace Kernmux.Daemon

open Api.V1 Library Inventory Scheduler OperationRegistry OperationRegistry
open TaskService (accept move step)

variable {index operationCapacity eventCapacity : ℕ} {limiter : ServiceLimiter}
  {registry : OperationRegistry} {τ ε κ : Type} {config : TaskConfig τ ε κ}

/-! ### Permits -/

/-- The permit of the worker has not been dropped. -/
def TaskWorker.holdsPermit (worker : TaskWorker ε κ) : Bool :=
  match worker.phase with
  | .accepted | .spawned | .running _ => true
  | .returned _ | .skipped _ | .settled _ _ => false

/-- A worker that has no permit any more has given it back once. -/
def TaskWorker.PermitKept (worker : TaskWorker ε κ) : Prop :=
  worker.trace.released = if worker.holdsPermit then 0 else 1

/-- The counter of the limiter is the number of permits that are out. -/
structure PermitsBalanced (service : TaskService τ ε κ) : Prop where
  counter_eq : service.limiter.state.mutations =
    service.admitted.length + service.workers.countP TaskWorker.holdsPermit
  counter_le : service.limiter.state.mutations ≤ service.limiter.limits.mutations

section Permits

variable {world : World τ} {worker : TaskWorker ε κ} {moved : TaskWorker.Moved τ ε κ}
  {service next : TaskService τ ε κ}

theorem holdsPermit_of_running {task : Task ε κ} (hphase : worker.phase = .running task) :
    worker.holdsPermit = true := by
  rw [TaskWorker.holdsPermit, hphase]

/-- A step drops the permit exactly when it says so, and notes it. -/
theorem WorkerEffect.permit (h : WorkerEffect config world registry worker moved) :
    worker.holdsPermit = (moved.worker.holdsPermit || moved.released) ∧
      (moved.released = true → moved.worker.holdsPermit = false) ∧
      moved.worker.trace.released = worker.trace.released + moved.released.toNat := by
  cases h with
  | spawned hphase | started hphase hstart =>
      exact ⟨by rw [TaskWorker.holdsPermit, hphase]; rfl, nofun, rfl⟩
  | spawnFailed hphase | refused hphase hstart =>
      exact ⟨by rw [TaskWorker.holdsPermit, hphase]; rfl, fun _ => rfl, rfl⟩
  | unguarded hphase | exited hended => exact ⟨(Bool.or_false _).symm, nofun, rfl⟩
  | returned hphase hheld => exact ⟨holdsPermit_of_running hphase, fun _ => rfl, rfl⟩
  | passed hphase | turnedAway hphase | locked hphase | unlocked hphase | continued hphase
  | answered hphase | stopped hphase | panicked hphase =>
      exact ⟨holdsPermit_of_running hphase, nofun, rfl⟩
  | finished completedAt hphase =>
      exact ⟨by rw [TaskWorker.holdsPermit, hphase]; rfl, nofun, rfl⟩

theorem permitKept_invariant :
    WorkerInvariant config (fun _ _ => True) fun _ worker => worker.PermitKept := by
  refine ⟨fun _ _ _ => rfl, fun _ _ _ _ h => h, fun world registry worker moved h heffect => ?_,
    fun _ _ _ h => h, fun _ _ _ _ _ _ _ _ h => h⟩
  obtain ⟨hbefore, hafter, hreleased⟩ := heffect.permit
  unfold TaskWorker.PermitKept at h ⊢
  rw [hreleased, h, hbefore]
  cases hflag : moved.released with
  | true => simp [hafter hflag]
  | false => simp

/-- One worker changes. -/
theorem countP_set {changed : TaskWorker ε κ} {workers : List (TaskWorker ε κ)}
    (hworker : workers[index]? = some worker) :
    (workers.set index changed).countP TaskWorker.holdsPermit + worker.holdsPermit.toNat =
      workers.countP TaskWorker.holdsPermit + changed.holdsPermit.toNat := by
  obtain ⟨hindex, hget⟩ := List.getElem?_eq_some_iff.mp hworker
  have hpos : worker.holdsPermit = true → 0 < workers.countP TaskWorker.holdsPermit :=
    fun hholds => List.countP_pos_iff.mpr ⟨worker, List.mem_of_getElem? hworker, hholds⟩
  rw [List.countP_set hindex, hget]
  cases hholds : worker.holdsPermit with
  | false => cases changed.holdsPermit <;> simp
  | true =>
      have := hpos hholds
      cases changed.holdsPermit <;> simp <;> omega

theorem PermitsBalanced.step {label : TaskLabel τ} (h : PermitsBalanced service)
    (heffect : ServiceEffect config service label next) : PermitsBalanced next := by
  obtain ⟨hcounter, hle⟩ := h
  cases heffect with
  | quiet hworkers _ hadmitted hlimits hmutations _ _ =>
      exact ⟨by rw [hmutations, hadmitted, hworkers, hcounter], by rw [hmutations, hlimits]; exact hle⟩
  | admitted submission hroom =>
      refine ⟨?_, hroom⟩
      simp only [List.length_append, List.length_singleton, hcounter]
      omega
  | @created index submission hsubmission =>
      refine ⟨?_, hle⟩
      have hlt := (List.getElem?_eq_some_iff.mp hsubmission).1
      simp only [TaskService.create, List.length_eraseIdx_of_lt hlt, List.countP_append,
        List.countP_singleton, hcounter]
      rw [show (TaskWorker.fresh _ submission.request : TaskWorker ε κ).holdsPermit = true from rfl,
        if_pos rfl]
      omega
  | @moved index label worker moved hworker hmoves =>
      obtain ⟨hbefore, hafter, -⟩ := hmoves.permit
      have hcount : (service.workers.set index moved.worker).countP TaskWorker.holdsPermit + _ = _ :=
        countP_set hworker
      cases hflag : moved.released with
      | false =>
          rw [hflag, Bool.or_false] at hbefore
          refine ⟨?_, by simpa [move, hflag] using hle⟩
          simp only [move, hflag, hcounter, Bool.false_eq_true, if_false]
          rw [hbefore] at hcount
          omega
      | true =>
          rw [hflag, Bool.or_true] at hbefore
          rw [hbefore, hafter hflag, Bool.toNat_true, Bool.toNat_false] at hcount
          simp only [move, hflag, if_true]
          constructor
          · simp only [ServiceLimiter.release, ServiceLimiter.current, ServiceLimiter.setCurrent,
              hcounter]
            omega
          · exact (Nat.sub_le _ 1).trans hle
  | @retained index worker hworker hhandle =>
      have hcount : (service.workers.set index { worker with handle := .retained }).countP
          TaskWorker.holdsPermit + worker.holdsPermit.toNat = _ := countP_set hworker
      exact ⟨hcounter.trans (congrArg _ (Nat.add_right_cancel hcount).symm), hle⟩
  | @cancelled id index worker hfind hworker =>
      have hcount : (service.workers.set index worker.cancel).countP
          TaskWorker.holdsPermit + worker.holdsPermit.toNat = _ := countP_set hworker
      exact ⟨hcounter.trans (congrArg _ (Nat.add_right_cancel hcount).symm), hle⟩

end Permits

/-! ### Operations -/

/-- The state in which the operation of a worker is, if the registry still has it. -/
def PhaseFits : TaskPhase ε κ → OperationState → Prop
  | .accepted, state => state = .queued
  | .spawned, state => state = .queued
  | .running _, state => state = .running
  | .returned _, state => isTerminal state = false
  | .skipped _, _ => False
  | .settled result (.ok _), state => state = result.state
  | .settled result (.error _), _ => isTerminal result.state = false

/-- Every retained operation is in the state that its worker has brought it to. -/
structure OperationsFit (service : TaskService τ ε κ) : Prop where
  ordered : OperationsInv (service.workers.length + 1) service.registry.operationCapacity
    service.registry.state.operations
  next_eq : service.registry.state.nextOperation.toNat =
    min (service.workers.length + 1) (2 ^ 64 - 1)
  ids : ∀ index worker, service.workers[index]? = some worker → worker.id = operationId (index + 1)
  fits : ∀ worker ∈ service.workers, ∀ operation ∈ service.registry.state.operations,
    operation.id = worker.id → PhaseFits worker.phase operation.state

/-- What a step of a worker does to the operations: its own follows, the others stay. -/
structure RegistryMoves (registry : OperationRegistry) (worker : TaskWorker ε κ)
    (moved : TaskWorker.Moved τ ε κ) : Prop where
  ordered : ∀ next, OperationsInv next registry.operationCapacity registry.state.operations →
    OperationsInv next moved.registry.operationCapacity moved.registry.state.operations
  next_eq : moved.registry.state.nextOperation = registry.state.nextOperation
  own : ∀ operation ∈ moved.registry.state.operations, operation.id = worker.id →
    PhaseFits moved.worker.phase operation.state
  others : ∀ operation ∈ moved.registry.state.operations, operation.id ≠ worker.id →
    operation ∈ registry.state.operations

section Operations

variable {world : World τ} {worker : TaskWorker ε κ} {moved : TaskWorker.Moved τ ε κ}
  {service next : TaskService τ ε κ}

theorem RegistryMoves.of_eq (hregistry : moved.registry = registry)
    (hown : ∀ operation ∈ registry.state.operations, operation.id = worker.id →
      PhaseFits moved.worker.phase operation.state) : RegistryMoves registry worker moved := by
  subst hregistry
  exact ⟨fun _ h => h, rfl, hown, fun _ h _ => h⟩

/-- The registry answers a call for the operation of a worker. -/
theorem registryMoves_update {next : ℕ} {phase : TaskPhase ε κ}
    {mutation : Operation → Except OperationRegistryError Operation}
    {answer : Except OperationRegistryError Operation}
    (hinv : OperationsInv next registry.operationCapacity registry.state.operations)
    (hadvances : Advances mutation)
    (hupdate : registry.update worker.id mutation = (answer, moved.registry))
    (hphase : moved.worker.phase = phase)
    (hchanged : ∀ before after, mutation before = .ok after → answer = .ok after →
      PhaseFits phase after.state)
    (hrejected : ∀ before error, before ∈ registry.state.operations → before.id = worker.id →
      mutation before = .error error → answer = .error error → PhaseFits phase before.state) :
    RegistryMoves registry worker moved := by
  have heffect := update_cases registry worker.id mutation
  rw [hupdate] at heffect
  generalize hreached : moved.registry = reached at heffect
  cases heffect with
  | missing hget =>
      refine .of_eq hreached fun operation hoperation hown => ?_
      rw [← hown, get_of_mem hinv hoperation] at hget
      cases hget
  | @rejected before error hget hmutation =>
      obtain ⟨hbefore, hown⟩ := mem_of_get hget
      refine .of_eq hreached fun operation hoperation hsame => ?_
      rw [hphase, hinv.eq_of_id_eq hoperation hbefore (hsame.trans hown.symm)]
      exact hrejected before error hbefore hown hmutation rfl
  | @changed before after index hget hmutation hat =>
      obtain ⟨hbefore, hown⟩ := mem_of_get hget
      obtain ⟨hstep, hknown⟩ := hadvances before after (hinv.known before hbefore) hmutation
      have hset : ∀ operation ∈ moved.registry.state.operations,
          operation = after ∨ operation ∈ registry.state.operations ∧ operation.id ≠ worker.id := by
        intro operation hoperation
        rw [hreached] at hoperation
        exact hown ▸ (hinv.mem_set hat).mp hoperation
      refine ⟨fun next hnext => hreached ▸ hnext.set hat hstep.id_eq hknown, hreached ▸ rfl,
        fun operation hoperation hsame => ?_, fun operation hoperation hother => ?_⟩
      · rcases hset operation hoperation with rfl | ⟨-, hne⟩
        · rw [hphase]
          exact hchanged before operation hmutation rfl
        · exact absurd hsame hne
      · rcases hset operation hoperation with rfl | ⟨hold, -⟩
        · exact absurd (hstep.id_eq.trans hown) hother
        · exact hold

/-- Every step of a worker takes its operation along. -/
theorem WorkerEffect.registryMoves {next : ℕ}
    (hinv : OperationsInv next registry.operationCapacity registry.state.operations)
    (hfits : ∀ operation ∈ registry.state.operations, operation.id = worker.id →
      PhaseFits worker.phase operation.state)
    (h : WorkerEffect config world registry worker moved) : RegistryMoves registry worker moved := by
  cases h with
  | spawned hphase | passed hphase | turnedAway hphase | locked hphase | unlocked hphase
  | continued hphase | answered hphase | stopped hphase | panicked hphase =>
      rw [hphase] at hfits
      exact .of_eq rfl hfits
  | spawnFailed hphase =>
      rw [hphase] at hfits
      refine .of_eq rfl fun operation hoperation hown => ?_
      have hqueued : operation.state = .queued := hfits operation hoperation hown
      show isTerminal operation.state = false
      rw [hqueued]
      rfl
  | started hphase hstart =>
      refine registryMoves_update hinv startMutation_advances hstart rfl (fun _ _ h _ => ?_)
        fun _ _ _ _ _ h => nomatch h
      rw [← (startMutation_eq_ok.mp h).2]
      rfl
  | refused hphase hstart =>
      rw [hphase] at hfits
      refine registryMoves_update hinv startMutation_advances hstart rfl (fun _ _ _ h => nomatch h)
        fun before error hbefore hown hmutation _ => ?_
      -- a queued operation is not refused
      have hok := startMutation_eq_ok.mpr ⟨hfits before hbefore hown, rfl⟩
      cases hmutation.symm.trans hok
  | returned hphase hheld =>
      rw [hphase] at hfits
      refine .of_eq rfl fun operation hoperation hown => ?_
      have hrunning : operation.state = .running := hfits operation hoperation hown
      show isTerminal operation.state = false
      rw [hrunning]
      rfl
  | unguarded hphase =>
      exact .of_eq rfl hfits
  | @finished result completedAt hphase =>
      rw [hphase] at hfits
      rcases hfinish : registry.finish worker.id result.state result.observedGeneration result.error
        completedAt with ⟨answer, reached⟩
      have hmoved : worker.finish world registry result completedAt =
          ⟨{ worker with phase := .settled result answer }, world, reached, false⟩ := by
        simp only [TaskWorker.finish, hfinish]
      rw [hmoved]
      refine registryMoves_update hinv (finishMutation_advances result.state
        result.observedGeneration result.error completedAt) hfinish rfl
        (fun before after h hanswer => ?_)
        fun before error hbefore hown hmutation hanswer => ?_
      · rw [hanswer, ← (finishMutation_eq_ok.mp h).2.2]
        rfl
      · rw [hanswer]
        refine Bool.eq_false_iff.mpr fun hterminal => ?_
        rw [finishMutation_eq_ok.mpr ⟨hfits before hbefore hown, hterminal, rfl⟩] at hmutation
        cases hmutation
  | exited hended => exact .of_eq rfl hfits

/-- One worker and the registry change together. -/
theorem OperationsFit.set {changed : TaskWorker ε κ} (h : OperationsFit service)
    (hworker : service.workers[index]? = some worker) (hid : changed.id = worker.id)
    (hworkers : next.workers = service.workers.set index changed)
    (hmoves : RegistryMoves service.registry worker ⟨changed, next.world, next.registry, false⟩) :
    OperationsFit next := by
  have hlength : next.workers.length = service.workers.length := by
    rw [hworkers, List.length_set]
  have hindex := (List.getElem?_eq_some_iff.mp hworker).1
  have hids : ∀ place other, next.workers[place]? = some other →
      other.id = operationId (place + 1) := by
    intro place other hother
    rw [hworkers] at hother
    by_cases hsame : index = place
    · subst hsame
      obtain rfl := Option.some.inj ((List.getElem?_set_self hindex).symm.trans hother)
      rw [hid]
      exact h.ids index worker hworker
    · rw [List.getElem?_set_ne hsame] at hother
      exact h.ids place other hother
  refine ⟨hlength ▸ hmoves.ordered _ h.ordered, ?_, hids, fun other hother operation hoperation
    hown => ?_⟩
  · rw [hlength, ← h.next_eq]
    exact congrArg UInt64.toNat hmoves.next_eq
  · obtain ⟨place, hplace⟩ := List.mem_iff_getElem?.mp hother
    by_cases hsame : index = place
    · subst hsame
      have hget := hplace
      rw [hworkers] at hget
      obtain rfl := Option.some.inj ((List.getElem?_set_self hindex).symm.trans hget)
      exact hmoves.own operation hoperation (hown.trans hid)
    · -- another worker has another ID
      have hold := hplace
      rw [hworkers, List.getElem?_set_ne hsame] at hold
      refine h.fits other (List.mem_of_getElem? hold) operation ?_ hown
      refine hmoves.others operation hoperation fun heq => hsame ?_
      have hnumbers := (h.ids index worker hworker).symm.trans (heq.symm.trans
        (hown.trans (hids place other hplace)))
      exact Nat.succ_injective (operationId_injective hnumbers)

theorem OperationsFit.create {submission : Submission} (h : OperationsFit service)
    (hroom : service.workers.length + 1 < 2 ^ 64) :
    OperationsFit (service.create index submission) := by
  have hnext : service.registry.state.nextOperation.toNat = service.workers.length + 1 := by
    rw [h.next_eq]
    omega
  have hlength : (service.create index submission).workers.length = service.workers.length + 1 := by
    simp only [TaskService.create, List.length_append, List.length_singleton]
  have hid : (service.registry.create submission.operation).1.id =
      operationId (service.workers.length + 1) := congrArg operationId hnext
  refine ⟨?_, ?_, fun place worker hworker => ?_, fun worker hworker operation hoperation hown => ?_⟩
  · rw [hlength]
    exact h.ordered.push service.registry.operationCapacity_pos hid rfl rfl
  · rw [hlength]
    show (saturatingAdd service.registry.state.nextOperation 1).toNat = _
    rw [toNat_saturatingAdd, hnext, UInt64.toNat_one]
  · by_cases hold : place < service.workers.length
    · exact h.ids place worker (List.getElem?_append_left hold ▸ hworker)
    · have hlast : (service.workers ++ [(.fresh (service.registry.create submission.operation).1.id
          submission.request : TaskWorker ε κ)])[place]? = some worker := hworker
      rw [List.getElem?_append_right (Nat.le_of_not_lt hold), List.getElem?_singleton] at hlast
      split at hlast
      · next hzero =>
          cases hlast
          have hplace : place = service.workers.length := by omega
          rw [hplace]
          exact hid
      · cases hlast
  · rcases mem_of_mem_pushBounded hoperation with hold | rfl
    · rcases List.mem_append.mp hworker with hworker | hfresh
      · exact h.fits worker hworker operation hold hown
      · -- the new ID is not among the old ones
        obtain rfl := List.mem_singleton.mp hfresh
        obtain ⟨number, hlt, hnumber⟩ := h.ordered.numbered.exists_lt hold
        have heq := operationId_injective (hnumber.symm.trans (hown.trans hid))
        exact absurd heq hlt.ne
    · rcases List.mem_append.mp hworker with hworker | hfresh
      · obtain ⟨place, hplace⟩ := List.mem_iff_getElem?.mp hworker
        have hlt := (List.getElem?_eq_some_iff.mp hplace).1
        have heq := operationId_injective (hid.symm.trans (hown.trans (h.ids place worker hplace)))
        omega
      · obtain rfl := List.mem_singleton.mp hfresh
        rfl

theorem OperationsFit.step {label : TaskLabel τ} (h : OperationsFit service)
    (hroom : next.workers.length < 2 ^ 64) (heffect : ServiceEffect config service label next) :
    OperationsFit next := by
  cases heffect with
  | quiet hworkers hregistry _ _ _ _ _ =>
      refine ⟨?_, ?_, ?_, ?_⟩
      · rw [hworkers, hregistry]
        exact h.ordered
      · rw [hworkers, hregistry]
        exact h.next_eq
      · rw [hworkers]
        exact h.ids
      · rw [hworkers, hregistry]
        exact h.fits
  | admitted submission hfree => exact ⟨h.ordered, h.next_eq, h.ids, h.fits⟩
  | created hsubmission =>
      simp only [TaskService.create, List.length_append, List.length_singleton] at hroom
      exact h.create hroom
  | moved hworker hmoves =>
      have hfits := h.fits _ (List.mem_of_getElem? hworker)
      obtain ⟨hordered, hnext, hown, hothers⟩ := hmoves.registryMoves h.ordered hfits
      exact h.set hworker hmoves.keeps.1 rfl ⟨hordered, hnext, hown, hothers⟩
  | retained hworker hhandle | cancelled hfind hworker =>
      have hfits := h.fits _ (List.mem_of_getElem? hworker)
      refine h.set hworker ?_ rfl (.of_eq rfl hfits)
      rfl

theorem ServiceEffect.length_le {label : TaskLabel τ}
    (h : ServiceEffect config service label next) :
    service.workers.length ≤ next.workers.length := by
  cases h with
  | quiet hworkers => rw [hworkers]
  | admitted => exact Nat.le_refl _
  | created => simp [TaskService.create]
  | moved | retained | cancelled => simp [move]

theorem operationsFit_new
    (hregistry : new operationCapacity eventCapacity = .ok registry) :
    OperationsFit (.new world registry limiter : TaskService τ ε κ) := by
  obtain ⟨-, -, hstate⟩ := of_new_eq_ok hregistry
  refine ⟨?_, ?_, fun _ _ hworker => ?_, List.forall_mem_nil _⟩
  · simp only [TaskService.new, hstate]
    exact ⟨numbered_nil, Nat.zero_le _, List.forall_mem_nil _⟩
  · simp only [TaskService.new, hstate]
    rfl
  · exact absurd (List.mem_of_getElem? hworker) List.not_mem_nil

/-- Operations follow their workers in every run with numbers for all of them. -/
theorem operationsFit_of_run
    (hregistry : new operationCapacity eventCapacity = .ok registry)
    {labels : List (TaskLabel τ)} {reached : TaskService τ ε κ}
    (hrun : run (step config) (.new world registry limiter) labels = some reached)
    (hroom : reached.workers.length < 2 ^ 64) : OperationsFit reached := by
  let inv (service : TaskService τ ε κ) : Prop :=
    service.workers.length < 2 ^ 64 → OperationsFit service
  have hstep : ∀ service label next, inv service → service.step config label = some next →
      inv next := by
    intro service label next hinv hstep hroom
    have heffect := service_effect hstep
    exact (hinv (heffect.length_le.trans_lt hroom)).step hroom heffect
  have hstart : inv (.new world registry limiter) := fun _ => operationsFit_new hregistry
  have hreached : inv reached := run_preserves hstep hstart hrun
  exact hreached hroom

end Operations

/-! ### Results -/

theorem isTerminal_of_concluded {state : OperationState} (h : Concluded state) :
    isTerminal state = true := by
  rcases h with rfl | rfl | rfl <;> rfl

/-- Every task reports a terminal state. -/
theorem reports_terminal (request : TaskRequest) :
    Reports (fun kind (answer : ActionAnswer ε kind) => Reliable kind answer)
      (fun result => isTerminal result.state = true) request where
  cancelled := rfl
  panicked := rfl
  unspawned := rfl
  lifecycle answer hanswer := by
    obtain ⟨bound, hjudged⟩ := hanswer
    cases answer with
    | error error => rfl
    | ok outcome => exact isTerminal_of_concluded (hjudged outcome rfl).1
  resourcePool answer hanswer := by
    obtain ⟨bound, hjudged⟩ := hanswer
    cases answer with
    | error error => rfl
    | ok outcome => exact isTerminal_of_concluded (hjudged outcome rfl).1
  imports _ answer := by
    cases answer with
    | error error | ok imported => rfl
  unresolved _ _ := rfl

theorem TaskPhase.Yields.result {inventory : InventoryService τ}
    {expected : (kind : ActionKind) → ActionAnswer ε kind → Prop}
    {post : OperationTaskResult → Prop} {phase : TaskPhase ε κ} {result : OperationTaskResult}
    (h : phase.Yields inventory expected post) (hresult : phase.result = some result) :
    post result := by
  cases phase with
  | returned other | settled other answer =>
      cases hresult
      exact h
  | accepted | spawned | running task | skipped error => cases hresult

/-! ### Settlement -/

/-- What holds of permits, results and operations at every moment. -/
structure Settles (config : TaskConfig τ ε κ) (service : TaskService τ ε κ) : Prop where
  permits : PermitsBalanced service
  /-- No permit is dropped while the counter is at zero. -/
  decrements : ∀ worker ∈ service.workers, ∀ label moved,
    worker.step config service.locked service.world service.registry label = some moved →
    moved.released = true → 0 < service.limiter.state.mutations
  released : ∀ worker ∈ service.workers, worker.phase.ended = true → worker.trace.released = 1
  results : ∀ worker ∈ service.workers, ∀ result, worker.phase.result = some result →
    isTerminal result.state = true
  operations : service.workers.length < 2 ^ 64 → ∀ worker ∈ service.workers,
    worker.phase.ended = true → ∀ operation ∈ service.registry.state.operations,
    operation.id = worker.id → isTerminal operation.state = true

/-- **Every worker settles its operation and gives back its permit**, in every run of the
daemon; operations beyond the largest number of the registry apart. -/
theorem settles_of_run {world : World τ} {limits : ServiceLimits}
    (hregistry : new operationCapacity eventCapacity = .ok registry)
    (hlimiter : ServiceLimiter.new limits = .ok limiter) {labels : List (TaskLabel τ)}
    {reached : TaskService τ ε κ}
    (hrun : run (step config) (.new world registry limiter) labels = some reached) :
    Settles config reached := by
  have hzero : limiter.state.mutations = 0 := by
    unfold ServiceLimiter.new at hlimiter
    split at hlimiter
    · cases hlimiter
      rfl
    · cases hlimiter
  have hbalanced : PermitsBalanced reached := by
    refine run_preserves (fun _ _ _ h hstep => PermitsBalanced.step h (service_effect hstep)) ?_ hrun
    exact ⟨hzero, hzero ▸ Nat.zero_le _⟩
  have hkept : ∀ worker ∈ reached.workers, worker.PermitKept :=
    permitKept_invariant.of_run (guarded_true _ _) hrun
  have hterminal := Reports.of_run reports_terminal hrun
  refine ⟨hbalanced, fun worker hworker label moved hstep hreleased => ?_,
    fun worker hworker hended => ?_,
    fun worker hworker result hresult => (hterminal worker hworker).result hresult,
    fun hroom worker hworker hended operation hoperation hown => ?_⟩
  · have hholds := (worker_effect hstep).permit.1
    rw [hreleased, Bool.or_true] at hholds
    have hpos := List.countP_pos_iff.mpr ⟨worker, hworker, hholds⟩
    rw [hbalanced.counter_eq]
    omega
  · have hreleased := hkept worker hworker
    unfold TaskWorker.PermitKept TaskWorker.holdsPermit at hreleased
    cases hphase : worker.phase with
    | skipped error | settled result answer => rw [hreleased, hphase]; rfl
    | accepted | spawned | running task | returned result =>
        rw [hphase] at hended
        cases hended
  · have hfits := (operationsFit_of_run hregistry hrun hroom).fits worker hworker operation
      hoperation hown
    have hresult := hterminal worker hworker
    cases hphase : worker.phase with
    | skipped error =>
        rw [hphase] at hfits
        cases hfits
    | settled result answer =>
        rw [hphase] at hfits hresult
        have hstate : isTerminal result.state = true := hresult
        cases answer with
        | ok recorded =>
            rw [show operation.state = result.state from hfits]
            exact hstate
        | error error => exact absurd hstate (by simp [show isTerminal result.state = false from hfits])
    | accepted | spawned | running task | returned result =>
        rw [hphase] at hended
        cases hended

/-! ### A worker on its own, and one too many -/

/-- A daemon on a host that cannot be observed. -/
def blindConfig : TaskConfig Unit Unit Unit where
  source := ⟨fun host => (.error (), host)⟩
  runner := ⟨fun _ host => (.error (), host)⟩
  store := plainStore
  imagePolicy := ⟨[]⟩

/-- Nothing is observed yet and the image store is empty. -/
def blindWorld : World Unit := ⟨.new (), .new, .empty⟩

/-- A request to start instance 1, as it is checked. -/
def startTask : TaskRequest := .lifecycle (.start ⟨⟨1⟩, ⟨1⟩⟩) .startInstance ⟨1⟩ ⟨1⟩

/-- The submission that a peer makes of it. -/
def startSubmission : Submission := ⟨startTask, startTask.operation ⟨7, ⟨0, 0, none⟩⟩ none "now"⟩

/-- The peer sends it. -/
def submitStart {τ : Type} : TaskLabel τ :=
  .submit (.lifecycle (.start ⟨⟨1⟩, ⟨1⟩⟩) .startInstance ⟨1⟩ ⟨1⟩) ⟨fun _ => none, fun _ => none⟩
    ⟨7, ⟨0, 0, none⟩⟩ none "now"

/-- A step of a task that touches no disk. -/
def advanceTask {τ : Type} (index : ℕ) : TaskLabel τ :=
  .worker index (.advance ⟨none, .ok (true, 0), [], none, []⟩ fun _ => .done)

/-- The request is submitted and its worker comes to its end: the host cannot be observed. -/
def blindRun : List (TaskLabel Unit) :=
  [submitStart, .create 0, .worker 0 .spawn, .worker 0 .start] ++ List.replicate 6 (advanceTask 0) ++
    [.worker 0 (.finish "later")]

theorem settles_of_run_blind : ∃ (registry : OperationRegistry) (limiter : ServiceLimiter)
      (reached : TaskService Unit Unit Unit),
      new 2 2 = .ok registry ∧ ServiceLimiter.new ⟨1, 1, 1⟩ = .ok limiter ∧
      run (step blindConfig) (.new blindWorld registry limiter) blindRun = some reached ∧
      reached.workers.map (·.phase.ended) = [true] ∧ Settles blindConfig reached := by
  let registry : OperationRegistry := ⟨2, 2, ⟨1, 1, ⟨0⟩, [], []⟩, Nat.two_pos, Nat.two_pos⟩
  let limiter : ServiceLimiter := ⟨⟨1, 1, 1⟩, ⟨0, 0, 0⟩⟩
  have hregistry : new 2 2 = .ok registry := rfl
  have hlimiter : ServiceLimiter.new ⟨1, 1, 1⟩ = .ok limiter := rfl
  have hdone : (run (step blindConfig) (.new blindWorld registry limiter) blindRun).map
      (fun service => service.workers.map (·.phase.ended)) = some [true] := by decide
  obtain ⟨reached, hrun, hended⟩ := Option.map_eq_some_iff.mp hdone
  exact ⟨registry, limiter, reached, hregistry, hlimiter, hrun, hended,
    settles_of_run hregistry hlimiter hrun⟩

/-- Submissions whose threads cannot be created, one after the other. -/
def unspawnedRun (index : ℕ) : List (TaskLabel τ) :=
  [submitStart, .create 0, .worker index .spawnFails, .worker index (.finish "later")]

/-- After `count` of them the daemon is idle, and the last operation is retained and over. -/
structure Unspawned (world : World τ) (limits : ServiceLimits) (capacity count : ℕ)
    (service : TaskService τ ε κ) : Prop where
  fit : OperationsFit service
  length_eq : service.workers.length = count
  held_eq : ∀ worker ∈ service.workers, worker.held = none
  world_eq : service.world = world
  admitted_eq : service.admitted = []
  retained_eq : service.retained = []
  limiter_eq : service.limiter = ⟨limits, ⟨0, 0, 0⟩⟩
  capacity_eq : service.registry.operationCapacity = capacity
  last : count = 0 ∨ ∃ operation ∈ service.registry.state.operations,
    operation.id = operationId count ∧ isTerminal operation.state = true

/-- The peer has submitted its request, and the operation exists. -/
def TaskService.joined (limits : ServiceLimits) (service : TaskService τ ε κ) : TaskService τ ε κ :=
  TaskService.create
    { service with limiter := ⟨limits, ⟨0, 1, 0⟩⟩, admitted := [startSubmission] } 0
    startSubmission

/-- The worker of that operation. -/
def TaskService.newcomer (service : TaskService τ ε κ) : TaskWorker ε κ :=
  .fresh (service.registry.create startSubmission.operation).1.id startTask

section Unspawned

variable {world : World τ} {limits : ServiceLimits} {capacity count : ℕ}
  {service : TaskService τ ε κ}

theorem unspawned_new
    (hregistry : new operationCapacity eventCapacity = .ok registry) :
    Unspawned world limits operationCapacity 0
      (.new world registry ⟨limits, ⟨0, 0, 0⟩⟩ : TaskService τ ε κ) :=
  ⟨operationsFit_new hregistry, rfl, List.forall_mem_nil _, rfl, rfl, rfl, rfl,
    (of_new_eq_ok hregistry).1, .inl rfl⟩

theorem Unspawned.joins (h : Unspawned world limits capacity count service)
    (config : TaskConfig τ ε κ) (hlimits : 0 < limits.mutations) :
    run (step config) service [submitStart, .create 0] = some (service.joined limits) ∧
      (service.joined limits).workers.length = count + 1 ∧
      (service.joined limits).workers[count]? = some service.newcomer := by
  obtain ⟨world, registry, limiter, admitted, workers, retained⟩ := service
  obtain rfl : admitted = [] := h.admitted_eq
  obtain rfl : limiter = ⟨limits, ⟨0, 0, 0⟩⟩ := h.limiter_eq
  have hlength : workers.length = count := h.length_eq
  have hacquire : ServiceLimiter.acquire ⟨limits, ⟨0, 0, 0⟩⟩ .mutation =
      .ok ⟨limits, ⟨0, 1, 0⟩⟩ := if_neg (Nat.not_le.mpr hlimits)
  refine ⟨?_, ?_, ?_⟩
  · have hsubmit : step config ⟨world, registry, ⟨limits, ⟨0, 0, 0⟩⟩, [], workers,
        retained⟩ submitStart =
        some ⟨world, registry, ⟨limits, ⟨0, 1, 0⟩⟩, [startSubmission], workers, retained⟩ := by
      show some (accept _ startSubmission) = _
      simp only [accept, hacquire, List.nil_append]
    exact run_cons.mpr ⟨_, hsubmit, rfl⟩
  · show (workers ++ [_]).length = count + 1
    rw [List.length_append, List.length_singleton, hlength]
  · rw [← hlength]
    exact List.getElem?_concat_length

/-- A result for a retained operation that has not come to an end is recorded. -/
theorem finish_recorded {next : ℕ}
    (h : OperationsInv next registry.operationCapacity registry.state.operations)
    {operation : Operation} (hmem : operation ∈ registry.state.operations)
    (hlive : isTerminal operation.state = false) {state : OperationState}
    (hterminal : isTerminal state = true) (observedGeneration : Option Generation)
    (error : Option ApiError) (completedAt : String) :
    let reached := (registry.finish operation.id state observedGeneration error completedAt).2
    reached.operationCapacity = registry.operationCapacity ∧ ∃ recorded ∈ reached.state.operations,
        recorded.id = operation.id ∧ isTerminal recorded.state = true := by
  obtain ⟨reached, hfinish, hupdated⟩ := update_of_mem h hmem
    (finishMutation_advances state observedGeneration error completedAt)
  rw [finish, hfinish]
  exact ⟨hupdated.capacity_eq, _,
    hupdated.mem _ (finishMutation_eq_ok.mpr ⟨hlive, hterminal, rfl⟩), rfl, hterminal⟩

/-- A worker of which no thread was created settles its operation all the same. -/
theorem Unspawned.succ (h : Unspawned world limits capacity count service)
    (hlimits : 0 < limits.mutations) (hroom : count + 1 < 2 ^ 64) :
    ∃ next, run (step config) service (unspawnedRun count) = some next ∧
      Unspawned world limits capacity (count + 1) next := by
  obtain ⟨hjoins, hlength, hnewcomer⟩ := h.joins config hlimits
  let worker := service.newcomer.release (.returned workerSpawnResult)
  let dropped := (service.joined limits).move count
    ⟨worker, (service.joined limits).world, (service.joined limits).registry, true⟩
  let finished := dropped.move count
    (worker.finish dropped.world dropped.registry workerSpawnResult "later")
  have hdrop : (service.joined limits).step config (.worker count .spawnFails) = some dropped := by
    simp only [step, hnewcomer]
    rfl
  have hworker : dropped.workers[count]? = some worker :=
    List.getElem?_set_self (hlength ▸ Nat.lt_succ_self count)
  have hfinish : dropped.step config (.worker count (.finish "later")) = some finished := by
    simp only [step, hworker]
    rfl
  have hlength' : dropped.workers.length = count + 1 := (List.length_set).trans hlength
  have hlength'' : finished.workers.length = count + 1 := (List.length_set).trans hlength'
  -- numbers last for one more operation
  have hfit : OperationsFit (service.joined limits) := by
    refine OperationsFit.create ⟨h.fit.ordered, h.fit.next_eq, h.fit.ids, h.fit.fits⟩ ?_
    show service.workers.length + 1 < 2 ^ 64
    rw [h.length_eq]
    exact hroom
  have hfit' : OperationsFit dropped := hfit.step (hlength' ▸ hroom) (service_effect hdrop)
  have hid : service.newcomer.id = operationId (count + 1) := by
    have hnext := h.fit.next_eq
    rw [h.length_eq] at hnext
    refine congrArg operationId (hnext.trans ?_)
    omega
  have hmem : (service.registry.create startSubmission.operation).1 ∈
      dropped.registry.state.operations := mem_pushBounded_self
  obtain ⟨hcapacity, recorded, hrecorded, hsame, hterminal⟩ :=
    finish_recorded hfit'.ordered hmem rfl (show isTerminal workerSpawnResult.state = true from rfl)
      workerSpawnResult.observedGeneration workerSpawnResult.error "later"
  refine ⟨finished, ?_, ?_⟩
  · exact run_append hjoins (run_cons.mpr ⟨dropped, hdrop, run_cons.mpr ⟨finished, hfinish, rfl⟩⟩)
  · refine ⟨hfit'.step (hlength'' ▸ hroom) (service_effect hfinish), hlength'', ?_, h.world_eq, rfl,
      h.retained_eq, rfl, hcapacity.trans h.capacity_eq,
      .inr ⟨recorded, hrecorded, hsame.trans hid, hterminal⟩⟩
    intro other hother
    rcases List.mem_or_eq_of_mem_set hother with hother | rfl
    · rcases List.mem_or_eq_of_mem_set hother with hother | rfl
      · rcases List.mem_append.mp hother with hold | hfresh
        · exact h.held_eq other hold
        · obtain rfl := List.mem_singleton.mp hfresh
          rfl
      · rfl
    · rfl

/-- The last operation is found first, and it is not queued. -/
theorem start_refused {count : ℕ}
    (h : OperationsInv (count + 1) registry.operationCapacity registry.state.operations)
    (hcapacity : registry.operationCapacity = 2) {last : Operation}
    (hlast : last ∈ registry.state.operations) (hid : last.id = operationId count)
    (hterminal : isTerminal last.state = true) (request : NewOperation) :
    (registry.create request).2.start (operationId count) =
      (.error .invalidTransition, (registry.create request).2) := by
  have hget : (registry.create request).2.get (operationId count) = some last := by
    refine find?_pushBounded_of_mem hlast (fun hfull => ?_) (decide_eq_true hid) ?_
    · -- in a registry for two the newest of the old operations stays
      refine h.numbered.head?_ne operationId_injective hid ?_
      rw [hfull, hcapacity]
      exact Nat.one_lt_two
    · intro operation hoperation hfound
      exact h.eq_of_id_eq hoperation hlast ((of_decide_eq_true hfound).trans hid.symm)
  have hqueued : last.state ≠ .queued := by
    intro hqueued
    rw [hqueued] at hterminal
    cases hterminal
  have hrejected : startMutation last = .error .invalidTransition := by
    simp only [startMutation, rejectIf, if_pos hqueued]
    rfl
  simp only [start, update, hget, hrejected]

/-- There are no more numbers: the next operation gets the ID of the last one, which its worker
finds over. -/
theorem Unspawned.skips (h : Unspawned world limits 2 count service)
    (hlimits : 0 < limits.mutations) (hcount : count + 1 = 2 ^ 64) :
    ∃ next worker operation, run (step config) service
        [submitStart, .create 0, .worker count .spawn, .worker count .start] = some next ∧
      next.workers.getLast? = some worker ∧ worker.phase = .skipped .invalidTransition ∧
      next.registry.state.operations.getLast? = some operation ∧ operation.id = worker.id ∧
      operation.state = .queued := by
  obtain ⟨hjoins, hlength, hnewcomer⟩ := h.joins config hlimits
  let spawned : TaskWorker ε κ := { service.newcomer with phase := .spawned, handle := .created }
  let threaded := (service.joined limits).move count
    ⟨spawned, (service.joined limits).world, (service.joined limits).registry, false⟩
  let refused := threaded.move count
    ⟨spawned.release (.skipped .invalidTransition), threaded.world, threaded.registry, true⟩
  have hspawn : (service.joined limits).step config (.worker count .spawn) = some threaded := by
    simp only [step, hnewcomer]
    rfl
  have hlength' : threaded.workers.length = count + 1 := (List.length_set).trans hlength
  have hworker : threaded.workers[count]? = some spawned :=
    List.getElem?_set_self (hlength ▸ Nat.lt_succ_self count)
  have hid : spawned.id = operationId count := by
    have hnext := h.fit.next_eq
    rw [h.length_eq, hcount] at hnext
    refine congrArg operationId (hnext.trans ?_)
    omega
  obtain ⟨last, hlast, hsame, hterminal⟩ := h.last.resolve_left (by omega)
  have hordered := h.fit.ordered
  rw [h.length_eq] at hordered
  have hstart : threaded.registry.start spawned.id = (.error .invalidTransition, threaded.registry) := by
    rw [hid]
    exact start_refused hordered h.capacity_eq hlast hsame hterminal startSubmission.operation
  have hrefuse : threaded.step config (.worker count .start) = some refused := by
    simp only [step, hworker, TaskWorker.step, TaskWorker.start, hstart]
    rfl
  refine ⟨refused, spawned.release (.skipped .invalidTransition),
    (service.registry.create startSubmission.operation).1, ?_, ?_, rfl, getLast?_pushBounded, rfl,
    rfl⟩
  · exact run_append hjoins (run_cons.mpr ⟨threaded, hspawn, run_cons.mpr ⟨refused, hrefuse, rfl⟩⟩)
  · rw [List.getLast?_eq_getElem?, show refused.workers.length = count + 1 from
      (List.length_set).trans hlength']
    exact List.getElem?_set_self (hlength' ▸ Nat.lt_succ_self count)

/-- Any number of such submissions. -/
theorem unspawned_run
    (hregistry : new operationCapacity eventCapacity = .ok registry)
    (hlimits : 0 < limits.mutations) (hroom : count < 2 ^ 64) :
    ∃ reached, run (step config) (.new world registry ⟨limits, ⟨0, 0, 0⟩⟩)
        ((List.range count).flatMap unspawnedRun) = some reached ∧
      Unspawned world limits operationCapacity count reached := by
  have hidle : Unspawned world limits operationCapacity 0
      (.new world registry ⟨limits, ⟨0, 0, 0⟩⟩ : TaskService τ ε κ) := unspawned_new hregistry
  exact run_numbered hidle count fun index hindex service h => h.succ hlimits (by omega)

end Unspawned

/-- After as many operations as the registry has numbers, a worker ends with its operation queued
for good. -/
theorem last_number_skips_worker :
    ∃ (registry : OperationRegistry) (limiter : ServiceLimiter) (labels : List (TaskLabel Unit))
      (reached : TaskService Unit Unit Unit) (worker : TaskWorker Unit Unit)
      (operation : Operation),
      new 2 2 = .ok registry ∧ ServiceLimiter.new ⟨1, 1, 1⟩ = .ok limiter ∧
      run (step blindConfig) (.new blindWorld registry limiter) labels = some reached ∧
      reached.workers.getLast? = some worker ∧ worker.phase = .skipped .invalidTransition ∧
      reached.registry.state.operations.getLast? = some operation ∧ operation.id = worker.id ∧
      operation.state = .queued := by
  let registry : OperationRegistry := ⟨2, 2, ⟨1, 1, ⟨0⟩, [], []⟩, Nat.two_pos, Nat.two_pos⟩
  let limiter : ServiceLimiter := ⟨⟨1, 1, 1⟩, ⟨0, 0, 0⟩⟩
  have hregistry : new 2 2 = .ok registry := rfl
  have hlimiter : ServiceLimiter.new ⟨1, 1, 1⟩ = .ok limiter := rfl
  obtain ⟨count, hcount⟩ : ∃ count, count + 1 = 2 ^ 64 := ⟨2 ^ 64 - 1, by norm_num⟩
  obtain ⟨middle, hmiddle, hunspawned⟩ : ∃ middle, run (step blindConfig)
      (.new blindWorld registry limiter) ((List.range count).flatMap unspawnedRun) = some middle ∧
      Unspawned blindWorld ⟨1, 1, 1⟩ 2 count middle :=
    unspawned_run hregistry Nat.one_pos (by omega)
  obtain ⟨reached, worker, operation, hskips, hlast⟩ := hunspawned.skips Nat.one_pos hcount
  exact ⟨registry, limiter, _, reached, worker, operation, hregistry, hlimiter,
    run_append hmiddle hskips, hlast⟩

end Kernmux.Daemon
