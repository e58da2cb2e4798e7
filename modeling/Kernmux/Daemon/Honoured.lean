import Kernmux.Daemon.Cancellation

/-!
# Kernmux.Daemon.Honoured

**A cancellation that comes in time is honoured.** A task waits for the mutex
that serialises its mutation, and somebody may cancel its operation meanwhile.
Four of the five tasks look at their token again once they have the mutex. That
of an OS image does not: between its only check and the mutex it can be
cancelled, and imports all the same.

`TaskService.Heeded` says which cancellations this is not about. In runs that
meet it, a task that was cancelled before it had its mutex mutates nothing, and
its operation ends cancelled, or failed when a managed load did not find its
artifacts.
-/

namespace Kernmux.Daemon

open Api.V1 Kernmux.Core Library Inventory Lifecycle Scheduler OperationRegistry

variable {τ ε κ : Type} {config : TaskConfig τ ε κ}

/-! ### Tasks and their tokens -/

/-- The task of this request looks at its token only once. -/
def TaskRequest.checksOnce : TaskRequest → Bool
  | .osImageImport .. => true
  | .lifecycle .. | .resourcePool _ | .imageImport .. | .managedLoad _ => false

/-- A managed load that has not found its artifacts. -/
def TaskRequest.Unresolved (request : TaskRequest) (result : OperationTaskResult) : Prop :=
  ∃ load error, request = .managedLoad load ∧ result = catalogFailure error

/-- How a cancelled worker may end. -/
def TaskWorker.Excused (worker : TaskWorker ε κ) (result : OperationTaskResult) : Prop :=
  worker.trace.panicked = true ∨ result = .cancelled none ∨ worker.request.Unresolved result

/-- The task has passed its only check, or is before it. -/
def TaskRequest.Unchecked (request : TaskRequest) (task : Task ε κ) : Prop :=
  request.checksOnce = true ∧ (task = request.task ∨ request.task = .check task)

/-- A worker waits for its mutex and will not look at its token any more. -/
def TaskWorker.unchecked (worker : TaskWorker ε κ) : Bool :=
  match worker.phase with
  | .running (.lock _ _) => worker.request.checksOnce
  | _ => false

section Tasks

variable {worker : TaskWorker ε κ} {task : Task ε κ}

theorem honoursUntil_runLifecycle (lifecycle : LifecycleRequest)
    {allowed : OperationTaskResult → Prop} :
    (runLifecycle lifecycle : Task ε κ).HonoursUntil ActionKind.Decisive allowed .lifecycle :=
  ⟨trivial, .inl rfl⟩

/-- Every task but one honours its token until it has its mutex. -/
theorem honoursUntil_task (worker : TaskWorker ε κ) :
    (worker.request.task : Task ε κ).HonoursUntil ActionKind.Decisive worker.Excused
        worker.request.serialMutex ∨ worker.request.Unchecked (worker.request.task : Task ε κ) := by
  cases hrequest : worker.request with
  | lifecycle request kind expectedGeneration instanceId =>
      exact .inl (honoursUntil_runLifecycle request)
  | resourcePool mutation
  | imageImport kind boot expectedGeneration expectedId => exact .inl ⟨trivial, .inl rfl⟩
  | osImageImport expectedGeneration label architecture expectedId =>
      exact .inr ⟨rfl, .inl rfl⟩
  | managedLoad request =>
      have hfailed : ∀ error, worker.Excused (catalogFailure error) :=
        fun error => .inr (.inr ⟨request, error, hrequest, rfl⟩)
      refine .inl ⟨⟨not_decisive_resolve, fun answer => ?_⟩,
        .inr ⟨not_decisive_resolve, fun answer => ?_⟩⟩
      · cases answer with
        | error error => exact hfailed error
        | ok paths => exact trivial
      · cases answer with
        | error error => exact hfailed error
        | ok paths => exact honoursUntil_runLifecycle _

theorem honours_of_unchecked {allowed : OperationTaskResult → Prop}
    (h : worker.request.Unchecked task) (hphase : worker.phase = .running task)
    (hchecked : worker.unchecked = false) : task.Honours ActionKind.Decisive allowed := by
  obtain ⟨honce, htask⟩ := h
  simp only [TaskWorker.unchecked, hphase] at hchecked
  cases hrequest : worker.request with
  | osImageImport expectedGeneration label architecture expectedId =>
      rw [hrequest] at htask
      rcases htask with rfl | htask
      · exact trivial
      · obtain rfl := Program.check.inj htask
        rw [hrequest] at hchecked
        cases hchecked
  | lifecycle | resourcePool | imageImport | managedLoad =>
      rw [hrequest] at honce
      cases honce

/-- A task that looks at its token once goes to its mutex, or is turned away. -/
theorem TaskRequest.Unchecked.step {request : TaskRequest} {rest : Task ε κ}
    {goes : (kind : ActionKind) → ActionStage ε κ kind → ActionStage ε κ kind → Prop}
    {answers : (kind : ActionKind) → ActionStage ε κ kind → ActionAnswer ε kind → Prop} {flag : Bool}
    (h : request.Unchecked task)
    (hstep : Program.Step goes answers flag (.cancelled none) task rest)
    (hlock : task ≠ .lock request.serialMutex rest) :
    request.Unchecked rest ∨ rest = .done (.cancelled none) := by
  obtain ⟨honce, htask⟩ := h
  cases request with
  | osImageImport expectedGeneration label architecture expectedId =>
      rcases htask with rfl | htask
      · cases hstep with
        | passed next hflag => exact .inl ⟨rfl, .inr rfl⟩
        | turnedAway next hflag => exact .inr rfl
      · obtain rfl := Program.check.inj htask
        cases hstep with
        | locked mutex next => exact absurd rfl hlock
  | lifecycle | resourcePool | imageImport | managedLoad => cases honce

theorem TaskRequest.Unchecked.waits {request : TaskRequest} (h : request.Unchecked task) :
    (∃ next, task = .check next) ∨ ∃ mutex next, task = .lock mutex next := by
  obtain ⟨honce, htask⟩ := h
  cases request with
  | osImageImport expectedGeneration label architecture expectedId =>
      rcases htask with rfl | htask
      · exact .inl ⟨_, rfl⟩
      · exact .inr ⟨_, _, (Program.check.inj htask).symm⟩
  | lifecycle | resourcePool | imageImport | managedLoad => cases honce

end Tasks

/-! ### Workers and their tokens -/

/-- What a worker does about its token while its task runs. -/
structure TaskWorker.Obeys (worker : TaskWorker ε κ) (task : Task ε κ) : Prop where
  early : worker.trace.cancelledEarly = true → worker.cancelled = true ∧ worker.mutated = false ∧
    task.Honours ActionKind.Decisive worker.Excused
  waiting : worker.trace.serialised = false → worker.mutated = false ∧
    (task.HonoursUntil ActionKind.Decisive worker.Excused worker.request.serialMutex ∨
      worker.request.Unchecked task)

/-- A worker with what is known of its token. -/
structure Obedient (inventory : InventoryService τ) (worker : TaskWorker ε κ) : Prop where
  holds : worker.phase.Holds
    (worker.mutated = false ∧ worker.trace.serialised = false ∧
      (worker.trace.cancelledEarly = true → worker.cancelled = true))
    (fun task =>
      task.Yields (StageReady inventory) Reliable (fun _ => True) ∧ worker.Obeys task)
    (fun result =>
      worker.trace.cancelledEarly = true ∨
          (worker.handle ≠ .missing ∧ worker.trace.serialised = false) →
        worker.mutated = false ∧ worker.Excused result)
  accepted : worker.phase = .accepted →
    worker.handle = .missing ∧ worker.trace.cancelledEarly = false

section Workers

variable {world : World τ} {registry : OperationRegistry} {worker : TaskWorker ε κ}
  {moved : TaskWorker.Moved τ ε κ}

/-- What a step leaves of the trace. -/
structure TraceKept (worker after : TaskWorker ε κ) : Prop where
  cancelled : after.cancelled = worker.cancelled
  early : after.trace.cancelledEarly = worker.trace.cancelledEarly
  serialised : after.trace.serialised = false → worker.trace.serialised = false
  /-- A mutex is acquired by a running task only. -/
  idle : (∀ rest, worker.phase ≠ .running rest) → after.trace.serialised = worker.trace.serialised
  panicked : worker.trace.panicked = true → after.trace.panicked = true

theorem WorkerEffect.traceKept (h : WorkerEffect config world registry worker moved) :
    TraceKept worker moved.worker := by
  cases h with
  | locked hphase =>
      exact ⟨rfl, rfl, fun hfree => (Bool.or_eq_false_iff.mp hfree).1,
        fun hidle => absurd hphase (hidle _), id⟩
  | stopped hphase hperform | panicked hphase => exact ⟨rfl, rfl, id, fun _ => rfl, fun _ => rfl⟩
  | spawned | spawnFailed | started | refused | unguarded | returned | passed | turnedAway
  | unlocked | continued | answered | finished | exited => exact ⟨rfl, rfl, id, fun _ => rfl, id⟩

theorem TraceKept.excused {after : TaskWorker ε κ} (h : TraceKept worker after)
    (hrequest : after.request = worker.request) (result : OperationTaskResult)
    (hexcused : worker.Excused result) : after.Excused result := by
  unfold TaskWorker.Excused at hexcused ⊢
  rw [hrequest]
  exact hexcused.imp_left h.panicked

/-- As long as the token counts, nothing is mutated. -/
theorem TaskWorker.Obeys.untouched {task : Task ε κ} (h : worker.Obeys task)
    (hphase : worker.phase = .running task)
    (heffect : WorkerEffect config world registry worker moved)
    (hcounts : moved.worker.trace.cancelledEarly = true ∨ moved.worker.trace.serialised = false) :
    moved.worker.mutated = false := by
  have hkept := heffect.traceKept
  have hbefore : worker.mutated = false ∧
      ∀ kind stage next, task = .act kind stage next → ¬ kind.Decisive := by
    rcases hcounts with hearly | hfree
    · obtain ⟨-, huntouched, hhonours⟩ := h.early (hkept.early.symm.trans hearly)
      refine ⟨huntouched, fun kind stage next hact => ?_⟩
      rw [hact] at hhonours
      exact hhonours.1
    · obtain ⟨huntouched, htask⟩ := h.waiting (hkept.serialised hfree)
      refine ⟨huntouched, fun kind stage next hact => ?_⟩
      rw [hact] at htask
      rcases htask with hhonours | hunchecked
      · exact hhonours.1
      · rcases hunchecked.waits with ⟨_, heq⟩ | ⟨_, _, heq⟩ <;> cases heq
  refine Bool.eq_false_iff.mpr fun hmutated => ?_
  rcases heffect.mutates hmutated with htrue | ⟨kind, stage, next, hact, hdecisive⟩
  · exact nomatch hbefore.1.symm.trans htrue
  · refine hbefore.2 kind stage next ?_ hdecisive
    exact TaskPhase.running.inj (hphase.symm.trans hact)

/-- One step of a task. -/
theorem TaskWorker.Obeys.step {task rest : Task ε κ} (h : worker.Obeys task)
    (hphase : worker.phase = .running task)
    (heffect : WorkerEffect config world registry worker moved)
    (hstep : TaskStep moved.world.inventory worker task rest)
    (hlock : ∀ mutex, task = .lock mutex rest → moved.worker = worker.acquire mutex rest) :
    moved.worker.Obeys rest := by
  have hkept := heffect.traceKept
  have hrequest := heffect.keeps.2
  have hexcused := hkept.excused hrequest
  have huntouched := h.untouched hphase heffect
  have hturned : worker.Excused (.cancelled none) := .inr (.inl rfl)
  refine ⟨fun hearly => ?_, fun hfree => ?_⟩
  · -- the token is set, and nothing is done before the next check
    obtain ⟨hcancelled, -, hhonours⟩ := h.early (hkept.early.symm.trans hearly)
    refine ⟨hkept.cancelled.trans hcancelled, huntouched (.inl hearly), ?_⟩
    unfold TaskStep at hstep
    rw [hcancelled] at hstep
    exact (hhonours.step hturned hstep).mono hexcused
  · obtain ⟨-, htask⟩ := h.waiting (hkept.serialised hfree)
    have hwaits : task ≠ .lock worker.request.serialMutex rest := by
      intro heq
      rw [hlock _ heq] at hfree
      simp [TaskWorker.acquire] at hfree
    refine ⟨huntouched (.inr hfree), ?_⟩
    rw [hrequest]
    rcases htask with hhonours | hunchecked
    · exact .inl ((hhonours.step hturned hstep hwaits).mono hexcused)
    · rcases hunchecked.step hstep hwaits with hnext | rfl
      · exact .inr hnext
      · exact .inl (hexcused _ hturned)

theorem reports_true (request : TaskRequest) :
    Reports (fun kind (answer : ActionAnswer ε kind) => Reliable kind answer) (fun _ => True)
      request :=
  ⟨trivial, trivial, trivial, fun _ _ => trivial, fun _ _ => trivial, fun _ _ => trivial,
    fun _ _ => trivial⟩

/-- Every task begins with a check. -/
theorem obeys_task (huntouched : worker.mutated = false)
    (hearly : worker.trace.cancelledEarly = true → worker.cancelled = true) :
    worker.Obeys worker.request.task := by
  refine ⟨fun hset => ⟨hearly hset, huntouched, ?_⟩, fun _ => ⟨huntouched, honoursUntil_task worker⟩⟩
  cases worker.request <;> exact trivial

/-- A task that is over obeys if its result is excused. -/
theorem obeys_done {result : OperationTaskResult}
    (hearly : worker.trace.cancelledEarly = true → worker.cancelled = true)
    (h : worker.trace.cancelledEarly = true ∨ worker.trace.serialised = false →
      worker.mutated = false ∧ worker.Excused result) : worker.Obeys (.done result) :=
  ⟨fun hset => ⟨hearly hset, h (.inl hset)⟩,
    fun hfree => ⟨(h (.inr hfree)).1, .inl (h (.inr hfree)).2⟩⟩

theorem Obedient.step (h : Obedient world.inventory worker)
    (heffect : WorkerEffect config world registry worker moved) :
    Obedient moved.world.inventory moved.worker := by
  have hkept := heffect.traceKept
  have hrequest := heffect.keeps.2
  have hexcused := hkept.excused hrequest
  have hearly : (worker.trace.cancelledEarly = true → worker.cancelled = true) →
      moved.worker.trace.cancelledEarly = true → moved.worker.cancelled = true := by
    rw [hkept.early, hkept.cancelled]
    exact id
  refine ⟨heffect.holds h.holds (fun _ _ _ hact => hact.1.1) (fun hidle => ?_) ?_ ?_ ?_,
    fun hphase => absurd hphase heffect.handle.1⟩
  · have huntouched : worker.mutated = false → moved.worker.mutated = false := by
      intro hbefore
      refine Bool.eq_false_iff.mpr fun hmutated => ?_
      rcases heffect.mutates hmutated with htrue | ⟨kind, stage, rest, hphase, -⟩
      · cases hbefore.symm.trans htrue
      · exact absurd hphase (hidle _)
    refine ⟨fun hquiet => ?_, fun hquiet => ?_, fun haccepted hhandle hquiet hset => ?_,
      fun value hresult hvalue hset => ?_⟩
    · exact ⟨huntouched hquiet.1, (hkept.idle hidle).trans hquiet.2.1, hearly hquiet.2.2⟩
    · refine ⟨(reports_true _).yields_task, ?_⟩
      rw [← hrequest]
      exact obeys_task (huntouched hquiet.1) (hearly hquiet.2.2)
    · -- nobody could cancel a worker without a thread
      obtain ⟨hmissing, hunset⟩ := h.accepted haccepted
      rcases hset with hset | ⟨hpresent, -⟩
      · exact nomatch hunset.symm.trans (hkept.early.symm.trans hset)
      · exact absurd (hhandle.trans hmissing) hpresent
    · have hhandle : moved.worker.handle = worker.handle := by
        refine heffect.handle.2 fun haccepted => ?_
        rw [haccepted] at hresult
        cases hresult
      rw [hkept.early, hhandle, hkept.idle hidle] at hset
      obtain ⟨hbefore, hvalue⟩ := hvalue hset
      exact ⟨huntouched hbefore, hexcused value hvalue⟩
  · intro rest hphase htask hpanicked
    refine ⟨trivial, obeys_done (hearly fun hset => (htask.2.early hset).1) fun hcounts => ?_⟩
    exact ⟨htask.2.untouched hphase heffect hcounts, .inl hpanicked⟩
  · intro value hphase htask
    have hover : moved.worker.trace.cancelledEarly = true ∨ moved.worker.trace.serialised = false →
        moved.worker.mutated = false ∧ moved.worker.Excused value := by
      intro hcounts
      refine ⟨htask.2.untouched hphase heffect hcounts, hexcused value ?_⟩
      rcases hcounts with hset | hfree
      · exact (htask.2.early (hkept.early.symm.trans hset)).2.2
      · rcases (htask.2.waiting (hkept.serialised hfree)).2 with hdone | hunchecked
        · exact hdone
        · rcases hunchecked.waits with ⟨_, heq⟩ | ⟨_, _, heq⟩ <;> cases heq
    exact ⟨⟨trivial, obeys_done (hearly fun hset => (htask.2.early hset).1) hover⟩,
      fun hset => hover (hset.imp_right And.right)⟩
  · intro rest rest' hphase htask hstep hlock
    refine ⟨?_, htask.2.step hphase heffect hstep hlock⟩
    exact htask.1.step trivial hstep (fun _ _ _ _ hgoes => hgoes.ready)
      (fun _ _ _ _ hanswers => ⟨_, hanswers.judged⟩) (StageReady.later heffect.later)

theorem Obedient.later {inventory next : InventoryService τ} (h : Obedient inventory worker)
    (hlater : Later inventory next) : Obedient next worker := by
  refine ⟨h.holds.mono fun task htask => ?_, h.accepted⟩
  exact ⟨Program.Yields.mono htask.1 (StageReady.later hlater), htask.2⟩

theorem Obedient.retain {inventory : InventoryService τ} (h : Obedient inventory worker)
    (hcreated : worker.handle = .created) :
    Obedient inventory { worker with handle := .retained } := by
  refine ⟨?_, fun hphase => nomatch hcreated.symm.trans (h.accepted hphase).1⟩
  have hholds := h.holds
  show worker.phase.Holds _ _ _
  cases hphase : worker.phase with
  | accepted | spawned | skipped error =>
      rw [hphase] at hholds
      exact hholds
  | running task =>
      rw [hphase] at hholds
      exact ⟨hholds.1, hholds.2.early, hholds.2.waiting⟩
  | returned result | settled result answer =>
      rw [hphase] at hholds
      intro hcounts
      refine hholds (hcounts.imp_right fun hfree => ⟨?_, hfree.2⟩)
      rw [hcreated]
      exact nofun

/-- A cancellation of a worker that will look at its token again, or has its mutex. -/
theorem Obedient.cancel {inventory : InventoryService τ} (h : Obedient inventory worker)
    (hhandle : worker.handle = .retained) (hchecked : worker.unchecked = false) :
    Obedient inventory worker.cancel := by
  have hpresent : worker.handle ≠ .missing := by
    rw [hhandle]
    exact nofun
  have haccepted : worker.phase ≠ .accepted := fun hphase => hpresent (h.accepted hphase).1
  have hset : worker.cancel.trace.cancelledEarly = true ↔
      worker.trace.cancelledEarly = true ∨ worker.trace.serialised = false := by
    simp [TaskWorker.cancel]
  refine ⟨?_, fun hphase => absurd hphase haccepted⟩
  have hholds := h.holds
  show worker.phase.Holds _ _ _
  cases hphase : worker.phase with
  | accepted => exact absurd hphase haccepted
  | spawned | skipped error =>
      rw [hphase] at hholds
      exact ⟨hholds.1, hholds.2.1, fun _ => rfl⟩
  | running task =>
      rw [hphase] at hholds
      refine ⟨hholds.1, fun hearly => ⟨rfl, ?_⟩, hholds.2.waiting⟩
      rcases hset.mp hearly with hbefore | hfree
      · exact (hholds.2.early hbefore).2
      · obtain ⟨huntouched, htask⟩ := hholds.2.waiting hfree
        refine ⟨huntouched, ?_⟩
        rcases htask with hhonours | hunchecked
        · exact hhonours.honours
        · exact honours_of_unchecked hunchecked hphase hchecked
  | returned result | settled result answer =>
      rw [hphase] at hholds
      intro hcounts
      refine hholds ?_
      rcases hcounts with hearly | hfree
      · exact (hset.mp hearly).imp_right fun hfree => ⟨hpresent, hfree⟩
      · exact .inr hfree

end Workers

/-! ### Runs -/

/-- Cancellations hit no worker that waits for its mutex and will not look at its token any more;
and the registry has a number for each operation. -/
def TaskService.Heeded (service : TaskService τ ε κ) : TaskLabel τ → Prop
  | .cancel id =>
      ((service.find id).bind (service.workers[·]?)).all (fun worker => !worker.unchecked) = true
  | .create _ => service.workers.length + 1 < 2 ^ 64
  | _ => True

instance (service : TaskService τ ε κ) : (label : TaskLabel τ) → Decidable (service.Heeded label)
  | .cancel _ => inferInstanceAs (Decidable (_ = true))
  | .create _ => inferInstanceAs (Decidable (_ < _))
  | .submit .. | .worker .. | .retain _ | .reap | .drain | .refresh | .refreshCatalog _ | .elapse _
  | .acquire .. | .release .. => inferInstanceAs (Decidable True)

theorem obedient_invariant : WorkerInvariant config TaskService.Heeded Obedient := by
  refine ⟨fun _ _ _ => ⟨⟨rfl, rfl, nofun⟩, fun _ => ⟨rfl, rfl⟩⟩,
    fun _ _ _ hlater h => h.later hlater, fun _ _ _ _ h heffect => h.step heffect,
    fun _ _ hcreated h => h.retain hcreated, ?_⟩
  intro service id index worker hguard hfind hworker hhandle h
  refine h.cancel hhandle ?_
  simpa [TaskService.Heeded, hfind, hworker] using hguard

theorem length_lt_of_heeded {world : World τ} {registry : OperationRegistry}
    {limiter : ServiceLimiter} {labels : List (TaskLabel τ)} {reached : TaskService τ ε κ}
    (hguarded : Guarded (TaskService.step config) TaskService.Heeded (.new world registry limiter)
      labels)
    (hrun : run (TaskService.step config) (.new world registry limiter) labels = some reached) :
    reached.workers.length < 2 ^ 64 := by
  have hstep : ∀ (service : TaskService τ ε κ) label next, service.workers.length < 2 ^ 64 →
      service.Heeded label → service.step config label = some next →
      next.workers.length < 2 ^ 64 := by
    intro service label next hlength hheeded hstep
    cases service_effect hstep with
    | quiet hworkers => rwa [hworkers]
    | admitted => exact hlength
    | created hsubmission =>
        simp only [TaskService.create, List.length_append, List.length_singleton]
        exact hheeded
    | moved | retained | cancelled => simpa [TaskService.move] using hlength
  have hstart : (.new world registry limiter : TaskService τ ε κ).workers.length < 2 ^ 64 :=
    Nat.two_pow_pos 64
  exact run_invariant hstep hstart hguarded hrun

/-- What holds of workers whose cancellation was accepted before they had their mutex. -/
structure Honoured (service : TaskService τ ε κ) : Prop where
  untouched : ∀ worker ∈ service.workers, worker.trace.cancelledEarly = true →
    worker.trace.kerf = false ∧ worker.trace.imported = false
  result : ∀ worker ∈ service.workers, worker.trace.cancelledEarly = true →
    worker.trace.panicked = false → ∀ result, worker.phase.result = some result →
    result = .cancelled none ∨ worker.request.Unresolved result
  record : ∀ worker ∈ service.workers, worker.trace.cancelledEarly = true →
    worker.trace.panicked = false → worker.phase.ended = true →
    ∀ operation ∈ service.registry.state.operations, operation.id = worker.id →
    operation.state = .cancelled ∨
      (∃ load, worker.request = .managedLoad load) ∧ operation.state = .failed

theorem Obedient.untouched {inventory : InventoryService τ} {worker : TaskWorker ε κ}
    (h : Obedient inventory worker) (hearly : worker.trace.cancelledEarly = true) :
    worker.mutated = false := by
  have hholds := h.holds
  cases hphase : worker.phase with
  | accepted | spawned | skipped error =>
      rw [hphase] at hholds
      exact hholds.1
  | running task =>
      rw [hphase] at hholds
      exact (hholds.2.early hearly).2.1
  | returned result | settled result answer =>
      rw [hphase] at hholds
      exact (hholds (.inl hearly)).1

theorem Obedient.excused {inventory : InventoryService τ} {worker : TaskWorker ε κ}
    (h : Obedient inventory worker) (hearly : worker.trace.cancelledEarly = true)
    (hcalm : worker.trace.panicked = false) {result : OperationTaskResult}
    (hresult : worker.phase.result = some result) :
    result = .cancelled none ∨ worker.request.Unresolved result := by
  have hholds := h.holds
  cases hphase : worker.phase with
  | returned other | settled other answer =>
      rw [hphase] at hholds hresult
      cases hresult
      rcases (hholds (.inl hearly)).2 with hpanicked | hexcused
      · cases hcalm.symm.trans hpanicked
      · exact hexcused
  | accepted | spawned | running task | skipped error =>
      rw [hphase] at hresult
      cases hresult

/-- **A cancellation that comes in time is honoured**, in every run that heeds the import of OS
images. -/
theorem honoured_of_heeded_run {world : World τ} {operationCapacity eventCapacity : ℕ}
    {registry : OperationRegistry} {limiter : ServiceLimiter}
    (hregistry : new operationCapacity eventCapacity = .ok registry)
    {labels : List (TaskLabel τ)} {reached : TaskService τ ε κ}
    (hguarded : Guarded (TaskService.step config) TaskService.Heeded (.new world registry limiter)
      labels)
    (hrun : run (TaskService.step config) (.new world registry limiter) labels = some reached) :
    Honoured reached := by
  have hobedient : ∀ worker ∈ reached.workers, Obedient reached.world.inventory worker :=
    obedient_invariant.of_run hguarded hrun
  have hfit := operationsFit_of_run hregistry hrun (length_lt_of_heeded hguarded hrun)
  refine ⟨fun worker hworker hearly => ?_, fun worker hworker hearly hcalm result hresult => ?_,
    fun worker hworker hearly hcalm hended operation hoperation hown => ?_⟩
  · exact mutated_eq_false.mp ((hobedient worker hworker).untouched hearly)
  · exact (hobedient worker hworker).excused hearly hcalm hresult
  · have hfits := hfit.fits worker hworker operation hoperation hown
    have hexcused := @Obedient.excused _ _ _ _ worker (hobedient worker hworker) hearly hcalm
    cases hphase : worker.phase with
    | skipped error =>
        rw [hphase] at hfits
        cases hfits
    | settled result answer =>
        rw [hphase] at hfits hexcused
        have hkind := hexcused rfl
        cases answer with
        | ok recorded =>
            rw [show operation.state = result.state from hfits]
            rcases hkind with rfl | ⟨load, error, hrequest, rfl⟩
            · exact .inl rfl
            · exact .inr ⟨⟨load, hrequest⟩, rfl⟩
        | error error =>
            rcases hkind with rfl | ⟨load, error, hrequest, rfl⟩ <;> cases hfits
    | accepted | spawned | running task | returned result =>
        rw [hphase] at hended
        cases hended

/-- The operation is cancelled while its worker waits for the executor. -/
def waitingRun : List (TaskLabel Unit) :=
  [submitStart, .create 0, .worker 0 .spawn, .retain 0, .worker 0 .start, advanceTask 0,
    .cancel ⟨"op-1"⟩] ++ List.replicate 4 (advanceTask 0) ++ [.worker 0 (.finish "later")]

theorem honoured_of_heeded_run_waiting : ∃ (registry : OperationRegistry) (limiter : ServiceLimiter)
      (reached : TaskService Unit Unit Unit),
      new 1 1 = .ok registry ∧
      Guarded (TaskService.step blindConfig) TaskService.Heeded (.new blindWorld registry limiter)
        waitingRun ∧
      run (TaskService.step blindConfig) (.new blindWorld registry limiter) waitingRun =
        some reached ∧
      reached.workers.map (fun worker => (worker.phase.ended, worker.trace.cancelledEarly)) =
        [(true, true)] ∧ Honoured reached := by
  let registry : OperationRegistry := ⟨1, 1, ⟨1, 1, ⟨0⟩, [], []⟩, Nat.one_pos, Nat.one_pos⟩
  let limiter : ServiceLimiter := ⟨⟨1, 1, 1⟩, ⟨0, 0, 0⟩⟩
  have hregistry : new 1 1 = .ok registry := rfl
  have hguarded : Guarded (TaskService.step blindConfig) TaskService.Heeded
      (.new blindWorld registry limiter) waitingRun := by decide
  have hdone : (run (TaskService.step blindConfig) (.new blindWorld registry limiter)
      waitingRun).map (fun service => service.workers.map fun worker =>
        (worker.phase.ended, worker.trace.cancelledEarly)) = some [(true, true)] := by decide
  obtain ⟨reached, hrun, hended⟩ := Option.map_eq_some_iff.mp hdone
  exact ⟨registry, limiter, reached, hregistry, hguarded, hrun, hended,
    honoured_of_heeded_run hregistry hguarded hrun⟩

/-! ### An import that does not look again -/

/-- A daemon with a directory of images. -/
def diskConfig : TaskConfig Unit Unit Unit :=
  { blindConfig with imagePolicy := ⟨[.ofString "/images"]⟩ }

/-- The first cluster of a disk image. -/
def diskBytes : List UInt8 :=
  [0x51, 0x46, 0x49, 0xfb, 0, 0, 0, 3] ++ List.replicate 12 0 ++
    [0, 0, 0, 16, 0, 0, 0, 0, 0, 0, 0, 1]

/-- The image is read without a fault. -/
def diskSource : Source :=
  ⟨none, .ok (true, 32), [.data diskBytes, .data []], none, [.data diskBytes, .data []]⟩

/-- A peer wants it imported. -/
def submitDisk : TaskLabel Unit :=
  .submit (.osImageImport ⟨⟨1⟩, "/images/disk", "disk", none, none⟩)
    ⟨fun _ => some (.ofString "/images/disk"), fun _ => some true⟩ ⟨7, ⟨0, 0, none⟩⟩ none "now"

/-- The operation is cancelled after the check, before its worker has the catalog. -/
def lateRun : List (TaskLabel Unit) :=
  [submitDisk, .create 0, .worker 0 .spawn, .retain 0, .worker 0 .start, advanceTask 0,
    .cancel ⟨"op-1"⟩, advanceTask 0, .worker 0 (.advance diskSource fun _ => .done), advanceTask 0,
    advanceTask 0, .worker 0 (.finish "later")]

/-- The cancelled import creates its record and succeeds. -/
theorem late_cancellation_imports : ∃ (registry : OperationRegistry) (limiter : ServiceLimiter)
      (reached : TaskService Unit Unit Unit),
      new 1 1 = .ok registry ∧
      run (TaskService.step diskConfig) (.new blindWorld registry limiter) lateRun = some reached ∧
      reached.workers.map (fun worker => (worker.trace.cancelledEarly, worker.trace.imported)) =
        [(true, true)] ∧
      reached.registry.state.operations.map Operation.state = [.succeeded] ∧
      (reached.world.disk.entries (.records .osImage)).length = 1 := by
  let registry : OperationRegistry := ⟨1, 1, ⟨1, 1, ⟨0⟩, [], []⟩, Nat.one_pos, Nat.one_pos⟩
  let limiter : ServiceLimiter := ⟨⟨1, 1, 1⟩, ⟨0, 0, 0⟩⟩
  have hregistry : new 1 1 = .ok registry := rfl
  have hdone : (run (TaskService.step diskConfig) (.new blindWorld registry limiter) lateRun).map
      (fun service =>
        (service.workers.map fun worker => (worker.trace.cancelledEarly, worker.trace.imported),
          service.registry.state.operations.map Operation.state,
          (service.world.disk.entries (.records .osImage)).length)) =
      some ([(true, true)], [.succeeded], 1) := by
    decide +kernel
  obtain ⟨reached, hrun, hmapped⟩ := Option.map_eq_some_iff.mp hdone
  simp only [Prod.mk.injEq] at hmapped
  exact ⟨registry, limiter, reached, hregistry, hrun, hmapped⟩

end Kernmux.Daemon
