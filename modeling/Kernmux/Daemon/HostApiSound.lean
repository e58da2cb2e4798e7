import Kernmux.Daemon.HostApi

/-!
# Kernmux.Daemon.HostApiSound

**When a generation is consumed only once.** Every Kerf run carries the
generation that its request expects. `GenerationConsumed` says that each run
started from the kernel state its plan was validated against, and that of two
runs with one generation the first one changed nothing that counts.

One mutex for each executor is not enough for that: both executors may refresh
and plan at the same generation, and then both run Kerf. What is needed is that
no executor runs Kerf while the other one is between its refresh and its own run
(`Exclusive`). Then what a job relies on stays `Current` in the versioned cell
that the inventory is, and a run that changes the kernel leaves its generation
`Spent`.
-/

namespace Kernmux.Daemon

open Api.V1 Kernmux.Core Library Inventory Lifecycle

variable {τ ε κ : Type}

/-! ### The property -/

/-- Something that makes a new generation was changed. -/
def KerfRun.Changes (run : KerfRun) : Prop :=
  observedContent run.start ≠ observedContent run.finish

instance : DecidablePred KerfRun.Changes := fun run =>
  inferInstanceAs (Decidable (observedContent run.start ≠ observedContent run.finish))

/-- The plan of the run was validated against the state from which it started. -/
structure KerfRun.Validated (run : KerfRun) : Prop where
  healthy : run.validated.health = .healthy
  generation_eq : run.generation = run.validated.generation
  content_eq : content run.validated = observedContent run.start

/-- What holds of the Kerf runs so far, in their order. Generations count up to the largest
word and stay there. -/
structure GenerationConsumed (runs : List KerfRun) : Prop where
  validated : ∀ run ∈ runs, run.Validated
  once : runs.Pairwise fun earlier later =>
    earlier.generation = later.generation → earlier.generation.val ≠ maxWord → ¬ earlier.Changes

namespace HostApi

/-- The job of an executor is about to run Kerf. -/
def runsKerf (api : HostApi τ ε κ) : ExecutorKind → Bool
  | .lifecycle => api.lifecycle.any fun job => job.progress.isDecided
  | .resourcePool => api.resourcePool.any fun job => job.progress.isDecided

/-- The job of an executor has refreshed and has not run Kerf yet. -/
def relies (api : HostApi τ ε κ) : ExecutorKind → Bool
  | .lifecycle => api.lifecycle.any fun job => job.progress.reliesOn.isSome
  | .resourcePool => api.resourcePool.any fun job => job.progress.reliesOn.isSome

/-- No executor runs Kerf while the other one relies on a snapshot. -/
def Exclusive (api : HostApi τ ε κ) : HostApiLabel τ → Prop
  | .advance executor => api.runsKerf executor = true → api.relies executor.other = false
  | _ => True

instance (api : HostApi τ ε κ) : DecidablePred api.Exclusive := by
  intro label
  cases label <;> unfold Exclusive <;> infer_instance

end HostApi

/-! ### The inventory as a versioned cell -/

section Inventory

variable (host : ManagedHost τ ε κ) {inventory next : InventoryService τ}

/-- What there is to be observed, as far as it counts. -/
def ManagedHost.content (inventory : InventoryService τ) : HostSnapshot :=
  observedContent (host.kernel inventory.source)

/-- The snapshot is the one that a refresh would show now. -/
def ManagedHost.Shows (inventory : InventoryService τ) (snapshot : HostSnapshot) : Prop :=
  Versioned.Current (inventory.current.map cell) (host.content inventory) (cell snapshot)

/-- No refresh will show this generation any more. -/
def ManagedHost.Spent (inventory : InventoryService τ) (generation : Generation) : Prop :=
  Versioned.Spent (inventory.current.map cell) (host.content inventory) generation.val.toNat

/-- What is retained was assembled from an observation. -/
def Retained (inventory : InventoryService τ) : Prop :=
  ∀ snapshot, inventory.current = some snapshot → Assembled snapshot

/-- A step that leaves alone what others rely on. -/
structure ManagedHost.Keeps (inventory next : InventoryService τ) : Prop where
  retained : Retained next
  shows : ∀ snapshot, host.Shows inventory snapshot → host.Shows next snapshot
  spent : ∀ generation, generation.val ≠ maxWord → host.Spent inventory generation →
    host.Spent next generation

variable {host}

/-- Nothing that counts has changed. -/
theorem keeps_of_eq (h : Retained inventory) (hcurrent : next.current = inventory.current)
    (hcontent : host.content next = host.content inventory) : host.Keeps inventory next := by
  refine ⟨fun snapshot => hcurrent ▸ h snapshot, fun snapshot => ?_, fun generation _ => ?_⟩
  · simp only [ManagedHost.Shows, hcurrent, hcontent]
    exact id
  · simp only [ManagedHost.Spent, hcurrent, hcontent]
    exact id

/-- A refresh leaves alone what others rely on, and a healthy answer can be relied on. -/
theorem keeps_refresh (h : Retained inventory) :
    host.Keeps inventory (inventory.refresh host.source).2 ∧
      ∀ snapshot, (inventory.refresh host.source).1 = .ok snapshot → snapshot.health = .healthy →
        host.Shows (inventory.refresh host.source).2 snapshot := by
  have hcontent := host.observe_content inventory.source
  have hkernel := host.observe_ok inventory.source
  unfold InventoryService.refresh
  rcases hobserve : host.source.observe inventory.source with ⟨error | observations, reached⟩
  · rw [hobserve] at hcontent
    obtain ⟨hcurrent, hstale⟩ := settle_error inventory.current error
    exact ⟨keeps_of_eq h hcurrent hcontent,
      fun snapshot hok hhealthy => absurd hhealthy (hstale snapshot hok)⟩
  · rw [hobserve] at hcontent
    obtain rfl := hkernel observations reached hobserve
    obtain ⟨snapshot, hsettle, hassembled, hcell⟩ :=
      settle_ok_cell (ε := ε) h (host.kernel inventory.source)
    simp only [hsettle]
    -- both sides of the refresh have the same content, so the cell is shown what it is about
    have hsame : host.content ⟨reached, some snapshot⟩ = host.content inventory := hcontent
    refine ⟨⟨?_, fun other hother => ?_, fun generation hmax hspent => ?_⟩, fun other hok _ => ?_⟩
    · intro other hother
      cases hother
      exact hassembled
    · simp only [ManagedHost.Shows, Option.map_some, hsame, hcell]
      exact Versioned.Current.observe hother
    · simp only [ManagedHost.Spent, Option.map_some, hsame, hcell]
      exact Versioned.Spent.observe hspent le_bump (fun _ => lt_bump) (toNat_lt_of_ne_maxWord hmax)
    · cases hok
      simp only [ManagedHost.Shows, Option.map_some, hsame, hcell]
      exact Versioned.current_observe bump _ _

end Inventory

/-! ### Jobs and runs -/

section Jobs

variable {δ ο : Type} {host : ManagedHost τ ε κ} {inventory next : InventoryService τ}
  {generation : Generation} {runs : List KerfRun}

/-- What a job relies on is what a refresh would show, and its plan was made for it. -/
structure JobInv (host : ManagedHost τ ε κ) (inventory : InventoryService τ)
    (generation : Generation)
    (progress : Progress δ HostSnapshot KerfInvocation (Except κ KerfRunResult) ο) : Prop where
  shows : ∀ snapshot, progress.reliesOn = some snapshot → snapshot.health = .healthy →
    host.Shows inventory snapshot
  planned : ∀ before invocation, progress = .decided before invocation →
    before.health = .healthy ∧ generation = before.generation

/-- The runs so far are in order, and those that changed something have spent their
generation. -/
structure RunsInv (host : ManagedHost τ ε κ) (inventory : InventoryService τ)
    (runs : List KerfRun) : Prop extends GenerationConsumed runs where
  spent : ∀ run ∈ runs, run.Changes → run.generation.val ≠ maxWord →
    host.Spent inventory run.generation

variable {progress : Progress δ HostSnapshot KerfInvocation (Except κ KerfRunResult) ο}

theorem JobInv.keeps (h : JobInv host inventory generation progress)
    (hkeeps : host.Keeps inventory next) : JobInv host next generation progress :=
  ⟨fun snapshot hrelies hhealthy => hkeeps.shows snapshot (h.shows snapshot hrelies hhealthy),
    h.planned⟩

theorem RunsInv.keeps (h : RunsInv host inventory runs) (hkeeps : host.Keeps inventory next) :
    RunsInv host next runs :=
  ⟨h.toGenerationConsumed, fun run hrun hchanges hmax =>
    hkeeps.spent run.generation hmax (h.spent run hrun hchanges hmax)⟩

/-- A job that relies on nothing is in order whatever happens. -/
theorem jobInv_of_reliesOn (hrelies : progress.reliesOn = none) :
    JobInv host inventory generation progress := by
  refine ⟨fun snapshot hsome => ?_, fun before invocation hdecided => ?_⟩
  · exact absurd (hrelies.symm.trans hsome) (by simp)
  · rw [hdecided] at hrelies
    exact absurd hrelies (by simp [Progress.reliesOn])

/-- A Kerf run on a snapshot that is still shown. -/
theorem RunsInv.append (h : RunsInv host inventory runs) {before : HostSnapshot}
    (hshows : host.Shows inventory before) (hhealthy : before.health = .healthy) (reached : τ) :
    RunsInv host { inventory with source := reached } (runs ++ [⟨before.generation, before,
      host.kernel inventory.source, host.kernel reached⟩]) := by
  -- every run that changed something lies behind the generation of this one
  have hbehind : ∀ run ∈ runs, run.Changes → run.generation.val ≠ maxWord →
      run.generation.val.toNat < before.generation.val.toNat :=
    fun run hrun hchanges hmax => (h.spent run hrun hchanges hmax).lt_current hshows
  refine ⟨⟨?_, ?_⟩, ?_⟩
  · intro run hrun
    rcases List.mem_append.mp hrun with hold | hnew
    · exact h.validated run hold
    · obtain rfl := List.mem_singleton.mp hnew
      exact ⟨hhealthy, rfl, hshows.2⟩
  · refine List.pairwise_append.mpr ⟨h.once, List.pairwise_singleton _ _, ?_⟩
    intro earlier hearlier later hlater hgen hmax hchanges
    obtain rfl := List.mem_singleton.mp hlater
    have hlt := hbehind earlier hearlier hchanges hmax
    rw [hgen] at hlt
    exact Nat.lt_irrefl _ hlt
  · intro run hrun hchanges hmax
    rcases List.mem_append.mp hrun with hold | hnew
    · exact Versioned.Spent.change (h.spent run hold hchanges hmax) hshows _
    · obtain rfl := List.mem_singleton.mp hnew
      exact Versioned.Current.spent hshows hchanges

variable {unavailable : ε → δ} {preflight : HostSnapshot → Except δ KerfInvocation}
  {conclude : HostSnapshot → KerfInvocation → Except κ KerfRunResult → HostSnapshot → ο}

/-- A step of a job that is no Kerf run. -/
theorem resume_quiet (hretained : Retained inventory)
    (h : JobInv host inventory generation progress) (hquiet : progress.isDecided = false)
    (hpreflight : ∀ before invocation, preflight before = .ok invocation →
      before.health = .healthy ∧ generation = before.generation) :
    let reached := resume host.backend unavailable preflight conclude (progress, inventory)
    host.Keeps inventory reached.2 ∧ JobInv host reached.2 generation reached.1 := by
  have hsame : host.Keeps inventory inventory := keeps_of_eq hretained rfl rfl
  have hlook : host.backend.observe inventory = inventory.refresh host.source := rfl
  have hrefresh : host.Keeps inventory (inventory.refresh host.source).2 ∧ _ :=
    keeps_refresh hretained
  rcases hanswer : inventory.refresh host.source with ⟨answer, refreshed⟩
  rw [hanswer] at hlook hrefresh
  obtain ⟨hkeeps, hshows⟩ := hrefresh
  cases progress with
  | begun =>
      simp only [resume, hlook]
      cases answer with
      | error error => exact ⟨hkeeps, jobInv_of_reliesOn rfl⟩
      | ok snapshot =>
          refine ⟨hkeeps, fun other hrelies hhealthy => ?_, fun _ _ hdecided => ?_⟩
          · cases hrelies
            exact hshows _ rfl hhealthy
          · cases hdecided
  | seen before =>
      simp only [resume]
      split
      case h_1 => exact ⟨hsame, jobInv_of_reliesOn rfl⟩
      case h_2 invocation hok =>
        -- planning looks at nothing but the snapshot, which the job still relies on
        refine ⟨hsame, h.shows, fun other plan hdecided => ?_⟩
        obtain ⟨rfl, -⟩ := Progress.decided.inj hdecided
        exact hpreflight before invocation hok
  | decided before invocation => exact absurd hquiet (by simp [Progress.isDecided])
  | acted before invocation outcome =>
      simp only [resume, hlook]
      cases answer with
      | error error | ok after => exact ⟨hkeeps, jobInv_of_reliesOn rfl⟩
  | ended result => exact ⟨hsame, jobInv_of_reliesOn rfl⟩

/-- What one step of a job leaves behind: for the inventory, the job, the runs, and a job of
the other executor, which relies on nothing if the step is a Kerf run. -/
structure Advanced (host : ManagedHost τ ε κ) (inventory next : InventoryService τ)
    (generation : Generation)
    (progress : Progress δ HostSnapshot KerfInvocation (Except κ KerfRunResult) ο)
    (runsKerf : Bool) (runs : List KerfRun) : Prop where
  retained : Retained next
  job : JobInv host next generation progress
  runs : RunsInv host next runs
  other : ∀ {δ ο : Type} {generation : Generation}
    {progress : Progress δ HostSnapshot KerfInvocation (Except κ KerfRunResult) ο},
    JobInv host inventory generation progress →
      (runsKerf = true → progress.reliesOn.isSome = false) → JobInv host next generation progress

theorem Job.kerfRun_of_quiet {ρ : Type} {job : Job ρ δ κ ο} {start finish : HostObservations}
    (hquiet : job.progress.isDecided = false) : job.kerfRun generation start finish = none := by
  unfold Job.kerfRun
  split
  case h_1 before invocation hdecided => exact absurd hquiet (by simp [hdecided, Progress.isDecided])
  case h_2 => rfl

theorem advanced_resume {ρ : Type} {job : Job ρ δ κ ο} (hretained : Retained inventory)
    (h : JobInv host inventory generation job.progress) (hruns : RunsInv host inventory runs)
    (hpreflight : ∀ before invocation, preflight before = .ok invocation →
      before.health = .healthy ∧ generation = before.generation) :
    let reached := resume host.backend unavailable preflight conclude (job.progress, inventory)
    Advanced host inventory reached.2 generation reached.1 job.progress.isDecided
      (runs ++ (job.kerfRun generation (host.kernel inventory.source)
        (host.kernel reached.2.source)).toList) := by
  cases hdecided : job.progress.isDecided with
  | false =>
      have hquiet : host.Keeps inventory (resume host.backend unavailable preflight conclude
        (job.progress, inventory)).2 ∧ _ := resume_quiet hretained h hdecided hpreflight
      obtain ⟨hkeeps, hjob⟩ := hquiet
      simp only [Job.kerfRun_of_quiet hdecided, Option.toList_none, List.append_nil]
      exact ⟨hkeeps.retained, hjob, hruns.keeps hkeeps, fun hother _ => hother.keeps hkeeps⟩
  | true =>
      obtain ⟨request, progress⟩ := job
      cases progress with
      | decided before invocation =>
          -- the only step that changes the kernel; nobody else relies on a snapshot now
          rcases hrun : host.runner.run invocation inventory.source with ⟨process, reached⟩
          have hact : host.backend.act invocation inventory =
              (process, { inventory with source := reached }) := by
            simp [ManagedHost.backend, executorBackend, KerfRunner.onSource, hrun]
          obtain ⟨hhealthy, hgeneration⟩ := h.planned before invocation rfl
          have hshows := h.shows before rfl hhealthy
          simp only [resume, hact, Job.kerfRun, Option.toList_some, hgeneration]
          refine ⟨hretained, jobInv_of_reliesOn rfl, hruns.append hshows hhealthy reached, ?_⟩
          intro _ _ _ _ _ hrelies
          exact jobInv_of_reliesOn (by simpa using hrelies rfl)
      | begun | seen before
      | acted before invocation outcome
      | ended result => exact absurd hdecided (by simp [Progress.isDecided])

end Jobs

/-! ### The dispatcher -/

namespace HostApi

variable {host : ManagedHost τ ε κ} {api next : HostApi τ ε κ}

/-- Inventory, jobs and runs are in order. -/
structure Inv (host : ManagedHost τ ε κ) (api : HostApi τ ε κ) : Prop where
  retained : Retained api.inventory
  lifecycle : ∀ job, api.lifecycle = some job →
    JobInv host api.inventory job.request.expectedGeneration job.progress
  resourcePool : ∀ job, api.resourcePool = some job →
    JobInv host api.inventory job.request.expectedGeneration job.progress
  runs : RunsInv host api.inventory api.runs

theorem inv_new (host : ManagedHost τ ε κ) (start : τ) : Inv host (.new start) := by
  refine ⟨?_, ?_, ?_, ⟨⟨?_, ?_⟩, ?_⟩⟩ <;> simp [new, Retained, InventoryService.new]

/-- Who waits does not matter. -/
theorem Inv.waiting (h : Inv host api) (waiting : List HostRequest) :
    Inv host { api with waiting := waiting } :=
  ⟨h.retained, h.lifecycle, h.resourcePool, h.runs⟩

/-- A step of the inventory alone. -/
theorem Inv.keeps {inventory : InventoryService τ} (h : Inv host api)
    (hkeeps : host.Keeps api.inventory inventory) : Inv host { api with inventory := inventory } :=
  ⟨hkeeps.retained, fun job hjob => (h.lifecycle job hjob).keeps hkeeps,
    fun job hjob => (h.resourcePool job hjob).keeps hkeeps, h.runs.keeps hkeeps⟩

theorem Inv.lock {request : HostRequest} (h : Inv host api) (hlock : api.lock request = some next) :
    Inv host next := by
  cases request with
  | lifecycle request =>
      simp only [HostApi.lock] at hlock
      split at hlock <;> cases hlock
      refine ⟨h.retained, fun job hjob => ?_, h.resourcePool, h.runs⟩
      cases hjob
      exact jobInv_of_reliesOn rfl
  | pool request =>
      simp only [HostApi.lock] at hlock
      split at hlock <;> cases hlock
      refine ⟨h.retained, h.lifecycle, fun job hjob => ?_, h.runs⟩
      cases hjob
      exact jobInv_of_reliesOn rfl

theorem Inv.advanceLifecycle {job : LifecycleJob ε κ} (h : Inv host api)
    (hjob : api.lifecycle = some job) (hexclusive : api.Exclusive (.advance .lifecycle)) :
    Inv host (api.advanceLifecycle host job) := by
  have hadvanced : Advanced host api.inventory (job.resume host api.inventory).2 _ _ _ _ :=
    advanced_resume h.retained (h.lifecycle job hjob) h.runs fun before invocation hok => by
      obtain ⟨hhealthy, hplan⟩ := LifecycleExecutor.preflight_eq_ok.mp hok
      exact ⟨hhealthy, (plan_eq_ok.mp hplan).1⟩
  refine ⟨hadvanced.retained, fun other hother => ?_, fun other hother => ?_, hadvanced.runs⟩
  · cases hother
    exact hadvanced.job
  · have hother : api.resourcePool = some other := hother
    refine hadvanced.other (h.resourcePool other hother) fun hdecided => ?_
    have hrelies : api.relies .resourcePool = false :=
      hexclusive (by simp [runsKerf, hjob, hdecided])
    simpa [relies, hother] using hrelies

theorem Inv.advanceResourcePool {job : ResourcePoolJob ε κ} (h : Inv host api)
    (hjob : api.resourcePool = some job) (hexclusive : api.Exclusive (.advance .resourcePool)) :
    Inv host (api.advanceResourcePool host job) := by
  have hadvanced : Advanced host api.inventory (job.resume host api.inventory).2 _ _ _ _ :=
    advanced_resume h.retained (h.resourcePool job hjob) h.runs fun before invocation hok => by
      have haccepted := (ResourcePoolExecutor.plan_eq_ok.mp
        (ResourcePoolExecutor.preflight_eq_ok.mp hok)).1
      exact ⟨haccepted.healthy, haccepted.current⟩
  refine ⟨hadvanced.retained, fun other hother => ?_, fun other hother => ?_, hadvanced.runs⟩
  · have hother : api.lifecycle = some other := hother
    refine hadvanced.other (h.lifecycle other hother) fun hdecided => ?_
    have hrelies : api.relies .lifecycle = false :=
      hexclusive (by simp [runsKerf, hjob, hdecided])
    simpa [relies, hother] using hrelies
  · cases hother
    exact hadvanced.job

/-- Every step that meets the guard keeps everything in order. -/
theorem inv_step {label : HostApiLabel τ} (h : Inv host api) (hexclusive : api.Exclusive label)
    (hstep : step host api label = some next) : Inv host next := by
  cases label with
  | submit request | cancel index =>
      cases hstep
      exact h.waiting _
  | lock index =>
      obtain ⟨request, -, hlock⟩ := Option.bind_eq_some_iff.mp hstep
      exact (h.waiting _).lock hlock
  | advance executor =>
      cases executor with
      | lifecycle =>
          obtain ⟨job, hjob, rfl⟩ := Option.map_eq_some_iff.mp hstep
          exact h.advanceLifecycle hjob hexclusive
      | resourcePool =>
          obtain ⟨job, hjob, rfl⟩ := Option.map_eq_some_iff.mp hstep
          exact h.advanceResourcePool hjob hexclusive
  | unlock executor =>
      cases executor with
      | lifecycle =>
          simp only [step] at hstep
          split at hstep <;> cases hstep
          exact ⟨h.retained, by simp, h.resourcePool, h.runs⟩
      | resourcePool =>
          simp only [step] at hstep
          split at hstep <;> cases hstep
          exact ⟨h.retained, h.lifecycle, by simp, h.runs⟩
  | refresh =>
      cases hstep
      exact h.keeps (keeps_refresh h.retained).1
  | elapse later =>
      simp only [step] at hstep
      split at hstep <;> cases hstep
      next hcontent => exact h.keeps (keeps_of_eq h.retained rfl hcontent)

/-- A generation is consumed only once in every run in which no executor runs Kerf while the
other one relies on a snapshot. -/
theorem generationConsumed_of_guarded_run {start : τ} {labels : List (HostApiLabel τ)}
    {reached : HostApi τ ε κ} (hguarded : Guarded (step host) Exclusive (.new start) labels)
    (hrun : run (step host) (.new start) labels = some reached) :
    GenerationConsumed reached.runs := by
  have hstep : ∀ api label next, Inv host api → api.Exclusive label →
      step host api label = some next → Inv host next :=
    fun _ _ _ => inv_step
  have hreached : Inv host reached := run_invariant hstep (inv_new host start) hguarded hrun
  exact hreached.runs.toGenerationConsumed

/-! ### A small host -/

/-- A host whose pool has the CPUs 4 and 5, both free. -/
def smallKernel : HostObservations where
  linux := ⟨"6.12", "x86_64", ⟨[.multikernel], rfl⟩, [], [], ⟨0, 0⟩⟩
  multikernel := ⟨⟨[4, 5], [4, 5], [⟨4096, 8192, 0⟩], []⟩, [], []⟩

/-- What Kerf does to the host: it creates instances and replaces the pool. -/
def smallKerf (invocation : KerfInvocation) (kernel : HostObservations) : HostObservations :=
  let pool := kernel.multikernel.pool
  match invocation.expectedState with
  | .instanceResources id _ (some name) (some cpus) (some memory) _ =>
      { kernel with
        multikernel :=
          { kernel.multikernel with
            pool :=
              { pool with
                availableCpuHardwareIds := pool.availableCpuHardwareIds.filter (· ∉ cpus) }
            instances := kernel.multikernel.instances ++
              [⟨id.val, name, .ready, ⟨cpus, 4096, memory, []⟩, ⟨false⟩⟩] } }
  | .resourcePool cpus _ =>
      { kernel with
        multikernel :=
          { kernel.multikernel with
            pool :=
              { pool with
                cpuHardwareIds := cpus
                availableCpuHardwareIds := pool.availableCpuHardwareIds.filter (· ∈ cpus) } } }
  | _ => kernel

/-- Observations and Kerf runs never fail. -/
def smallHost : ManagedHost HostObservations Unit Unit where
  kernel := id
  source := ⟨fun kernel => (.ok kernel, kernel)⟩
  runner := ⟨fun invocation kernel => (.ok ⟨.exited 0, [], []⟩, smallKerf invocation kernel)⟩
  observe_ok := by
    intro kernel observations next h
    exact (Except.ok.inj (Prod.mk.inj h).1).symm
  observe_content _ := rfl

/-- Create an instance on CPU 4. -/
def createOnFour : HostRequest := .lifecycle (.create ⟨⟨1⟩, ⟨1⟩, "web", [4], 4096⟩)

/-- The instance is created, and then CPU 5 leaves the pool. -/
def oneByOne : List (HostApiLabel HostObservations) :=
  [.submit createOnFour, .submit (.pool ⟨⟨2⟩, [4], 8192⟩), .lock 0, .lock 0, .advance .lifecycle,
    .advance .lifecycle, .advance .lifecycle, .advance .lifecycle, .unlock .lifecycle,
    .advance .resourcePool, .advance .resourcePool, .advance .resourcePool]

theorem generationConsumed_of_guarded_run_oneByOne : ∃ reached : HostApi HostObservations Unit Unit,
      run (step smallHost) (.new smallKernel) oneByOne = some reached ∧
      reached.runs.map KerfRun.generation = [⟨1⟩, ⟨2⟩] ∧ GenerationConsumed reached.runs := by
  have hguarded : Guarded (step smallHost) Exclusive (.new smallKernel) oneByOne := by decide
  exact ⟨_, rfl, rfl, generationConsumed_of_guarded_run hguarded rfl⟩

/-- Both executors refresh and plan at generation 1. Then one gives CPU 4 to an instance, and
the other one takes it out of the pool. -/
def sideBySide : List (HostApiLabel HostObservations) :=
  [.submit createOnFour, .submit (.pool ⟨⟨1⟩, [5], 8192⟩), .lock 0, .lock 0,
    .advance .lifecycle, .advance .resourcePool, .advance .lifecycle, .advance .resourcePool,
    .advance .lifecycle, .advance .resourcePool]

theorem executors_share_generation : ∃ reached : HostApi HostObservations Unit Unit,
      run (step smallHost) (.new smallKernel) sideBySide = some reached ∧
      reached.runs.map KerfRun.generation = [⟨1⟩, ⟨1⟩] ∧ ¬ GenerationConsumed reached.runs := by
  refine ⟨_, rfl, rfl, fun hconsumed => ?_⟩
  have hfirst := (List.pairwise_cons.mp hconsumed.once).1 _ List.mem_cons_self rfl (by decide)
  exact hfirst (by decide)

end HostApi

end Kernmux.Daemon
