import Kernmux.Daemon.ResourcePool
import Kernmux.Library.Ownership
import Mathlib.Data.List.Pairwise
import Mathlib.Logic.Relation

/-!
# Kernmux.Daemon.CpuOwnership

**CPU ownership is exclusive over whole runs.** A `CpuHost` is the part of a
host that the CPU checks speak about: the pool, what is available of it, and
who holds what. `CpuExclusive` is the invariant, and it is the balance of
`Library/Ownership.lean` together with unique names and IDs.

Each accepted request is one of the two operations of that library: a create,
an update or a delete reassigns the CPUs of one instance, a pool request
exchanges the pool. What the planners check is what those operations need, and
four different validators supply it.

About Kerf and the kernel it is assumed that an accepted request is carried out
exactly and that the kernel republishes what is available (`CpuHost.Shows`,
`CpuHost.apply`).
-/

namespace Kernmux.Daemon

open Api.V1 Library Lifecycle

/-! ### Hosts -/

/-- One instance as far as its CPUs are concerned. -/
structure CpuInstance where
  id : InstanceId
  name : String
  cpus : List UInt32
  deriving DecidableEq, Repr

/-- Pool CPUs, available CPUs and the instances that hold the others. -/
structure CpuHost where
  pool : List UInt32
  available : List UInt32
  instances : List CpuInstance
  deriving DecidableEq, Repr

/-- What a snapshot says about CPUs. -/
def CpuHost.ofSnapshot (snapshot : HostSnapshot) : CpuHost where
  pool := snapshot.resourcePool.cpuHardwareIds
  available := snapshot.resourcePool.availableCpuHardwareIds
  instances := snapshot.instances.map fun inst =>
    ⟨inst.id, inst.name, inst.resources.cpuHardwareIds⟩

/-- Every CPU of the pool is available or held by exactly one instance. -/
structure CpuExclusive (host : CpuHost) : Prop where
  ids_nodup : (host.instances.map (·.id)).Nodup
  names_nodup : (host.instances.map (·.name)).Nodup
  disjoint : host.instances.Pairwise fun one other => ∀ cpu ∈ one.cpus, cpu ∉ other.cpus
  contained : ∀ inst ∈ host.instances, ∀ cpu ∈ inst.cpus, cpu ∈ host.pool
  available_iff : ∀ cpu, cpu ∈ host.available ↔
    cpu ∈ host.pool ∧ ∀ inst ∈ host.instances, cpu ∉ inst.cpus

/-! ### The balance behind the invariant -/

/-- The instance with this ID holds this CPU. -/
def CpuHost.Owns (host : CpuHost) (id : InstanceId) (cpu : UInt32) : Prop :=
  ∃ inst ∈ host.instances, inst.id = id ∧ cpu ∈ inst.cpus

/-- The pool of a host with its owners, as the library sees it. -/
def CpuHost.Balanced (host : CpuHost) : Prop :=
  Library.Balanced {cpu | cpu ∈ host.pool} {cpu | cpu ∈ host.available} host.Owns

variable {host : CpuHost} {cpus : List UInt32} {snapshot : HostSnapshot}

theorem CpuHost.forall_not_owns_iff {cpu : UInt32} :
    (∀ id, ¬ host.Owns id cpu) ↔ ∀ inst ∈ host.instances, cpu ∉ inst.cpus := by
  constructor
  · intro h inst hinst hcpu
    exact h inst.id ⟨inst, hinst, rfl, hcpu⟩
  · rintro h id ⟨inst, hinst, -, hcpu⟩
    exact h inst hinst hcpu

/-- An exclusive host is in balance. -/
theorem CpuExclusive.balanced (h : CpuExclusive host) : host.Balanced where
  exclusive id id' cpu hown hown' := by
    obtain ⟨inst, hinst, rfl, hcpu⟩ := hown
    obtain ⟨inst', hinst', rfl, hcpu'⟩ := hown'
    by_contra hne
    have hdistinct : inst ≠ inst' := fun heq => hne (congrArg CpuInstance.id heq)
    have hsymm : Std.Symm fun one other : CpuInstance => ∀ cpu ∈ one.cpus, cpu ∉ other.cpus :=
      ⟨fun _ _ hdisj cpu hother hone => hdisj cpu hone hother⟩
    exact h.disjoint.forall hinst hinst' hdistinct cpu hcpu hcpu'
  contained id cpu hown := by
    obtain ⟨inst, hinst, -, hcpu⟩ := hown
    exact h.contained inst hinst cpu hcpu
  free_eq := by
    ext cpu
    simp only [Set.mem_ofPred_eq, remainder, CpuHost.forall_not_owns_iff]
    exact h.available_iff cpu

/-- A host in balance with unique IDs and names is exclusive. -/
theorem CpuHost.Balanced.cpuExclusive (h : host.Balanced) (hids : (host.instances.map (·.id)).Nodup)
    (hnames : (host.instances.map (·.name)).Nodup) :
    CpuExclusive host where
  ids_nodup := hids
  names_nodup := hnames
  disjoint := by
    refine (List.pairwise_map.mp hids).imp_of_mem fun {one other} hone hother hne cpu hcpu hcpu' => ?_
    exact hne (h.exclusive one.id other.id cpu ⟨one, hone, rfl, hcpu⟩ ⟨other, hother, rfl, hcpu'⟩)
  contained inst hinst cpu hcpu := h.contained inst.id cpu ⟨inst, hinst, rfl, hcpu⟩
  available_iff cpu := by
    have hfree := congrArg (cpu ∈ ·) h.free_eq
    simp only [Set.mem_ofPred_eq, remainder, CpuHost.forall_not_owns_iff, eq_iff_iff] at hfree
    exact hfree

/-! ### Requests -/

/-- The CPUs that a request gives to an instance that exists: none when it is a dry run. -/
def updatedCpus (request : UpdateRequest) : Option (List UInt32) :=
  if request.dryRun then none else request.cpuHardwareIds

/-- Pool and instances when exactly the request has been carried out. -/
def CpuHost.carryOut (host : CpuHost) : HostRequest → CpuHost
  | .lifecycle (.create request) =>
      { host with
        instances := host.instances ++ [⟨request.id, request.name, request.cpuHardwareIds⟩] }
  | .lifecycle (.update request) =>
      match updatedCpus request with
      | some cpus =>
          { host with
            instances := host.instances.map fun inst =>
              if inst.id = request.inst.id then { inst with cpus := cpus } else inst }
      | none => host
  | .lifecycle (.delete request) =>
      { host with instances := host.instances.filter (·.id ≠ request.id) }
  | .lifecycle (.load _) | .lifecycle (.start _) | .lifecycle (.stop _) | .lifecycle (.unload _) =>
      host
  | .pool request => { host with pool := request.cpuHardwareIds }

/-- The kernel republishes what is available: the pool without what is assigned. -/
def CpuHost.republish (host : CpuHost) : CpuHost :=
  { host with available := host.pool.filter fun cpu => ∀ inst ∈ host.instances, cpu ∉ inst.cpus }

/-- The host after an accepted request. -/
def CpuHost.apply (host : CpuHost) (request : HostRequest) : CpuHost :=
  (host.carryOut request).republish

/-- An observed host is the expected one up to the order in which lists are reported. -/
structure CpuHost.Shows (observed expected : CpuHost) : Prop where
  identities : (observed.instances.map fun inst => (inst.id, inst.name)).Perm
    (expected.instances.map fun inst => (inst.id, inst.name))
  owns_iff : ∀ id cpu, observed.Owns id cpu ↔ expected.Owns id cpu
  pool_iff : ∀ cpu, cpu ∈ observed.pool ↔ cpu ∈ expected.pool
  available_iff : ∀ cpu, cpu ∈ observed.available ↔ cpu ∈ expected.available

/-- The invariant does not depend on the order of the lists. -/
theorem CpuHost.Shows.cpuExclusive {observed expected : CpuHost} (h : observed.Shows expected)
    (hexp : CpuExclusive expected) : CpuExclusive observed := by
  have hbalanced : observed.Balanced := by
    have howns : observed.Owns = expected.Owns := by
      funext id cpu
      exact propext (h.owns_iff id cpu)
    have hpool : {cpu | cpu ∈ observed.pool} = {cpu | cpu ∈ expected.pool} := Set.ext h.pool_iff
    have havail : {cpu | cpu ∈ observed.available} = {cpu | cpu ∈ expected.available} :=
      Set.ext h.available_iff
    rw [CpuHost.Balanced, howns, hpool, havail]
    exact hexp.balanced
  have hids := h.identities.map Prod.fst
  have hnames := h.identities.map Prod.snd
  simp only [List.map_map] at hids hnames
  exact hbalanced.cpuExclusive (hids.nodup_iff.mpr hexp.ids_nodup)
    (hnames.nodup_iff.mpr hexp.names_nodup)

/-! ### What a request does to ownership -/

/-- Republishing balances a host whose ownership is exclusive and inside the pool. -/
theorem CpuHost.republish_balanced
    (h : Library.Balanced {cpu | cpu ∈ host.pool} (remainder {cpu | cpu ∈ host.pool} host.Owns)
      host.Owns) : host.republish.Balanced where
  exclusive := h.exclusive
  contained := h.contained
  free_eq := by
    ext cpu
    simp only [Set.mem_ofPred_eq, remainder, CpuHost.forall_not_owns_iff,
      CpuHost.republish, List.mem_filter, decide_eq_true_eq]

section Operations

/-- Instances are records that hold CPUs. -/
theorem CpuHost.owns_eq (host : CpuHost) :
    host.Owns = Holds CpuInstance.id (fun inst => {cpu | cpu ∈ inst.cpus}) host.instances := rfl

theorem CpuHost.owns_append {id : InstanceId} {name : String}
    (hfresh : ∀ inst ∈ host.instances, inst.id ≠ id) :
    CpuHost.Owns { host with instances := host.instances ++ [⟨id, name, cpus⟩] } =
      reassign host.Owns id {cpu | cpu ∈ cpus} := by
  rw [CpuHost.owns_eq, CpuHost.owns_eq]
  exact holds_append hfresh

theorem CpuHost.owns_replace {target : CpuInstance} (htarget : target ∈ host.instances)
    (cpus : List UInt32) :
    CpuHost.Owns { host with
        instances := host.instances.map fun inst =>
          if inst.id = target.id then { inst with cpus := cpus } else inst } =
      reassign host.Owns target.id {cpu | cpu ∈ cpus} := by
  rw [CpuHost.owns_eq, CpuHost.owns_eq]
  exact holds_update htarget (fun _ => rfl) (fun _ => rfl)

theorem CpuHost.owns_filter (id : InstanceId) :
    CpuHost.Owns { host with instances := host.instances.filter (·.id ≠ id) } =
      reassign host.Owns id ∅ := by
  rw [CpuHost.owns_eq, CpuHost.owns_eq]
  exact holds_filter id

/-- A new instance with CPUs that are available. -/
theorem CpuExclusive.append (h : CpuExclusive host) {id : InstanceId} {name : String}
    (hids : ∀ inst ∈ host.instances, inst.id ≠ id ∧ inst.name ≠ name)
    (hcpus : ∀ cpu ∈ cpus, cpu ∈ host.available) :
    CpuExclusive (CpuHost.republish
      { host with instances := host.instances ++ [⟨id, name, cpus⟩] }) := by
  have hthings : ∀ cpu ∈ {cpu | cpu ∈ cpus},
      cpu ∈ {cpu | cpu ∈ host.available} ∨ host.Owns id cpu :=
    fun cpu hcpu => .inl (hcpus cpu hcpu)
  have hbalanced := h.balanced.reassign hthings
  rw [← CpuHost.owns_append fun inst hinst => (hids inst hinst).1] at hbalanced
  refine (CpuHost.republish_balanced hbalanced).cpuExclusive ?_ ?_
  · simp only [CpuHost.republish, List.map_append, List.map_cons, List.map_nil]
    refine h.ids_nodup.append (List.nodup_singleton id) ?_
    simpa [List.disjoint_singleton] using fun inst hinst => (hids inst hinst).1
  · simp only [CpuHost.republish, List.map_append, List.map_cons, List.map_nil]
    refine h.names_nodup.append (List.nodup_singleton name) ?_
    simpa [List.disjoint_singleton] using fun inst hinst => (hids inst hinst).2

/-- Other CPUs for an instance, available ones or its own. -/
theorem CpuExclusive.replace (h : CpuExclusive host) {target : CpuInstance}
    (htarget : target ∈ host.instances)
    (hcpus : ∀ cpu ∈ cpus, cpu ∈ host.available ∨ cpu ∈ target.cpus) :
    CpuExclusive (CpuHost.republish { host with
      instances := host.instances.map fun inst =>
        if inst.id = target.id then { inst with cpus := cpus } else inst }) := by
  have hthings : ∀ cpu ∈ {cpu | cpu ∈ cpus},
      cpu ∈ {cpu | cpu ∈ host.available} ∨ host.Owns target.id cpu :=
    fun cpu hcpu => (hcpus cpu hcpu).imp_right fun hown => ⟨target, htarget, rfl, hown⟩
  have hbalanced := h.balanced.reassign hthings
  rw [← CpuHost.owns_replace htarget cpus] at hbalanced
  -- the instances keep their IDs and names
  have hkeep : ∀ {β : Type} (view : CpuInstance → β),
      (∀ inst : CpuInstance, view { inst with cpus := cpus } = view inst) →
        (host.instances.map fun inst =>
          if inst.id = target.id then { inst with cpus := cpus } else inst).map view =
            host.instances.map view := fun _ hview => map_update hview
  refine (CpuHost.republish_balanced hbalanced).cpuExclusive ?_ ?_
  · rw [CpuHost.republish, hkeep (·.id) fun _ => rfl]
    exact h.ids_nodup
  · rw [CpuHost.republish, hkeep (·.name) fun _ => rfl]
    exact h.names_nodup

/-- One instance less. -/
theorem CpuExclusive.filter (h : CpuExclusive host) (id : InstanceId) :
    CpuExclusive (CpuHost.republish
      { host with instances := host.instances.filter (·.id ≠ id) }) := by
  have hthings : ∀ cpu ∈ (∅ : Set UInt32),
      cpu ∈ {cpu | cpu ∈ host.available} ∨ host.Owns id cpu := fun cpu hcpu => hcpu.elim
  have hbalanced := h.balanced.reassign hthings
  rw [← CpuHost.owns_filter] at hbalanced
  refine (CpuHost.republish_balanced hbalanced).cpuExclusive ?_ ?_
  · exact h.ids_nodup.sublist (List.filter_sublist.map _)
  · exact h.names_nodup.sublist (List.filter_sublist.map _)

/-- Another pool around what is held. -/
theorem CpuExclusive.resize (h : CpuExclusive host) {pool : List UInt32}
    (hpool : ∀ inst ∈ host.instances, ∀ cpu ∈ inst.cpus, cpu ∈ pool) :
    CpuExclusive (CpuHost.republish { host with pool := pool }) := by
  have hcovers : ∀ id cpu, host.Owns id cpu → cpu ∈ {cpu | cpu ∈ pool} := by
    rintro id cpu ⟨inst, hinst, -, hcpu⟩
    exact hpool inst hinst cpu hcpu
  have hbalanced : CpuHost.Balanced (CpuHost.republish { host with pool := pool }) :=
    CpuHost.republish_balanced (h.balanced.resize hcovers)
  exact hbalanced.cpuExclusive h.ids_nodup h.names_nodup

/-- Nothing has changed. -/
theorem CpuExclusive.unchanged (h : CpuExclusive host) : CpuExclusive host.republish :=
  h.resize h.contained

end Operations

/-! ### Runs -/

theorem CpuHost.mem_ofSnapshot {inst : Instance} (h : inst ∈ snapshot.instances) :
    ⟨inst.id, inst.name, inst.resources.cpuHardwareIds⟩ ∈ (CpuHost.ofSnapshot snapshot).instances :=
  List.mem_map_of_mem h

theorem CpuHost.forall_mem_ofSnapshot {p : CpuInstance → Prop}
    (h : ∀ inst ∈ snapshot.instances, p ⟨inst.id, inst.name, inst.resources.cpuHardwareIds⟩) :
    ∀ inst ∈ (CpuHost.ofSnapshot snapshot).instances, p inst := by
  intro inst hinst
  obtain ⟨source, hsource, rfl⟩ := List.mem_map.mp hinst
  exact h source hsource

/-- Carrying out an accepted request keeps the invariant. -/
theorem CpuExclusive.apply (h : CpuExclusive (CpuHost.ofSnapshot snapshot)) {request : HostRequest}
    (haccepted : request.Accepted snapshot) :
    CpuExclusive ((CpuHost.ofSnapshot snapshot).apply request) := by
  cases request with
  | pool request =>
      obtain ⟨invocation, hplan⟩ := haccepted
      have hkept := (ResourcePoolExecutor.plan_eq_ok.mp hplan).1.cpus_kept
      exact h.resize (CpuHost.forall_mem_ofSnapshot hkept)
  | lifecycle request =>
      obtain ⟨invocation, hplan⟩ := haccepted
      have hplan := (plan_eq_ok.mp hplan).2
      cases request with
      | create request =>
          have hcreate := (planCreate_eq_ok.mp hplan).1
          exact h.append (CpuHost.forall_mem_ofSnapshot hcreate.fresh) hcreate.cpus_available
      | update request =>
          obtain ⟨inst, hupdate, -⟩ := planUpdate_eq_ok.mp hplan
          obtain ⟨-, hfind, -⟩ := requireInstance_eq_ok.mp hupdate.found
          have hmem := List.mem_of_find?_eq_some hfind
          have hid : inst.id = request.inst.id := by simpa using List.find?_some hfind
          rw [CpuHost.apply, CpuHost.carryOut]
          split
          case h_1 cpus hcpus =>
            have hsome : request.cpuHardwareIds = some cpus := by
              unfold updatedCpus at hcpus
              split at hcpus
              · cases hcpus
              · exact hcpus
            rw [← hid]
            exact h.replace (CpuHost.mem_ofSnapshot hmem) (hupdate.cpus cpus hsome).available
          case h_2 => exact h.unchanged
      | delete request => exact h.filter request.id
      | load request | start request | stop request | unload request => exact h.unchanged

/-- One accepted request: it was planned against a healthy snapshot of the host, and the
kernel shows the host that it asks for. -/
def CpuStep (host next : CpuHost) : Prop :=
  ∃ snapshot request, snapshot.health = .healthy ∧ CpuHost.ofSnapshot snapshot = host ∧
    HostRequest.Accepted snapshot request ∧ next.Shows (host.apply request)

theorem CpuStep.cpuExclusive {next : CpuHost} (hstep : CpuStep host next)
    (h : CpuExclusive host) : CpuExclusive next := by
  obtain ⟨snapshot, request, -, rfl, haccepted, hshows⟩ := hstep
  exact hshows.cpuExclusive (h.apply haccepted)

/-- CPU ownership stays exclusive over every sequence of accepted requests. -/
theorem cpuExclusive_of_run {reached : CpuHost} (h : CpuExclusive host)
    (run : Relation.ReflTransGen CpuStep host reached) : CpuExclusive reached := by
  induction run with
  | refl => exact h
  | tail _ hstep ih => exact hstep.cpuExclusive ih

/-- A host whose pool has the CPUs 4 and 5, with the given instances and free CPUs. -/
def smallSnapshot (available : List UInt32) (instances : List Instance) : HostSnapshot where
  generation := ⟨1⟩
  health := .healthy
  diagnostics := []
  kernel := ⟨"6.12", true⟩
  capabilities := []
  topology := ⟨"x86_64", [], []⟩
  memory := ⟨0, 0, 0, 0⟩
  resourcePool := ⟨[4, 5], available, [⟨4096, 8192, 0⟩], [], []⟩
  instances := instances
  transactions := []
  operations := []

/-- An instance is created on CPU 4, then CPU 5 leaves the pool. -/
theorem cpuExclusive_of_run_small :
    CpuExclusive ⟨[4, 5], [4, 5], []⟩ ∧ CpuExclusive ⟨[4], [], [⟨⟨1⟩, "web", [4]⟩]⟩ := by
  have hstart : CpuExclusive ⟨[4, 5], [4, 5], []⟩ :=
    ⟨by simp, by simp, by simp, by simp, by simp⟩
  have hcreate : CpuStep ⟨[4, 5], [4, 5], []⟩ ⟨[4, 5], [5], [⟨⟨1⟩, "web", [4]⟩]⟩ :=
    ⟨smallSnapshot [4, 5] [], .lifecycle (.create ⟨⟨1⟩, ⟨1⟩, "web", [4], 4096⟩), rfl, rfl,
      ⟨_, rfl⟩, ⟨List.Perm.refl _, fun _ _ => Iff.rfl, fun _ => Iff.rfl, fun _ => Iff.rfl⟩⟩
  have hshrink : CpuStep ⟨[4, 5], [5], [⟨⟨1⟩, "web", [4]⟩]⟩ ⟨[4], [], [⟨⟨1⟩, "web", [4]⟩]⟩ :=
    ⟨smallSnapshot [5] [⟨⟨1⟩, "web", ⟨1⟩, .ready, ⟨[4], some 4096, 4096, none, []⟩, ⟨false⟩⟩],
      .pool ⟨⟨1⟩, [4], 8192⟩, rfl, rfl, ⟨_, rfl⟩,
      ⟨List.Perm.refl _, fun _ _ => Iff.rfl, fun _ => Iff.rfl, fun _ => Iff.rfl⟩⟩
  exact ⟨hstart, cpuExclusive_of_run hstart (.tail (.single hcreate) hshrink)⟩

end Kernmux.Daemon
