import Kernmux.Core.LinuxHost
import Kernmux.Core.MultikernelProbeSound
import Kernmux.Daemon.DeviceGroups
import Kernmux.Daemon.InventorySound

/-!
# Kernmux.Daemon.FilesystemInventory

**From the files of a host to the snapshots of the daemon.** The filesystem
source joins the two probes, and the inventory service refreshes from it. Over
every sequence of refreshes, each of which finds the host as it is then:

* devices of one IOMMU group list the same members in every snapshot, stale
  ones included, as the planner assumes (`snapshot_groupsConsistent`);
* a host whose files have not changed keeps its snapshot and its generation, in
  whichever order directories are listed (`refresh_relisted`).
-/

namespace Kernmux.Daemon

open Api.V1 Kernmux.Core Library Inventory Lifecycle
open MultikernelProbe (groupDirectory groupLink lab labState lists_iff readDevices)

/-! ### The source -/

inductive FilesystemInventoryError
  | linux (error : ProbeError)
  | multikernel (error : InventoryError)
  deriving DecidableEq, Repr

structure FilesystemInventorySource where
  linux : LinuxHost
  multikernel : MultikernelProbe

namespace FilesystemInventorySource

/-- A host without Multikernel has nothing to show of it. -/
def observeMultikernel (source : FilesystemInventorySource) (linux : LinuxHostObservation) :
    Except FilesystemInventoryError MultikernelObservation :=
  if linux.capabilities.supports .multikernel = true then
    mapErr .multikernel source.multikernel.observe
  else .ok ⟨⟨[], [], [], []⟩, [], []⟩

def observe (source : FilesystemInventorySource) :
    Except FilesystemInventoryError HostObservations := do
  let linux ← mapErr .linux source.linux.observe
  let multikernel ← source.observeMultikernel linux
  return ⟨linux, multikernel⟩

variable {source : FilesystemInventorySource} {observed : HostObservations}

theorem observe_eq_ok : source.observe = .ok observed ↔ source.linux.observe = .ok observed.linux ∧
      source.observeMultikernel observed.linux = .ok observed.multikernel := by
  simp only [observe, bind_eq_ok, pure_eq_ok, mapErr_eq_ok]
  constructor
  · rintro ⟨linux, hlinux, multikernel, hmultikernel, rfl⟩
    exact ⟨hlinux, hmultikernel⟩
  · rintro ⟨hlinux, hmultikernel⟩
    exact ⟨_, hlinux, _, hmultikernel, rfl⟩

theorem observeMultikernel_eq_ok {linux : LinuxHostObservation}
    {multikernel : MultikernelObservation} :
    source.observeMultikernel linux = .ok multikernel ↔
      linux.capabilities.supports .multikernel = true ∧
          source.multikernel.observe = .ok multikernel ∨
        linux.capabilities.supports .multikernel = false ∧
          multikernel = ⟨⟨[], [], [], []⟩, [], []⟩ := by
  unfold observeMultikernel
  cases linux.capabilities.supports .multikernel with
  | true => simp
  | false => simp [eq_comm]

end FilesystemInventorySource

/-! ### Groups -/

/-- The kernel lists a device in the directory of the group that the device is linked to. -/
def GroupsListed (probe : MultikernelProbe) : Prop :=
  ∀ pciId group members, probe.files.Linked pciId group →
    probe.files.Lists (groupDirectory group.toNat) members → pciId ∈ members

section Groups

variable {probe : MultikernelProbe}

/-- The devices of a pool and of its instances. -/
def observedDevices (observed : MultikernelObservation) : List PciDeviceObservation :=
  observed.pool.devices ++ observed.instances.flatMap (·.resources.devices)

/-- Two listings of one directory have the same names. -/
theorem lists_unique {relative : String} {names others : List String}
    (h : probe.files.Lists relative names) (hother : probe.files.Lists relative others) :
    names.Perm others := by
  obtain ⟨entries, hentries, hnames⟩ := lists_iff.mp h
  obtain ⟨entries', hentries', hothers⟩ := lists_iff.mp hother
  have hsame : entries.map (Except.ok (ε := IoError)) = entries'.map .ok :=
    Except.ok.inj (hentries.symm.trans hentries')
  have hinjective : Function.Injective (Except.ok (ε := IoError) (α := DirEntry)) :=
    fun _ _ => Except.ok.inj
  rw [List.map_injective_iff.mpr hinjective hsame] at hnames
  exact hnames.trans hothers.symm

theorem publishesGroup_of_mem_devices {resources : FdtNode} {devices : List PciDeviceObservation}
    (h : probe.readDevices resources = .ok devices) {device : PciDeviceObservation}
    (hdevice : device ∈ devices) :
    probe.files.PublishesGroup device.pciId device.iommuGroup device.iommuGroupMembers := by
  unfold readDevices at h
  split at h
  · cases h
    exact absurd hdevice List.not_mem_nil
  · obtain ⟨node, -, hnode⟩ := exists_of_mem_collectEach h hdevice
    exact (MultikernelProbe.readDevice_eq_ok.mp hnode).group

/-- Every device that is observed is in the group its link leads to, with the members that are
listed there. -/
theorem publishesGroup_of_observe {observed : MultikernelObservation}
    (h : probe.observe = .ok observed) {device : PciDeviceObservation}
    (hdevice : device ∈ observedDevices observed) :
    probe.files.PublishesGroup device.pciId device.iommuGroup device.iommuGroupMembers := by
  obtain ⟨hpool, hinstances, -⟩ := MultikernelProbe.observe_eq_ok.mp h
  rcases List.mem_append.mp hdevice with hfree | hheld
  · simp only [MultikernelProbe.readResourcePool, bind_eq_ok] at hpool
    obtain ⟨bytes, -, tree, -, hpool⟩ := hpool
    split at hpool
    · rw [← pure_eq_ok.mp hpool] at hfree
      exact absurd hfree List.not_mem_nil
    · simp only [bind_eq_ok] at hpool
      obtain ⟨cpus, -, available, -, regions, -, devices, hdevices, hpool⟩ := hpool
      rw [← pure_eq_ok.mp hpool] at hfree
      exact publishesGroup_of_mem_devices hdevices hfree
  · obtain ⟨inst, hinst, hmem⟩ := List.mem_flatMap.mp hheld
    simp only [MultikernelProbe.readInstances, bind_eq_ok, pure_eq_ok,
      MultikernelProbe.readEach_eq_ok] at hinstances
    obtain ⟨listed, ⟨entries, -, -, hlisted⟩, hsorted⟩ := hinstances
    rw [← hsorted, List.mem_insertionSort] at hinst
    obtain ⟨name, -, hread⟩ := exists_of_mem_collectEach (collectEach_eq_ok.mpr hlisted) hinst
    obtain ⟨bytes, tree, resources, -, -, -, hassigned⟩ :=
      (MultikernelProbe.readInstance_eq_ok.mp hread).tree
    exact publishesGroup_of_mem_devices
      (MultikernelProbe.readDevices_eq_ok.mpr hassigned.devices) hmem

/-- Devices observed together agree on the members of their groups. -/
theorem members_of_observe {observed : MultikernelObservation} (h : probe.observe = .ok observed)
    {one other : PciDeviceObservation} (hone : one ∈ observedDevices observed)
    (hother : other ∈ observedDevices observed) {group : UInt32}
    (hgroup : one.iommuGroup = some group) (hgroup' : other.iommuGroup = some group) :
    one.iommuGroupMembers = other.iommuGroupMembers := by
  have hone := publishesGroup_of_observe h hone
  have hother := publishesGroup_of_observe h hother
  rw [hgroup] at hone
  rw [hgroup'] at hother
  obtain ⟨hsorted, -, hlists⟩ := hone
  obtain ⟨hsorted', -, hlists'⟩ := hother
  exact (lists_unique hlists hlists').eq_of_pairwise
    (fun _ _ _ _ => Std.Antisymm.antisymm _ _) hsorted hsorted'

end Groups

/-! ### Snapshots -/

/-- The device of a snapshot that an observed device becomes. -/
def reported (device : PciDeviceObservation) : PciDevice where
  pciId := device.pciId
  poolName := device.poolName
  vendorId := device.vendorId
  deviceId := device.deviceId
  iommuGroup := device.iommuGroup
  iommuGroupMembers := device.iommuGroupMembers

theorem devices_mapResourcePool (observed : MultikernelObservation) :
    (mapResourcePool observed).devices =
      (orderedValues PciDeviceObservation.pciId (observedDevices observed)).map reported := rfl

theorem groupsConsistent_of_observe {probe : MultikernelProbe} (hkernel : GroupsListed probe)
    {observed : MultikernelObservation} (h : probe.observe = .ok observed) :
    GroupsConsistent (mapResourcePool observed) := by
  obtain ⟨hnodup, hmem⟩ :=
    orderedValues_spec PciDeviceObservation.pciId (observedDevices observed)
  have hdevices := devices_mapResourcePool observed
  refine ⟨?_, ?_, ?_⟩
  · rw [hdevices, List.map_map]
    exact hnodup
  · intro device hdevice group hgroup
    rw [hdevices] at hdevice
    obtain ⟨source, hsource, rfl⟩ := List.mem_map.mp hdevice
    have hpublished := publishesGroup_of_observe h (hmem source hsource)
    have hgroup : source.iommuGroup = some group := hgroup
    rw [hgroup] at hpublished
    exact hkernel _ _ _ hpublished.2.1 hpublished.2.2
  · intro one hone other hother group hgroup hgroup' member
    rw [hdevices] at hone hother
    obtain ⟨first, hfirst, rfl⟩ := List.mem_map.mp hone
    obtain ⟨second, hsecond, rfl⟩ := List.mem_map.mp hother
    have hsame := members_of_observe h (hmem first hfirst) (hmem second hsecond) hgroup hgroup'
    show member ∈ first.iommuGroupMembers ↔ member ∈ second.iommuGroupMembers
    rw [hsame]

/-! ### Runs -/

section Runs

variable {ε : Type} {results : ℕ → Except ε HostObservations}

/-- What is retained was assembled from one of the observations made before. -/
theorem retained_observed {n : ℕ} {current : HostSnapshot}
    (h : retained results n = some current) :
    ∃ m observed generation, results m = .ok observed ∧
      current = assembleSnapshot generation observed := by
  induction n with
  | zero => cases h
  | succ n ih =>
      cases hresult : results n with
      | error error => exact ih (by rw [← retained_succ_of_error hresult]; exact h)
      | ok observed =>
          obtain ⟨generation, -, hretained⟩ := answer_of_ok hresult
          rw [hretained] at h
          exact ⟨n, observed, generation, hresult, (Option.some.inj h).symm⟩

/-- **IOMMU groups are consistent in every snapshot of every run**, stale ones included, if the
kernel lists each device in the group it is linked to. -/
theorem snapshot_groupsConsistent (hosts : ℕ → FilesystemInventorySource)
    (hkernel : ∀ n, GroupsListed (hosts n).multikernel) {n : ℕ} {snapshot : HostSnapshot}
    (h : answer (fun n => (hosts n).observe) n = .ok snapshot) :
    GroupsConsistent snapshot.resourcePool := by
  obtain ⟨current, hretained, hcase⟩ := answer_retained h
  obtain ⟨m, observed, generation, hobserved, rfl⟩ := retained_observed hretained
  have hpool : snapshot.resourcePool = mapResourcePool observed.multikernel := by
    rcases hcase with rfl | rfl <;> rfl
  rw [hpool]
  obtain ⟨-, hmultikernel⟩ := FilesystemInventorySource.observe_eq_ok.mp hobserved
  rcases FilesystemInventorySource.observeMultikernel_eq_ok.mp hmultikernel with
    ⟨-, hprobe⟩ | ⟨-, hnone⟩
  · exact groupsConsistent_of_observe (hkernel m) hprobe
  · rw [hnone]
    exact ⟨by decide, by simp [mapResourcePool, orderedValues, elements],
      by simp [mapResourcePool, orderedValues, elements]⟩

/-- A Linux host with one CPU, whose Multikernel filesystem is that of the laboratory. -/
def labHost : LinuxHost where
  root := "/"
  readToString relative :=
    if relative = "proc/meminfo" then .ok "MemTotal: 16 kB\nMemFree: 8 kB\n"
    else if relative = "sys/devices/system/node/node0/meminfo" then
      .ok "Node 0 MemTotal: 16 kB\nNode 0 MemFree: 8 kB\n"
    else if relative = "proc/cpuinfo" then .ok "processor: 0\napicid: 4\n"
    else .ok "0\n"
  architecture := "x86_64"
  readDir relative :=
    if relative = "sys/devices/system/node" then
      .ok [.ok (.ofString "node0"), .ok (.ofString "online")]
    else .error "No such file or directory"
  present _ := true

def labSource : FilesystemInventorySource := ⟨labHost, lab⟩

theorem append_append_injective (before after : String) :
    Function.Injective fun text => before ++ text ++ after := by
  intro one other h
  have hchars := congrArg String.toList h
  simp only [String.toList_append] at hchars
  exact String.toList_inj.mp (List.append_cancel_left (List.append_cancel_right hchars))

theorem groupLink_injective : Function.Injective groupLink :=
  append_append_injective "sys/bus/pci/devices/" "/iommu_group"

theorem groupsListed_lab : GroupsListed lab := by
  rintro pciId group members ⟨target, htarget, hgroup⟩ hlists
  have hlinks : lab.files.readLink (groupLink pciId) =
      if groupLink pciId = groupLink "0000:05:00.0" then
        .ok (.ofString "../../../../kernel/iommu_groups/13")
      else .error (.ofKind .notFound) := rfl
  by_cases hlink : groupLink pciId = groupLink "0000:05:00.0"
  · rw [hlinks, if_pos hlink] at htarget
    cases htarget
    have hread : ((fileName (.ofString "../../../../kernel/iommu_groups/13")).bind
        OsString.toStr).bind (parseUnsigned (2 ^ 32)) = some 13 := by decide +kernel
    rw [← Option.some.inj (hread.symm.trans hgroup)] at hlists
    have hlab : lab.files.Lists (groupDirectory 13)
        ["0000:05:00.1", "0000:05:00.0"] := by
      refine lists_iff.mpr
        ⟨[⟨.ofString "0000:05:00.1", .ok true⟩, ⟨.ofString "0000:05:00.0", .ok true⟩], ?_, ?_⟩
      · decide +kernel
      · decide +kernel
    rw [groupLink_injective hlink, (lists_unique hlists hlab).mem_iff]
    simp
  · rw [hlinks, if_neg hlink] at htarget
    cases htarget

theorem observe_labSource : ∃ linux, labSource.observe = .ok ⟨linux, labState⟩ ∧
    linux.numaNodes.map (·.id) = [0] := by
  have hview : labSource.observe.toOption.any (fun observed =>
      observed.multikernel = labState ∧
        observed.linux.numaNodes.map (·.id) = [0]) = true := by decide +kernel
  cases hobserve : labSource.observe with
  | error error =>
      rw [hobserve] at hview
      cases hview
  | ok observed =>
      rw [hobserve] at hview
      obtain ⟨hmultikernel, hnodes⟩ := of_decide_eq_true hview
      exact ⟨observed.linux, by rw [← hmultikernel], hnodes⟩

/-- The snapshot of the laboratory has a device in a group of two. -/
theorem snapshot_groupsConsistent_lab : ∃ snapshot,
    answer (fun _ => labSource.observe) 0 = .ok snapshot ∧
      snapshot.resourcePool.devices ≠ [] ∧ GroupsConsistent snapshot.resourcePool := by
  obtain ⟨linux, hobserve, -⟩ := observe_labSource
  obtain ⟨generation, hanswer, -⟩ : ∃ generation, answer (fun _ => labSource.observe) 0 =
      .ok (assembleSnapshot generation ⟨linux, labState⟩) ∧ _ :=
    answer_of_ok hobserve
  refine ⟨_, hanswer, ?_, snapshot_groupsConsistent (fun _ => labSource)
    (fun _ => groupsListed_lab) hanswer⟩
  show (mapResourcePool labState).devices ≠ []
  decide +kernel

end Runs

/-! ### Unchanged hosts -/

/-- The same files, with directories listed in another order. -/
structure Relisted (source other : FilesystemInventorySource) : Prop where
  linux : LinuxHost.Relisted source.linux other.linux
  multikernel : MultikernelProbe.Relisted source.multikernel other.multikernel

/-- Whatever is sorted is told apart by what it is sorted by. -/
structure Distinct (observed : HostObservations) : Prop where
  nodes : (observed.linux.numaNodes.map (·.id)).Nodup
  multikernel : observed.multikernel.Distinct

theorem Relisted.observe {source other : FilesystemInventorySource} (h : Relisted source other)
    {observed : HostObservations} (hdistinct : Distinct observed)
    (hobserved : source.observe = .ok observed) : other.observe = .ok observed := by
  obtain ⟨hlinux, hmultikernel⟩ := FilesystemInventorySource.observe_eq_ok.mp hobserved
  refine FilesystemInventorySource.observe_eq_ok.mpr ⟨h.linux.observe hdistinct.nodes hlinux, ?_⟩
  rw [FilesystemInventorySource.observeMultikernel_eq_ok] at hmultikernel ⊢
  refine hmultikernel.imp_left (And.imp_right fun hprobe => ?_)
  rw [MultikernelProbe.observe_eq_ok_iff hdistinct.multikernel] at hprobe ⊢
  exact h.multikernel.files ▸ hprobe

/-- What a snapshot was assembled from makes no new snapshot. -/
theorem nextSnapshot_same (generation : Generation) (observed : HostObservations) :
    nextSnapshot (assembleSnapshot generation observed) observed =
      assembleSnapshot generation observed :=
  if_pos rfl

/-- As long as the same is observed, the answer stays the same. -/
theorem answer_unchanged {ε : Type} {results : ℕ → Except ε HostObservations}
    {observed : HostObservations} {m n : ℕ} (hmn : m ≤ n)
    (hresults : ∀ k, m ≤ k → k ≤ n → results k = .ok observed) :
    ∃ snapshot, answer results m = .ok snapshot ∧ answer results n = .ok snapshot ∧
      retained results (n + 1) = some snapshot := by
  obtain ⟨generation, hanswer, hretained⟩ := answer_of_ok (hresults m (Nat.le_refl m) hmn)
  refine ⟨_, hanswer, ?_⟩
  induction n, hmn using Nat.le_induction with
  | base => exact ⟨hanswer, hretained⟩
  | succ n hmn ih =>
      obtain ⟨-, hbefore⟩ := ih fun k hk hkn => hresults k hk (Nat.le_succ_of_le hkn)
      rw [answer_eq, retained_succ results (n + 1), hbefore,
        hresults (n + 1) (Nat.le_succ_of_le hmn) (Nat.le_refl _)]
      simp only [settle, nextSnapshot_same, and_self]

/-- **An unchanged host keeps its snapshot.** As long as every refresh finds the files of the
first one, in whatever order directories are listed, it answers with the same snapshot: with the
same generation in particular. -/
theorem refresh_relisted (hosts : ℕ → FilesystemInventorySource) {m n : ℕ} (hmn : m ≤ n)
    (hsame : ∀ k, m ≤ k → k ≤ n → Relisted (hosts m) (hosts k)) {observed : HostObservations}
    (hobserved : (hosts m).observe = .ok observed) (hdistinct : Distinct observed) :
    ∃ snapshot, answer (fun n => (hosts n).observe) m = .ok snapshot ∧
      answer (fun n => (hosts n).observe) n = .ok snapshot := by
  obtain ⟨snapshot, hfirst, hlast, -⟩ := answer_unchanged hmn fun k hmk hkn =>
    (hsame k hmk hkn).observe hdistinct hobserved
  exact ⟨snapshot, hfirst, hlast⟩

/-- The laboratory with its Multikernel directories listed the other way round. -/
def labRelisted : FilesystemInventorySource where
  linux := labHost
  multikernel := { lab with
    readDir := fun relative => (lab.readDir relative).map List.reverse }

theorem relisted_lab (n : ℕ) : Relisted labSource (if n = 0 then labSource else labRelisted) := by
  have hlinux : LinuxHost.Relisted labHost labHost := ⟨rfl, rfl, rfl, fun _ => .refl _⟩
  split
  · exact ⟨hlinux, rfl, rfl, rfl, rfl, fun _ => .refl _⟩
  · refine ⟨hlinux, rfl, rfl, rfl, rfl, fun relative => ?_⟩
    show Relists (lab.readDir relative) (Except.map List.reverse _)
    cases lab.readDir relative with
    | error error => trivial
    | ok listing => exact (List.reverse_perm listing).symm

theorem refresh_relisted_lab : ∃ snapshot,
    answer (fun n => (if n = 0 then labSource else labRelisted).observe) 0 = .ok snapshot ∧
      answer (fun n => (if n = 0 then labSource else labRelisted).observe) 5 = .ok snapshot := by
  obtain ⟨linux, hobserve, hnodes⟩ := observe_labSource
  refine refresh_relisted (fun n => if n = 0 then labSource else labRelisted) (Nat.zero_le 5)
    (fun k _ _ => relisted_lab k) hobserve ⟨?_, MultikernelProbe.distinct_labState⟩
  rw [hnodes]
  decide

end Kernmux.Daemon
