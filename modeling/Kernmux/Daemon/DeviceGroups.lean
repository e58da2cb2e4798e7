import Kernmux.Daemon.Lifecycle
import Kernmux.Library.Ownership

/-!
# Kernmux.Daemon.DeviceGroups

**No accepted device replacement splits an IOMMU group.** Devices have owners,
and so have groups: an instance owns a group when it owns a device of it. Both
are ownership in the sense of `Library/Ownership.lean`, both must be exclusive,
and a device replacement reassigns both.

The planner only ever looks at devices. That no *peer* owns a device of a
requested group follows because a group is requested as a whole: a peer's
device of that group would be a member, hence requested, hence refused.

An instance is known by its ID. All records of the snapshot with the ID of the
target are the target.
-/

namespace Kernmux.Daemon.Lifecycle

open Api.V1 Library

variable {snapshot : HostSnapshot} {requested : List String} {inst : Instance}

/-! ### Owners of devices and of groups -/

/-- The instance with this ID owns the device at this address. -/
def OwnsDevice (snapshot : HostSnapshot) (id : InstanceId) (pciId : String) : Prop :=
  ∃ inst ∈ snapshot.instances, inst.id = id ∧ pciId ∈ inst.resources.deviceIds

/-- The instance with this ID owns a pool device of this IOMMU group. -/
def OwnsGroup (snapshot : HostSnapshot) (id : InstanceId) (group : UInt32) : Prop :=
  ∃ device ∈ snapshot.resourcePool.devices, device.iommuGroup = some group ∧
    OwnsDevice snapshot id device.pciId

/-- The pool's devices are told apart by their addresses, and devices of one group list
the same members, themselves among them. -/
structure GroupsConsistent (pool : ResourcePool) : Prop where
  ids_nodup : (pool.devices.map (·.pciId)).Nodup
  self_listed : ∀ device ∈ pool.devices, ∀ group, device.iommuGroup = some group →
    device.pciId ∈ device.iommuGroupMembers
  same_members : ∀ one ∈ pool.devices, ∀ other ∈ pool.devices, ∀ group,
    one.iommuGroup = some group → other.iommuGroup = some group →
      ∀ member, member ∈ one.iommuGroupMembers ↔ member ∈ other.iommuGroupMembers

/-- No device and no group has two owners. -/
structure DevicesIsolated (snapshot : HostSnapshot) : Prop where
  device_exclusive : Exclusive (OwnsDevice snapshot)
  group_exclusive : Exclusive (OwnsGroup snapshot)

/-! ### The replacement -/

/-- The snapshot in which the instance with this ID has other devices. -/
def replaceDevices (snapshot : HostSnapshot) (id : InstanceId) (devices : List String) :
    HostSnapshot :=
  { snapshot with
    instances := snapshot.instances.map fun inst =>
      if inst.id = id then { inst with resources := { inst.resources with deviceIds := devices } }
      else inst }

theorem ownsDevice_replaceDevices {target : Instance} (htarget : target ∈ snapshot.instances)
    (devices : List String) :
    OwnsDevice (replaceDevices snapshot target.id devices) =
      reassign (OwnsDevice snapshot) target.id {pciId | pciId ∈ devices} := by
  have howns : ∀ snapshot, OwnsDevice snapshot = Holds Instance.id
      (fun inst => {pciId | pciId ∈ inst.resources.deviceIds}) snapshot.instances := fun _ => rfl
  rw [howns, howns]
  exact holds_update htarget (fun _ => rfl) (fun _ => rfl)

/-- The groups of the pool that a list of devices touches. -/
def touchedGroups (snapshot : HostSnapshot) (devices : List String) : Set UInt32 :=
  {group | ∃ device ∈ snapshot.resourcePool.devices, device.iommuGroup = some group ∧
    device.pciId ∈ devices}

theorem ownsGroup_replaceDevices {target : Instance} (htarget : target ∈ snapshot.instances)
    (devices : List String) :
    OwnsGroup (replaceDevices snapshot target.id devices) =
      reassign (OwnsGroup snapshot) target.id (touchedGroups snapshot devices) := by
  funext id group
  simp only [OwnsGroup, ownsDevice_replaceDevices htarget]
  refine propext ⟨fun hown => ?_, fun hown => ?_⟩
  · obtain ⟨device, hdevice, hgroup, hown⟩ := hown
    rcases hown with ⟨rfl, hmem⟩ | ⟨hne, hold⟩
    · exact .inl ⟨rfl, device, hdevice, hgroup, hmem⟩
    · exact .inr ⟨hne, device, hdevice, hgroup, hold⟩
  · rcases hown with ⟨rfl, device, hdevice, hgroup, hmem⟩ | ⟨hne, device, hdevice, hgroup, hold⟩
    · exact ⟨device, hdevice, hgroup, .inl ⟨rfl, hmem⟩⟩
    · exact ⟨device, hdevice, hgroup, .inr ⟨hne, hold⟩⟩

/-! ### What the planner has checked -/

/-- A requested device is a device of the pool with a group, free or already owned by the
instance, and requested together with every member of its group. -/
structure DeviceAccepted (snapshot : HostSnapshot) (inst : Instance) (requested : List String)
    (device : PciDevice) : Prop where
  managed : device ∈ snapshot.resourcePool.devices
  usable : device.pciId ∈ snapshot.resourcePool.availableDeviceIds ∨
    device.pciId ∈ inst.resources.deviceIds
  grouped : ∃ group, device.iommuGroup = some group
  complete : ∀ member ∈ device.iommuGroupMembers, member ∈ requested ∧
    ∃ other ∈ snapshot.resourcePool.devices, other.pciId = member

theorem missingMembers_eq_nil {device : PciDevice} : missingMembers snapshot requested device = [] ↔
      ∀ member ∈ device.iommuGroupMembers, member ∈ requested ∧
        ∃ other ∈ snapshot.resourcePool.devices, other.pciId = member := by
  rw [missingMembers, List.filter_eq_nil_iff]
  refine forall₂_congr fun member _ => ?_
  rw [← lookupLast_isSome_iff]
  simp [managed, Option.ne_none_iff_isSome]

theorem of_validateUpdateDevice_eq_ok {pciId : String}
    (h : validateUpdateDevice snapshot inst requested pciId = .ok ()) :
    ∃ device, device.pciId = pciId ∧ DeviceAccepted snapshot inst requested device := by
  rw [validateUpdateDevice, bind_eq_ok] at h
  obtain ⟨device, hmanaged, h⟩ := h
  rw [guard_eq_ok, bind_eq_ok] at h
  obtain ⟨husable, group, hgroup, hmissing⟩ := h
  obtain ⟨hmem, rfl⟩ := lookupLast_some (okOr_eq_ok.mp hmanaged)
  rw [rejectIf_eq_ok, mem_elements, mem_elements, ← not_or, not_not] at husable
  rw [rejectIf_eq_ok, not_not, missingMembers_eq_nil] at hmissing
  exact ⟨device, rfl, hmem, husable, ⟨group, okOr_eq_ok.mp hgroup⟩, hmissing⟩

/-- The requested devices are acceptable one by one and none belongs to a peer. -/
structure DevicesAccepted (snapshot : HostSnapshot) (inst : Instance) (requested : List String) :
    Prop where
  each : ∀ pciId ∈ requested,
    ∃ device, device.pciId = pciId ∧ DeviceAccepted snapshot inst requested device
  unowned : ∀ pciId ∈ requested, ∀ id, id ≠ inst.id → ¬ OwnsDevice snapshot id pciId

theorem of_validateUpdateDevices_eq_ok
    (h : validateUpdateDevices snapshot inst requested = .ok ()) :
    DevicesAccepted snapshot inst requested := by
  simp only [validateUpdateDevices, guard_eq_ok, checkEach_eq_ok] at h
  obtain ⟨-, -, -, hpeers, heach⟩ := h
  refine ⟨fun pciId hpci => of_validateUpdateDevice_eq_ok (heach pciId hpci), ?_⟩
  rintro pciId hpci id hne ⟨peer, hpeer, rfl, hdevice⟩
  have hfree := hpeers peer (List.mem_filter.mpr ⟨hpeer, decide_eq_true hne⟩)
  rw [rejectPeerOwned, rejectSome_eq_ok, List.find?_eq_none] at hfree
  exact hfree pciId hdevice (by simpa using hpci)

/-- A requested group has no device of another instance: the device would be a member of
the group, hence requested. -/
theorem DevicesAccepted.group_unowned (h : DevicesAccepted snapshot inst requested)
    (hgroups : GroupsConsistent snapshot.resourcePool) :
    ∀ group ∈ touchedGroups snapshot requested, ∀ id, id ≠ inst.id →
      ¬ OwnsGroup snapshot id group := by
  intro group htouched id hne hown
  obtain ⟨device, hdevice, hgroup, hrequested⟩ := htouched
  obtain ⟨other, hother, hgroup', hown⟩ := hown
  -- the planner found `device` itself under its address
  obtain ⟨found, hfound, haccepted⟩ := h.each device.pciId hrequested
  obtain rfl : found = device :=
    List.inj_on_of_nodup_map hgroups.ids_nodup haccepted.managed hdevice hfound
  have hmember : other.pciId ∈ found.iommuGroupMembers :=
    (hgroups.same_members found hdevice other hother group hgroup hgroup' _).mpr
      (hgroups.self_listed other hother group hgroup')
  exact h.unowned other.pciId (haccepted.complete _ hmember).1 id hne hown

/-- Every accepted device replacement leaves devices and groups with one owner each. The
target owns only devices of the pool that were available or its own, each together with
all members of its group. -/
theorem devicesIsolated_replaceDevices (hgroups : GroupsConsistent snapshot.resourcePool)
    (h : DevicesIsolated snapshot) {request : UpdateRequest} {invocation : KerfInvocation}
    (hplan : plan (.update request) snapshot = .ok invocation) {devices : List String}
    (hdevices : request.deviceIds = some devices) :
    let after := replaceDevices snapshot request.inst.id devices
    DevicesIsolated after ∧ (∀ pciId, OwnsDevice after request.inst.id pciId →
        ∃ device ∈ after.resourcePool.devices, device.pciId = pciId ∧ device.iommuGroup.isSome ∧
          ∀ member ∈ device.iommuGroupMembers,
            (∃ other ∈ after.resourcePool.devices, other.pciId = member) ∧
              OwnsDevice after request.inst.id member) ∧
      (∀ pciId, OwnsDevice after request.inst.id pciId →
        pciId ∈ snapshot.resourcePool.availableDeviceIds ∨
          OwnsDevice snapshot request.inst.id pciId) := by
  obtain ⟨target, hupdate, -⟩ := planUpdate_eq_ok.mp (plan_eq_ok.mp hplan).2
  obtain ⟨-, hfind, -⟩ := requireInstance_eq_ok.mp hupdate.found
  have htarget := List.mem_of_find?_eq_some hfind
  have hid : target.id = request.inst.id := by simpa using List.find?_some hfind
  have haccepted := of_validateUpdateDevices_eq_ok (hupdate.devices devices hdevices)
  intro after
  have hafter : after = replaceDevices snapshot target.id devices := by rw [hid]
  rw [← hid, hafter]
  have hown : ∀ pciId, OwnsDevice (replaceDevices snapshot target.id devices) target.id pciId ↔
      pciId ∈ devices := by
    intro pciId
    rw [ownsDevice_replaceDevices htarget]
    exact reassign_self
  refine ⟨⟨?_, ?_⟩, fun pciId hpci => ?_, fun pciId hpci => ?_⟩
  · rw [ownsDevice_replaceDevices htarget]
    exact h.device_exclusive.reassign haccepted.unowned
  -- a group goes over as a whole: its devices list the same members
  · rw [ownsGroup_replaceDevices htarget]
    exact h.group_exclusive.reassign (haccepted.group_unowned hgroups)
  · obtain ⟨device, rfl, hdevice⟩ := haccepted.each pciId ((hown pciId).mp hpci)
    obtain ⟨group, hgroup⟩ := hdevice.grouped
    refine ⟨device, hdevice.managed, rfl, Option.isSome_of_mem hgroup, fun member hmember => ?_⟩
    obtain ⟨hrequested, hmanaged⟩ := hdevice.complete member hmember
    exact ⟨hmanaged, (hown member).mpr hrequested⟩
  · obtain ⟨device, rfl, hdevice⟩ := haccepted.each pciId ((hown pciId).mp hpci)
    exact hdevice.usable.imp_right fun hmem => ⟨target, htarget, rfl, hmem⟩

/-- Two functions of one card in a group of their own, free, and a second card in use. -/
def twoCards : HostSnapshot where
  generation := ⟨1⟩
  health := .healthy
  diagnostics := []
  kernel := ⟨"6.12", true⟩
  capabilities := []
  topology := ⟨"x86_64", [], []⟩
  memory := ⟨0, 0, 0, 0⟩
  resourcePool := {
    cpuHardwareIds := []
    availableCpuHardwareIds := []
    memoryRegions := []
    devices := [
      ⟨"0000:00:01.0", "nic0", none, none, some 7, ["0000:00:01.0", "0000:00:01.1"]⟩,
      ⟨"0000:00:01.1", "nic1", none, none, some 7, ["0000:00:01.0", "0000:00:01.1"]⟩,
      ⟨"0000:00:02.0", "disk", none, none, some 8, ["0000:00:02.0"]⟩]
    availableDeviceIds := ["0000:00:01.0", "0000:00:01.1"] }
  instances := [
    ⟨⟨1⟩, "web", ⟨1⟩, .ready, ⟨[], none, 0, none, []⟩, ⟨false⟩⟩,
    ⟨⟨2⟩, "db", ⟨1⟩, .ready, ⟨[], none, 0, none, ["0000:00:02.0"]⟩, ⟨false⟩⟩]
  transactions := []
  operations := []

/-- The first instance takes both functions of the free card. -/
theorem devicesIsolated_replaceDevices_twoCards :
    GroupsConsistent twoCards.resourcePool ∧ DevicesIsolated twoCards ∧
      DevicesIsolated (replaceDevices twoCards ⟨1⟩ ["0000:00:01.0", "0000:00:01.1"]) := by
  have hgroups : GroupsConsistent twoCards.resourcePool :=
    ⟨by decide, by simp [twoCards], by simp [twoCards]⟩
  have hstart : DevicesIsolated twoCards := by
    constructor
    · intro i j pciId hi hj
      simp [OwnsDevice, twoCards] at hi hj
      rw [← hi.1, ← hj.1]
    · intro i j group hi hj
      simp [OwnsGroup, OwnsDevice, twoCards] at hi hj
      rw [← hi.2, ← hj.2]
  obtain ⟨invocation, hplan⟩ : ∃ invocation, plan (.update ⟨⟨⟨1⟩, ⟨1⟩⟩, none, none,
      some ["0000:00:01.0", "0000:00:01.1"], false⟩) twoCards = .ok invocation := ⟨_, rfl⟩
  exact ⟨hgroups, hstart, (devicesIsolated_replaceDevices hgroups hstart hplan rfl).1⟩

end Kernmux.Daemon.Lifecycle
