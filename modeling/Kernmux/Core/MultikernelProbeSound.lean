import Kernmux.Core.MultikernelProbe
import Kernmux.Library.Merging
import Kernmux.Library.Trimming
import Mathlib.Data.List.ReduceOption

/-!
# Kernmux.Core.MultikernelProbeSound

**The probe reports what the kernel publishes.** `Publishes` says of a
filesystem that it shows a state of the Multikernel: which nodes and directories
stand for what, which bytes the properties and which texts the files hold. It
says nothing about the order in which a directory is listed or in which cells
stand in a property. The probe succeeds on exactly the filesystems that publish
some state, and reports that state (`observe_eq_ok_iff`).
-/

namespace Kernmux.Core

open Library TransactionStatus

variable {entries : List DirEntry} {relative name base directory : String}
  {node resources : FdtNode}

/-! ### Properties -/

/-- The bytes of a property, if the node has it. -/
def FdtNode.value (node : FdtNode) (name : String) : Option (List UInt8) :=
  (node.property name).map (·.value)

/-- The bytes of a 64-bit number. -/
def wideBytes (value : UInt64) (bytes : List UInt8) : Prop :=
  bytes.length = 8 ∧ fromBeBytes bytes = value.toNat

theorem propertyOptionalU32_eq_ok {value : Option UInt32} :
    propertyOptionalU32 (node.property name) name = .ok value ↔
      node.value name = value.map cellBytes := by
  unfold FdtNode.value
  cases node.property name with
  | none =>
      cases value <;> simp [propertyOptionalU32]
  | some property =>
      simp only [propertyOptionalU32, bind_eq_ok, pure_eq_ok, propertyU32_eq_ok, Option.map_some]
      constructor
      · rintro ⟨cell, hcell, rfl⟩
        rw [hcell, Option.map_some]
      · intro h
        obtain ⟨cell, rfl, hcell⟩ := Option.map_eq_some_iff.mp h.symm
        exact ⟨cell, hcell.symm, rfl⟩

theorem propertyU32_value_eq_ok {value : UInt32} :
    propertyU32 (node.property name) name = .ok value ↔ node.value name = some (cellBytes value) := by
  unfold FdtNode.value
  cases node.property name with
  | none => exact iff_of_false (by intro h; cases h) (by intro h; cases h)
  | some property => rw [propertyU32_eq_ok, Option.map_some, Option.some_inj]

theorem propertyU64_value_eq_ok {value : UInt64} :
    propertyU64 (node.property name) name = .ok value ↔
      ∃ bytes, node.value name = some bytes ∧ wideBytes value bytes := by
  unfold FdtNode.value
  cases node.property name with
  | none => exact iff_of_false (by intro h; cases h) (fun ⟨_, h, _⟩ => nomatch h)
  | some property =>
      rw [propertyU64_eq_ok, Option.map_some]
      simp only [Option.some_inj, exists_eq_left']
      rfl

/-- Hardware ids in any order. A property that is not there holds none, and neither does one with
a single zero. -/
def PublishesIds (node : FdtNode) (name : String) (ids : List UInt32) : Prop :=
  ids.Pairwise (· ≤ ·) ∧ ∃ written : List UInt32, ids.Perm written ∧
    (written = [] ∧ (node.value name = none ∨ node.value name = some (idBytes [0])) ∨
      written ≠ [0] ∧ node.value name = some (idBytes written))

theorem propertyHardwareIds_value_eq_ok {written : List UInt32} :
    propertyHardwareIds (node.property name) name = .ok written ↔
      written = [] ∧ (node.value name = none ∨ node.value name = some (idBytes [0])) ∨
        written ≠ [0] ∧ node.value name = some (idBytes written) := by
  unfold FdtNode.value
  cases node.property name with
  | none =>
      simp only [propertyHardwareIds, Option.map_none, Except.ok.injEq]
      simp [eq_comm]
  | some property =>
      rw [propertyHardwareIds_eq_ok, Option.map_some]
      simp only [Option.some_inj, reduceCtorEq, false_or]
      rw [and_comm, and_comm (a := property.value = idBytes written)]

/-! ### Devices -/

/-- The first of some nodes with this name. -/
def FirstNamed (nodes : List FdtNode) (name : String) (node : FdtNode) : Prop :=
  node.name = name ∧ ∃ before after, nodes = before ++ node :: after ∧
    ∀ other ∈ before, other.name ≠ name

theorem find?_name_eq_some {nodes : List FdtNode} :
    (nodes.find? fun node => node.name = name) = some node ↔ FirstNamed nodes name node := by
  rw [List.find?_eq_some_iff_append]
  simp [FirstNamed]

namespace MultikernelProbe

variable {probe : MultikernelProbe}

/-- A directory with these entries, which may be listed in another order. -/
def Holds (probe : MultikernelProbe) (relative : String) (entries : List DirEntry) : Prop :=
  (probe.readDir relative).toOption.elim False fun listing => (entries.map .ok).Perm listing

/-- What there is to read, without the order in which a directory is listed. -/
structure Files where
  readBytes : String → Except IoError (List UInt8)
  readLink : String → Except IoError PathBuf
  fdt : List UInt8 → Except String Fdt
  asStr : NodeProperty → Option String
  holds : String → List DirEntry → Prop

def files (probe : MultikernelProbe) : Files where
  readBytes := probe.readBytes
  readLink := probe.readLink
  fdt := probe.fdt
  asStr := probe.asStr
  holds := probe.Holds

@[simp] theorem files_readBytes : probe.files.readBytes = probe.readBytes := rfl

@[simp] theorem files_readLink : probe.files.readLink = probe.readLink := rfl

/-- The names in a directory. -/
def Files.Lists (files : Files) (relative : String) (names : List String) : Prop :=
  ∃ entries, files.holds relative entries ∧ names.Perm (entries.map (·.fileName.toStringLossy))

/-- A device is linked to a group. -/
def Files.Linked (files : Files) (pciId : String) (group : UInt32) : Prop :=
  ∃ target, files.readLink (groupLink pciId) = .ok target ∧
    ((fileName target).bind OsString.toStr).bind (parseUnsigned (2 ^ 32)) = some group.toNat

/-- A device is in a group with these members, or in none. -/
def Files.PublishesGroup (files : Files) (pciId : String) : Option UInt32 → List String → Prop
  | none, members => members = [] ∧
      ∃ source, files.readLink (groupLink pciId) = .error source ∧ source.kind = .notFound
  | some group, members => members.Pairwise (· ≤ ·) ∧ files.Linked pciId group ∧
      files.Lists (groupDirectory group.toNat) members

structure Files.PublishesDevice (files : Files) (node : FdtNode)
    (device : PciDeviceObservation) : Prop where
  poolName : node.name = device.poolName
  pciId : (node.property "pci-id").bind files.asStr = some device.pciId
  group : files.PublishesGroup device.pciId device.iommuGroup device.iommuGroupMembers
  vendorId : node.value "vendor-id" = device.vendorId.map cellBytes
  deviceId : node.value "device-id" = device.deviceId.map cellBytes

/-- Entries that were all read. -/
theorem forall₂_eq_ok_iff {listing : List (Except IoError DirEntry)} :
    List.Forall₂ (fun entry listed => entry = .ok listed) listing entries ↔
      listing = entries.map .ok := by
  rw [← List.forall₂_eq_eq_eq, List.forall₂_map_right_iff]

theorem entries_eq_ok :
    probe.entries relative = .ok entries ↔ probe.readDir relative = .ok (entries.map .ok) := by
  unfold MultikernelProbe.entries
  simp only [bind_eq_ok, mapErr_eq_ok, collectEach_eq_ok, forall₂_eq_ok_iff, exists_eq_right]

theorem holds_iff : probe.Holds relative entries ↔
    ∃ listed : List DirEntry, probe.readDir relative = .ok (listed.map .ok) ∧
      entries.Perm listed := by
  unfold Holds
  cases probe.readDir relative with
  | error error => exact iff_of_false id (fun ⟨_, h, _⟩ => nomatch h)
  | ok listing =>
      rw [Except.toOption, Option.elim, List.perm_comm,
        ← congrFun₂ (List.eq_map_comp_perm Except.ok) listing entries]
      simp [Relation.Comp, List.perm_comm]

theorem lists_iff {names : List String} : probe.files.Lists relative names ↔
    ∃ listed : List DirEntry, probe.readDir relative = .ok (listed.map .ok) ∧
      names.Perm (listed.map (·.fileName.toStringLossy)) := by
  constructor
  · rintro ⟨entries, hholds, hnames⟩
    obtain ⟨listed, hlisted, hperm⟩ := holds_iff.mp hholds
    exact ⟨listed, hlisted, hnames.trans (hperm.map _)⟩
  · rintro ⟨listed, hlisted, hnames⟩
    exact ⟨listed, holds_iff.mpr ⟨listed, hlisted, .refl _⟩, hnames⟩

theorem linkedGroup_eq_ok {link : String} {target : PathBuf} {group : UInt32} :
    probe.linkedGroup link target = .ok group ↔
      ((fileName target).bind OsString.toStr).bind (parseUnsigned (2 ^ 32)) = some group.toNat := by
  unfold linkedGroup
  simp only [bind_eq_ok, okOr_eq_ok, pure_eq_ok]
  rw [Option.bind_eq_some_iff]
  refine exists_congr fun name => and_congr_right fun _ => ?_
  constructor
  · rintro ⟨id, hid, rfl⟩
    rw [hid, UInt32.toNat_ofNat', Nat.mod_eq_of_lt (parseUnsigned_lt hid)]
  · intro hid
    exact ⟨group.toNat, hid, UInt32.ofNat_toNat⟩

theorem readIommuGroup_eq_ok {pciId : String} {found : Option (UInt32 × List String)} :
    probe.readIommuGroup pciId = .ok found ↔
      probe.files.PublishesGroup pciId (found.map Prod.fst) ((found.map Prod.snd).getD []) := by
  unfold readIommuGroup
  cases hlink : probe.readLink (groupLink pciId) with
  | error source =>
      by_cases hkind : source.kind = .notFound
      · cases found <;> simp [hkind, Files.PublishesGroup, hlink, Files.Linked]
      · cases found <;> simp [hkind, Files.PublishesGroup, hlink, Files.Linked]
  | ok target =>
      simp only [bind_eq_ok, pure_eq_ok, linkedGroup_eq_ok, entries_eq_ok]
      cases found with
      | none => simp [Files.PublishesGroup, hlink]
      | some found =>
          obtain ⟨group, members⟩ := found
          simp only [Option.some_inj, Prod.mk.injEq, insertionSort_eq_iff, Files.PublishesGroup,
            Files.Linked, lists_iff, files_readLink, hlink, Except.ok.injEq, exists_eq_left',
            Option.map_some, Option.getD_some]
          constructor
          · rintro ⟨id, hid, entries, hentries, rfl, hsorted, hperm⟩
            exact ⟨hsorted, hid, entries, hentries, hperm⟩
          · rintro ⟨hsorted, hid, entries, hentries, hperm⟩
            exact ⟨group, hid, entries, hentries, rfl, hsorted, hperm⟩

/-- A device of the tree is reported exactly as it is published. -/
theorem readDevice_eq_ok {device : PciDeviceObservation} :
    probe.readDevice node = .ok device ↔ probe.files.PublishesDevice node device := by
  unfold readDevice
  simp only [bind_eq_ok, pure_eq_ok, propertyString, okOr_eq_ok, readIommuGroup_eq_ok,
    propertyOptionalU32_eq_ok]
  constructor
  · rintro ⟨pciId, hpci, group, hgroup, vendorId, hvendor, deviceId, hdevice, rfl⟩
    exact ⟨rfl, hpci, hgroup, hvendor, hdevice⟩
  · obtain ⟨poolName, pciId, vendorId, deviceId, iommuGroup, members⟩ := device
    rintro ⟨rfl, hpci, hgroup, hvendor, hdevice⟩
    cases iommuGroup with
    | none =>
        obtain ⟨rfl, hlink⟩ := hgroup
        exact ⟨pciId, hpci, none, ⟨rfl, hlink⟩, vendorId, hvendor, deviceId, hdevice, rfl⟩
    | some id =>
        exact ⟨pciId, hpci, some (id, members), hgroup, vendorId, hvendor, deviceId, hdevice, rfl⟩

/-- The devices below the node for devices, if there is one. -/
def Files.PublishesDevices (files : Files) (resources : FdtNode)
    (devices : List PciDeviceObservation) : Prop :=
  (∀ node ∈ resources.children, node.name ≠ "devices") ∧ devices = [] ∨
    ∃ parent, FirstNamed resources.children "devices" parent ∧
      List.Forall₂ files.PublishesDevice parent.children devices

theorem readDevices_eq_ok {devices : List PciDeviceObservation} :
    probe.readDevices resources = .ok devices ↔ probe.files.PublishesDevices resources devices := by
  unfold readDevices Files.PublishesDevices
  simp only [← find?_name_eq_some]
  cases hparent : resources.children.find? fun node => node.name = "devices" with
  | none =>
      have hnone : ∀ node ∈ resources.children, node.name ≠ "devices" := by
        simpa using List.find?_eq_none.mp hparent
      rw [and_iff_right hnone]
      simp [eq_comm]
  | some parent =>
      have hsome : ¬ ∀ node ∈ resources.children, node.name ≠ "devices" := fun hnone =>
        hnone parent (List.mem_of_find?_eq_some hparent) (by simpa using List.find?_some hparent)
      simp [hsome, collectEach_eq_ok, readDevice_eq_ok]

/-! ### The pool -/

structure PublishesRegion (node : FdtNode) (region : MemoryRegionObservation) : Prop where
  reg : ∃ base bytes, node.value "reg" = some (base ++ bytes) ∧ wideBytes region.base base ∧
    wideBytes region.bytes bytes
  numaNode : node.value "numa-node-id" = some (cellBytes region.numaNode)

/-- The resources of the pool, memory regions in any order. -/
structure Files.PublishesResources (files : Files) (resources : FdtNode)
    (pool : ResourcePoolObservation) : Prop where
  cpus : PublishesIds resources "cpus" pool.cpuHardwareIds
  available : PublishesIds resources "cpus-available" pool.availableCpuHardwareIds
  ordered : pool.memoryRegions.Pairwise (·.base ≤ ·.base)
  regions : ∃ listed, pool.memoryRegions.Perm listed ∧ List.Forall₂ PublishesRegion
      (resources.children.filter fun node => "memory@".toList <+: node.name.toList) listed
  devices : files.PublishesDevices resources pool.devices

def Files.PublishesPool (files : Files) (pool : ResourcePoolObservation) : Prop :=
  ∃ bytes tree, files.readBytes "sys/fs/multikernel/device_tree" = .ok bytes ∧
    files.fdt bytes = .ok tree ∧ match tree.findNode "/resources" with
      | none => pool = ⟨[], [], [], []⟩
      | some resources => files.PublishesResources resources pool

/-- A 64-bit number is its two cells. -/
theorem wideBytes_iff {value : UInt64} {bytes : List UInt8} : wideBytes value bytes ↔
      ∃ high low, bytes = cellBytes high ++ cellBytes low ∧ joinCells high low = value := by
  constructor
  · intro ⟨hlength, hvalue⟩
    have hread : propertyU64 (some ⟨"", bytes⟩) "" = .ok value :=
      propertyU64_eq_ok.mpr ⟨hlength, hvalue⟩
    obtain ⟨cells, hcells, hread⟩ := bind_eq_ok.mp hread
    rw [propertyCells_eq_ok] at hcells
    match cells, hread with
    | [high, low], hread => exact ⟨high, low, by simpa using hcells, pure_eq_ok.mp hread⟩
  · rintro ⟨high, low, rfl, rfl⟩
    refine ⟨by simp [length_cellBytes], ?_⟩
    rw [fromBeBytes_append (length_cellBytes low), fromBeBytes_cellBytes, fromBeBytes_cellBytes,
      toNat_joinCells]

theorem propertyCells_value_eq_ok {cells : List UInt32} :
    propertyCells (node.property name) name = .ok cells ↔
      node.value name = some (cells.flatMap cellBytes) := by
  unfold FdtNode.value
  cases node.property name with
  | none => exact iff_of_false (by intro h; cases h) (by intro h; cases h)
  | some property => rw [propertyCells_eq_ok, Option.map_some, Option.some_inj]

theorem readMemoryRegion_eq_ok {region : MemoryRegionObservation} :
    readMemoryRegion node = .ok region ↔ PublishesRegion node region := by
  unfold readMemoryRegion
  rw [bind_eq_ok]
  constructor
  · rintro ⟨cells, hcells, h⟩
    rw [propertyCells_value_eq_ok] at hcells
    match cells, h with
    | [baseHigh, baseLow, bytesHigh, bytesLow], h =>
        obtain ⟨numaNode, hnuma, h⟩ := bind_eq_ok.mp h
        obtain rfl := pure_eq_ok.mp h
        refine ⟨⟨_, _, ?_, wideBytes_iff.mpr ⟨baseHigh, baseLow, rfl, rfl⟩,
          wideBytes_iff.mpr ⟨bytesHigh, bytesLow, rfl, rfl⟩⟩, propertyU32_value_eq_ok.mp hnuma⟩
        simpa using hcells
  · rintro ⟨⟨base, bytes, hreg, hbase, hbytes⟩, hnuma⟩
    obtain ⟨baseHigh, baseLow, rfl, hjoinBase⟩ := wideBytes_iff.mp hbase
    obtain ⟨bytesHigh, bytesLow, rfl, hjoinBytes⟩ := wideBytes_iff.mp hbytes
    refine ⟨[baseHigh, baseLow, bytesHigh, bytesLow], ?_, ?_⟩
    · rw [propertyCells_value_eq_ok, hreg]
      simp
    · refine bind_eq_ok.mpr ⟨region.numaNode, propertyU32_value_eq_ok.mpr hnuma, ?_⟩
      rw [hjoinBase, hjoinBytes]
      rfl

theorem hardwareIds_eq_ok {ids : List UInt32} :
    (∃ written, propertyHardwareIds (node.property name) name = .ok written ∧
      written.insertionSort (· ≤ ·) = ids) ↔ PublishesIds node name ids := by
  simp only [propertyHardwareIds_value_eq_ok, insertionSort_eq_iff, PublishesIds]
  constructor
  · rintro ⟨written, hvalue, hsorted, hperm⟩
    exact ⟨hsorted, written, hperm, hvalue⟩
  · rintro ⟨hsorted, written, hperm, hvalue⟩
    exact ⟨written, hvalue, hsorted, hperm⟩

theorem isMemory_eq : isMemory = fun node => decide ("memory@".toList <+: node.name.toList) := by
  funext node
  rw [Bool.eq_iff_iff, isMemory, isSome_stripPrefix, decide_eq_true_iff]

theorem isTransaction_eq : isTransaction = fun name => decide ("tx_".toList <+: name.toList) := by
  funext name
  rw [Bool.eq_iff_iff, isTransaction, isSome_stripPrefix, decide_eq_true_iff]

theorem readResourcePool_eq_ok {pool : ResourcePoolObservation}
    (hbases : (pool.memoryRegions.map (·.base)).Nodup) :
    probe.readResourcePool = .ok pool ↔ probe.files.PublishesPool pool := by
  unfold readResourcePool Files.PublishesPool read parseFdt
  simp only [bind_eq_ok, mapErr_eq_ok, isMemory_eq]
  refine ⟨?_, ?_⟩
  · rintro ⟨bytes, hbytes, tree, htree, h⟩
    refine ⟨bytes, tree, hbytes, htree, ?_⟩
    cases hnode : tree.findNode "/resources" with
    | none =>
        rw [hnode] at h
        exact (pure_eq_ok.mp h).symm
    | some resources =>
        simp only [hnode, bind_eq_ok, pure_eq_ok, collectEach_eq_ok, readMemoryRegion_eq_ok,
          readDevices_eq_ok] at h
        obtain ⟨cpus, hcpus, available, havailable, regions, hregions, devices, hdevices, rfl⟩ := h
        obtain ⟨hsorted, hlisted⟩ := (exists_insertionSort_iff hbases).mp ⟨regions, hregions, rfl⟩
        exact ⟨hardwareIds_eq_ok.mp ⟨cpus, hcpus, rfl⟩,
          hardwareIds_eq_ok.mp ⟨available, havailable, rfl⟩, hsorted, hlisted, hdevices⟩
  · rintro ⟨bytes, tree, hbytes, htree, h⟩
    refine ⟨bytes, hbytes, tree, htree, ?_⟩
    cases hnode : tree.findNode "/resources" with
    | none =>
        rw [hnode] at h
        obtain rfl := h
        rfl
    | some resources =>
        rw [hnode] at h
        obtain ⟨hcpus, havailable, hsorted, hlisted, hdevices⟩ := h
        obtain ⟨cpus, hcpus, hcpusSorted⟩ := hardwareIds_eq_ok.mpr hcpus
        obtain ⟨available, havailable, havailableSorted⟩ := hardwareIds_eq_ok.mpr havailable
        obtain ⟨regions, hregions, hregionsSorted⟩ :=
          (exists_insertionSort_iff hbases).mpr ⟨hsorted, hlisted⟩
        simp only [bind_eq_ok, pure_eq_ok, collectEach_eq_ok, readMemoryRegion_eq_ok,
          readDevices_eq_ok]
        refine ⟨cpus, hcpus, available, havailable, regions, hregions, pool.devices, hdevices, ?_⟩
        rw [hcpusSorted, havailableSorted, hregionsSorted]

/-! ### Instances and transactions -/

/-- A file with a text, which may have blanks around it. -/
def Files.HoldsText (files : Files) (relative text : String) : Prop :=
  ∃ bytes content, files.readBytes relative = .ok bytes ∧ ofUtf8 bytes = some content ∧
    trimText content = text

/-- A file with a number below a limit. -/
def Files.HoldsNumber (files : Files) (relative : String) (limit number : ℕ) : Prop :=
  ∃ text, files.HoldsText relative text ∧ parseUnsigned limit text = some number

/-- A file with a text, or no file. -/
def Files.MayHoldText (files : Files) (relative : String) : Option String → Prop
  | some text => files.HoldsText relative text
  | none => ∃ source, files.readBytes relative = .error source ∧ source.kind = .notFound

theorem readToString_eq_ok {content : String} : probe.readToString relative = .ok content ↔
      ∃ bytes, probe.readBytes relative = .ok bytes ∧ ofUtf8 bytes = some content := by
  simp only [readToString, bind_eq_ok, okOr_eq_ok]

theorem readTrimmed_eq_ok {text : String} :
    probe.readTrimmed relative = .ok text ↔ probe.files.HoldsText relative text := by
  simp only [readTrimmed, bind_eq_ok, mapErr_eq_ok, pure_eq_ok, readToString_eq_ok,
    Files.HoldsText, files_readBytes]
  constructor
  · rintro ⟨content, ⟨bytes, hbytes, hcontent⟩, htext⟩
    exact ⟨bytes, content, hbytes, hcontent, htext⟩
  · rintro ⟨bytes, content, hbytes, hcontent, htext⟩
    exact ⟨content, ⟨bytes, hbytes, hcontent⟩, htext⟩

theorem readNumber_eq_ok {limit number : ℕ} {what : String} :
    probe.readNumber limit base what = .ok number ↔
      probe.files.HoldsNumber (base ++ "/id") limit number := by
  simp only [readNumber, bind_eq_ok, okOr_eq_ok, readTrimmed_eq_ok, Files.HoldsNumber]

/-- Bytes that are no text fail in another way than a file that is not there. -/
theorem readToString_notFound :
    (∃ source, probe.readToString relative = .error source ∧ source.kind = .notFound) ↔
      ∃ source, probe.readBytes relative = .error source ∧ source.kind = .notFound := by
  unfold readToString
  cases probe.readBytes relative with
  | error source => simp [bind, Except.bind]
  | ok bytes =>
      show (∃ source, okOr (ofUtf8 bytes) (IoError.ofKind .other) = .error source ∧ _) ↔ _
      cases ofUtf8 bytes <;> simp [okOr, IoError.ofKind]

theorem readOptionalTrimmed_eq_ok {text : Option String} :
    probe.readOptionalTrimmed relative = .ok text ↔ probe.files.MayHoldText relative text := by
  unfold readOptionalTrimmed
  cases text with
  | none =>
      rw [Files.MayHoldText, files_readBytes, ← readToString_notFound]
      cases probe.readToString relative with
      | ok content => simp
      | error source => by_cases hkind : source.kind = .notFound <;> simp [hkind]
  | some text =>
      rw [Files.MayHoldText, ← readTrimmed_eq_ok, readTrimmed]
      cases probe.readToString relative with
      | ok content => simp [mapErr, bind, Except.bind, pure, Except.pure]
      | error source =>
          by_cases hkind : source.kind = .notFound <;>
            simp [hkind, mapErr, bind, Except.bind]

end MultikernelProbe

/-- The word for a state. -/
def InstanceLifecycleState.word : InstanceLifecycleState → String
  | .ready => "ready"
  | .loaded => "loaded"
  | .active => "active"

/-- The words for a status. -/
def TransactionStatus.words : TransactionStatus → List String
  | .pending => ["pending"]
  | .applied => ["applied"]
  | .rolledBack => ["rolled_back", "rolled-back"]
  | .failed => ["failed"]

theorem InstanceLifecycleState.parse_eq_ok {quote : String → String} {value : String}
    {state : InstanceLifecycleState} :
    InstanceLifecycleState.parse quote value = .ok state ↔ value = state.word := by
  unfold InstanceLifecycleState.parse
  constructor
  · intro h
    repeat' split at h
    all_goals first
      | cases h; assumption
      | cases h
  · rintro rfl
    cases state <;> rfl

theorem TransactionStatus.parse_eq_ok {quote : String → String} {value : String}
    {status : TransactionStatus} :
    parse quote value = .ok status ↔ value ∈ status.words := by
  unfold parse
  constructor
  · intro h
    repeat' split at h
    all_goals first
      | cases h; simpa [words]
      | cases h
  · intro h
    cases status with
    | rolledBack =>
        simp only [words, List.mem_cons, List.not_mem_nil, or_false] at h
        rcases h with rfl | rfl <;> rfl
    | pending | applied | failed =>
        obtain rfl := List.mem_singleton.mp h
        rfl

namespace MultikernelProbe

variable {probe : MultikernelProbe}

/-- The node under the name of an instance, or else the first one for resources. -/
def ResourcesOf (tree : Fdt) (directory : String) (resources : FdtNode) : Prop :=
  tree.findNode ("/" ++ directory ++ "/resources") = some resources ∨
    tree.findNode ("/" ++ directory ++ "/resources") = none ∧
      FirstNamed tree.allNodes "resources" resources

/-- The resources in the tree of an instance. -/
structure Files.PublishesAssigned (files : Files) (resources : FdtNode)
    (assigned : InstanceResourceObservation) : Prop where
  cpus : PublishesIds resources "cpus" assigned.cpuHardwareIds
  memoryBase : ∃ bytes, resources.value "memory-base" = some bytes ∧
    wideBytes assigned.memoryBase bytes
  memoryBytes : ∃ bytes, resources.value "memory-bytes" = some bytes ∧
    wideBytes assigned.memoryBytes bytes
  devices : files.PublishesDevices resources assigned.devices

/-- The directory of an instance. -/
structure Files.PublishesInstance (files : Files) (base directory : String)
    (inst : InstanceObservation) : Prop where
  id : files.HoldsNumber (base ++ "/id") (2 ^ 32) inst.id.toNat
  name : inst.name = directory
  state : files.HoldsText (base ++ "/status") inst.state.word
  tree : ∃ bytes tree resources, files.readBytes (base ++ "/device_tree") = .ok bytes ∧
    files.fdt bytes = .ok tree ∧ ResourcesOf tree directory resources ∧
    files.PublishesAssigned resources inst.resources
  image : inst.image.present = true ↔ inst.state = .loaded ∨ inst.state = .active

/-- The directory of a transaction. -/
structure Files.PublishesTransaction (files : Files) (base _directory : String)
    (transaction : TransactionObservation) : Prop where
  id : files.HoldsNumber (base ++ "/id") (2 ^ 64) transaction.id.toNat
  status : ∃ word ∈ transaction.status.words, files.HoldsText (base ++ "/status") word
  instancePath : files.MayHoldText (base ++ "/instance") transaction.instancePath
  resources : ∃ text, files.MayHoldText (base ++ "/resources") text ∧
    transaction.resourceSummary = text.filter (· ≠ "unknown")

theorem instanceResources_eq_some {tree : Fdt} :
    instanceResources tree directory = some resources ↔ ResourcesOf tree directory resources := by
  rw [instanceResources, ResourcesOf, Option.or_eq_some_iff, find?_name_eq_some]

theorem hasImage_eq_true {state : InstanceLifecycleState} :
    state.hasImage = true ↔ state = .loaded ∨ state = .active := by
  cases state <;> simp [InstanceLifecycleState.hasImage]

theorem readInstance_eq_ok {inst : InstanceObservation} :
    probe.readInstance base name = .ok inst ↔ probe.files.PublishesInstance base name inst := by
  unfold readInstance read parseFdt
  simp only [bind_eq_ok, pure_eq_ok, mapErr_eq_ok, okOr_eq_ok, readNumber_eq_ok, readTrimmed_eq_ok,
    InstanceLifecycleState.parse_eq_ok, propertyU64_value_eq_ok, readDevices_eq_ok,
    instanceResources_eq_some]
  constructor
  · rintro ⟨id, hid, status, hstatus, state, rfl, bytes, hbytes, tree, htree, resources, hresources,
      cpus, hcpus, memoryBase, hbase, memoryBytes, hmemory, devices, hdevices, rfl⟩
    have hsmall : (UInt32.ofNat id).toNat = id := by
      obtain ⟨text, -, htext⟩ := hid
      rw [UInt32.toNat_ofNat', Nat.mod_eq_of_lt (parseUnsigned_lt htext)]
    exact ⟨hsmall.symm ▸ hid, rfl, hstatus, ⟨bytes, tree, resources, hbytes, htree, hresources,
      hardwareIds_eq_ok.mp ⟨cpus, hcpus, rfl⟩, hbase, hmemory, hdevices⟩, hasImage_eq_true⟩
  · rintro ⟨hid, rfl, hstatus, ⟨bytes, tree, resources, hbytes, htree, hresources, hassigned⟩,
      himage⟩
    obtain ⟨cpus, hcpus, hsorted⟩ := hardwareIds_eq_ok.mpr hassigned.cpus
    refine ⟨inst.id.toNat, hid, _, hstatus, inst.state, rfl, bytes, hbytes, tree, htree, resources,
      hresources, cpus, hcpus, _, hassigned.memoryBase, _, hassigned.memoryBytes, _,
      hassigned.devices, ?_⟩
    rw [hsorted, Bool.eq_iff_iff.mpr (hasImage_eq_true.trans himage.symm), UInt32.ofNat_toNat]

theorem readTransaction_eq_ok {transaction : TransactionObservation} :
    probe.readTransaction base name = .ok transaction ↔
      probe.files.PublishesTransaction base name transaction := by
  unfold readTransaction
  simp only [bind_eq_ok, pure_eq_ok, readNumber_eq_ok, readTrimmed_eq_ok,
    parse_eq_ok, readOptionalTrimmed_eq_ok]
  constructor
  · rintro ⟨id, hid, word, hword, status, hstatus, path, hpath, resources, hresources, rfl⟩
    have hsmall : (UInt64.ofNat id).toNat = id := by
      obtain ⟨text, -, htext⟩ := hid
      rw [UInt64.toNat_ofNat', Nat.mod_eq_of_lt (parseUnsigned_lt htext)]
    exact ⟨hsmall.symm ▸ hid, ⟨word, hstatus, hword⟩, hpath, resources, hresources, rfl⟩
  · rintro ⟨hid, ⟨word, hstatus, hword⟩, hpath, resources, hresources, hsummary⟩
    refine ⟨transaction.id.toNat, hid, word, hword, transaction.status, hstatus, _, hpath,
      resources, hresources, ?_⟩
    rw [← hsummary, UInt64.ofNat_toNat]

/-! ### Directories of directories -/

/-- The entry is a directory that is to be read. -/
def chosen (wanted : String → Bool) (entry : DirEntry) : Bool :=
  entry.isDir.toOption = some true ∧ wanted entry.fileName.toStringLossy = true

/-- All entries can be looked at, and the wanted directories among them publish these values. -/
def HoldValues {α : Type} (relative : String) (wanted : String → Bool)
    (publishes : String → String → α → Prop) (entries : List DirEntry) (values : List α) : Prop :=
  (∀ entry ∈ entries, ∃ isDir, entry.isDir = .ok isDir) ∧
    List.Forall₂ (fun directory value => publishes (relative ++ "/" ++ directory) directory value)
      ((entries.filter (chosen wanted)).map (·.fileName.toStringLossy)) values

/-- A directory in which the wanted directories publish these values, in any order. -/
def Files.PublishesEach {α : Type} (files : Files) (relative : String)
    (wanted : String → Bool) (publishes : String → String → α → Prop) (values : List α) : Prop :=
  ∃ entries listed, files.holds relative entries ∧ values.Perm listed ∧
    HoldValues relative wanted publishes entries listed

section Each

variable {α : Type} {wanted : String → Bool} {visit : String → String → Except InventoryError α}

theorem visitEntry_eq_ok {entry : Except IoError DirEntry} {found : Option α} :
    probe.visitEntry relative wanted visit entry = .ok found ↔
      ∃ listed isDir, entry = .ok listed ∧ listed.isDir = .ok isDir ∧
        if chosen wanted listed = true then ∃ value, found = some value ∧
          visit (relative ++ "/" ++ listed.fileName.toStringLossy)
            listed.fileName.toStringLossy = .ok value
        else found = none := by
  simp only [visitEntry, bind_eq_ok, mapErr_eq_ok, ← exists_and_left]
  refine exists_congr fun listed => exists_congr fun isDir => and_congr_right fun _ =>
    and_congr_right fun hisDir => ?_
  by_cases hwanted : isDir = true ∧ wanted listed.fileName.toStringLossy = true
  · rw [if_pos hwanted, if_pos (by simpa [chosen, hisDir, Except.toOption] using hwanted)]
    simp only [bind_eq_ok, pure_eq_ok, and_comm, @eq_comm _ found]
  · rw [if_neg hwanted, if_neg (by simpa [chosen, hisDir, Except.toOption] using hwanted)]
    rw [pure_eq_ok, eq_comm]

/-- All entries are read, and the values of the chosen ones are kept. -/
theorem visitEntries_iff {listing : List (Except IoError DirEntry)} {values : List α} :
    (∃ found, List.Forall₂ (fun entry value =>
        probe.visitEntry relative wanted visit entry = .ok value) listing found ∧
      found.reduceOption = values) ↔
    ∃ entries : List DirEntry, listing = entries.map .ok ∧
      HoldValues relative wanted (fun base directory value => visit base directory = .ok value)
        entries values := by
  induction listing generalizing values with
  | nil => simp [HoldValues, eq_comm, List.reduceOption]
  | cons entry listing ih =>
      constructor
      · rintro ⟨found, hfound, rfl⟩
        obtain ⟨first, others, hfirst, hothers, rfl⟩ := List.forall₂_cons_left_iff.mp hfound
        obtain ⟨entries, rfl, hdirs, hvalues⟩ := ih.mp ⟨others, hothers, rfl⟩
        obtain ⟨listed, isDir, rfl, hisDir, hcase⟩ := visitEntry_eq_ok.mp hfirst
        refine ⟨listed :: entries, rfl, List.forall_mem_cons.mpr ⟨⟨isDir, hisDir⟩, hdirs⟩, ?_⟩
        by_cases hchosen : chosen wanted listed = true
        · rw [if_pos hchosen] at hcase
          obtain ⟨value, rfl, hvalue⟩ := hcase
          rw [List.filter_cons_of_pos hchosen, List.map_cons, List.reduceOption_cons_of_some]
          exact .cons hvalue hvalues
        · rw [if_neg hchosen] at hcase
          subst hcase
          rw [List.filter_cons_of_neg hchosen, List.reduceOption_cons_of_none]
          exact hvalues
      · rintro ⟨entries, hentries, hdirs, hvalues⟩
        obtain ⟨listed, entries, rfl, rfl, rfl⟩ := List.map_eq_cons_iff.mp hentries.symm
        obtain ⟨⟨isDir, hisDir⟩, hdirs⟩ := List.forall_mem_cons.mp hdirs
        by_cases hchosen : chosen wanted listed = true
        · rw [List.filter_cons_of_pos hchosen, List.map_cons] at hvalues
          obtain ⟨value, others, hvalue, hothers, rfl⟩ := List.forall₂_cons_left_iff.mp hvalues
          obtain ⟨found, hfound, rfl⟩ := ih.mpr ⟨entries, rfl, hdirs, hothers⟩
          refine ⟨some value :: found, .cons ?_ hfound, List.reduceOption_cons_of_some _ _⟩
          exact visitEntry_eq_ok.mpr ⟨listed, isDir, rfl, hisDir, by
            rw [if_pos hchosen]; exact ⟨value, rfl, hvalue⟩⟩
        · rw [List.filter_cons_of_neg hchosen] at hvalues
          obtain ⟨found, hfound, rfl⟩ := ih.mpr ⟨entries, rfl, hdirs, hvalues⟩
          refine ⟨none :: found, .cons ?_ hfound, List.reduceOption_cons_of_none _⟩
          exact visitEntry_eq_ok.mpr ⟨listed, isDir, rfl, hisDir, by rw [if_neg hchosen]⟩

theorem readEach_eq_ok {values : List α} : probe.readEach relative wanted visit = .ok values ↔
      ∃ entries : List DirEntry, probe.readDir relative = .ok (entries.map .ok) ∧
        HoldValues relative wanted (fun base directory value => visit base directory = .ok value)
          entries values := by
  simp only [readEach, bind_eq_ok, pure_eq_ok, mapErr_eq_ok, collectEach_eq_ok, visitEntries_iff]
  constructor
  · rintro ⟨listing, hlisting, entries, rfl, hvalues⟩
    exact ⟨entries, hlisting, hvalues⟩
  · rintro ⟨entries, hlisting, hvalues⟩
    exact ⟨_, hlisting, entries, rfl, hvalues⟩

/-- However a directory is listed, the same values are read. -/
theorem publishesEach_iff {values : List α} : probe.files.PublishesEach relative wanted
        (fun base directory value => visit base directory = .ok value) values ↔
      ∃ listed, values.Perm listed ∧ probe.readEach relative wanted visit = .ok listed := by
  constructor
  · rintro ⟨entries, listed, hholds, hvalues, hdirs, hlisted⟩
    obtain ⟨relisted, hrelisted, hperm⟩ := holds_iff.mp hholds
    obtain ⟨found, hfound, hsame⟩ :=
      List.perm_comp_forall₂ ((hperm.symm.filter (chosen wanted)).map _) hlisted
    exact ⟨found, hvalues.trans hsame.symm, readEach_eq_ok.mpr ⟨relisted, hrelisted,
      fun entry hentry => hdirs entry (hperm.mem_iff.mpr hentry), hfound⟩⟩
  · rintro ⟨listed, hvalues, hread⟩
    obtain ⟨entries, hentries, hlisted⟩ := readEach_eq_ok.mp hread
    exact ⟨entries, listed, holds_iff.mpr ⟨entries, hentries, .refl _⟩, hvalues, hlisted⟩

end Each

/-! ### Everything -/

/-- The filesystem shows this state. Directories may be listed in any order. -/
structure Files.Publishes (files : Files) (state : MultikernelObservation) : Prop where
  pool : files.PublishesPool state.pool
  instancesOrdered : state.instances.Pairwise (·.id ≤ ·.id)
  instances : files.PublishesEach "sys/fs/multikernel/instances" (fun _ => true)
    files.PublishesInstance state.instances
  transactionsOrdered : state.transactions.Pairwise (·.id ≤ ·.id)
  transactions : files.PublishesEach "sys/fs/multikernel/overlays"
    (fun name => "tx_".toList <+: name.toList) files.PublishesTransaction state.transactions

end MultikernelProbe

/-- Regions, instances and transactions are told apart by what they are sorted by. -/
structure MultikernelObservation.Distinct (state : MultikernelObservation) : Prop where
  regions : (state.pool.memoryRegions.map (·.base)).Nodup
  instances : (state.instances.map (·.id)).Nodup
  transactions : (state.transactions.map (·.id)).Nodup

namespace MultikernelProbe

variable {probe : MultikernelProbe} {state : MultikernelObservation}

/-- What is read from directories and then sorted by its keys. -/
theorem readSorted_eq_ok {α κ : Type} [LE κ] [DecidableLE κ] [IsTrans κ (· ≤ ·)]
    [Std.Total (α := κ) (· ≤ ·)] [Std.Antisymm (α := κ) (· ≤ ·)] {key : α → κ}
    {wanted : String → Bool} {visit : String → String → Except InventoryError α} {values : List α}
    (hkeys : (values.map key).Nodup) :
    (do
      let listed ← probe.readEach relative wanted visit
      return listed.insertionSort fun left right => key left ≤ key right) = Except.ok values ↔
    values.Pairwise (fun left right => key left ≤ key right) ∧
      probe.files.PublishesEach relative wanted
        (fun base directory value => visit base directory = .ok value) values := by
  simp only [bind_eq_ok, pure_eq_ok, publishesEach_iff]
  exact exists_insertionSort_iff hkeys

theorem observe_eq_ok : probe.observe = .ok state ↔ probe.readResourcePool = .ok state.pool ∧
      probe.readInstances = .ok state.instances ∧
      probe.readTransactions = .ok state.transactions := by
  simp only [observe, bind_eq_ok, pure_eq_ok]
  constructor
  · rintro ⟨pool, hpool, instances, hinstances, transactions, htransactions, rfl⟩
    exact ⟨hpool, hinstances, htransactions⟩
  · rintro ⟨hpool, hinstances, htransactions⟩
    exact ⟨_, hpool, _, hinstances, _, htransactions, rfl⟩

/-- **The probe succeeds on the filesystems that show a state, and reports that state.** -/
theorem observe_eq_ok_iff (hdistinct : state.Distinct) :
    probe.observe = .ok state ↔ probe.files.Publishes state := by
  have hinstances : probe.readInstances = .ok state.instances ↔ _ :=
    readSorted_eq_ok hdistinct.instances
  have htransactions : probe.readTransactions = .ok state.transactions ↔ _ :=
    readSorted_eq_ok hdistinct.transactions
  rw [observe_eq_ok, readResourcePool_eq_ok hdistinct.regions, hinstances, htransactions]
  simp only [readInstance_eq_ok, readTransaction_eq_ok, isTransaction_eq]
  constructor
  · rintro ⟨hpool, ⟨hiSorted, hi⟩, htSorted, ht⟩
    exact ⟨hpool, hiSorted, hi, htSorted, ht⟩
  · rintro ⟨hpool, hiSorted, hi, htSorted, ht⟩
    exact ⟨hpool, ⟨hiSorted, hi⟩, htSorted, ht⟩

/-! ### Other listings of the same directories -/

/-- The same files, with directories listed in another order. -/
structure Relisted (probe other : MultikernelProbe) : Prop where
  readBytes : other.readBytes = probe.readBytes
  readLink : other.readLink = probe.readLink
  fdt : other.fdt = probe.fdt
  asStr : other.asStr = probe.asStr
  readDir : ∀ relative, Relists (probe.readDir relative) (other.readDir relative)

theorem Relisted.files {other : MultikernelProbe} (h : Relisted probe other) :
    other.files = probe.files := by
  have hholds : other.Holds = probe.Holds := by
    funext relative entries
    exact (h.readDir relative).same fun _ _ hperm =>
      propext ⟨(·.trans hperm.symm), (·.trans hperm)⟩
  rw [MultikernelProbe.files, MultikernelProbe.files, h.readBytes, h.readLink, h.fdt, h.asStr,
    hholds]

/-- **The probe is exact.** It reports a state if and only if the filesystem shows that state, and
it reports the same state however the directories are listed. -/
theorem observe_exact (hdistinct : state.Distinct) :
    (probe.observe = .ok state ↔ probe.files.Publishes state) ∧
      ∀ other, Relisted probe other → probe.observe = .ok state → other.observe = .ok state :=
  ⟨observe_eq_ok_iff hdistinct, fun _ hother hobserve => (observe_eq_ok_iff hdistinct).mpr
    (hother.files ▸ (observe_eq_ok_iff hdistinct).mp hobserve)⟩

/-- A device of the tree. -/
def deviceNode (name pciId : String) : FdtNode :=
  .mk name [⟨"pci-id", utf8Bytes pciId ++ [0]⟩, ⟨"vendor-id", cellBytes 0x1af4⟩] []

/-- A pool of three processors, one device and one region of memory. -/
def poolResources : FdtNode :=
  .mk "resources" [⟨"cpus", idBytes [5, 4, 6]⟩, ⟨"cpus-available", idBytes [6]⟩]
    [.mk "devices" [] [deviceNode "pci_0000_05_00_0" "0000:05:00.0"],
      .mk "memory@400000000" [⟨"reg", [4, 0, 0, 0x80000000].flatMap cellBytes⟩,
        ⟨"numa-node-id", cellBytes 0⟩] []]

/-- An instance with two of the processors. -/
def labResources : FdtNode :=
  .mk "resources" [⟨"memory-base", [4, 0xa000].flatMap cellBytes⟩,
    ⟨"memory-bytes", [0, 0x40000000].flatMap cellBytes⟩, ⟨"cpus", idBytes [5, 4]⟩] []

/-- A filesystem with one instance and one transaction. -/
def lab : MultikernelProbe where
  root := "/"
  readBytes path :=
    if path = "sys/fs/multikernel/device_tree" then .ok [0]
    else if path = "sys/fs/multikernel/instances/lab/id" then .ok (utf8Bytes "1\n")
    else if path = "sys/fs/multikernel/instances/lab/status" then .ok (utf8Bytes "loaded\n")
    else if path = "sys/fs/multikernel/instances/lab/device_tree" then .ok [1]
    else if path = "sys/fs/multikernel/overlays/tx_101/id" then .ok (utf8Bytes "101\n")
    else if path = "sys/fs/multikernel/overlays/tx_101/status" then .ok (utf8Bytes "applied\n")
    else .error (.ofKind .notFound)
  readDir path :=
    if path = "sys/fs/multikernel/instances" then .ok [.ok ⟨.ofString "lab", .ok true⟩]
    else if path = "sys/fs/multikernel/overlays" then
      .ok [.ok ⟨.ofString "new", .ok false⟩, .ok ⟨.ofString "tx_101", .ok true⟩]
    else if path = groupDirectory 13 then
      .ok [.ok ⟨.ofString "0000:05:00.1", .ok true⟩, .ok ⟨.ofString "0000:05:00.0", .ok true⟩]
    else .error (.ofKind .notFound)
  readLink path :=
    if path = groupLink "0000:05:00.0" then
      .ok (.ofString "../../../../kernel/iommu_groups/13")
    else .error (.ofKind .notFound)
  fdt bytes :=
    if bytes = [0] then
      .ok ⟨fun path => if path = "/resources" then some poolResources else none, [poolResources]⟩
    else
      .ok ⟨fun path => if path = "/lab/resources" then some labResources else none, [labResources]⟩
  asStr property := ofUtf8 (property.value.takeWhile (· ≠ 0))
  describe _ := ""
  quote text := text

def labState : MultikernelObservation where
  pool := {
    cpuHardwareIds := [4, 5, 6]
    availableCpuHardwareIds := [6]
    memoryRegions := [⟨0x400000000, 0x80000000, 0⟩]
    devices := [⟨"pci_0000_05_00_0", "0000:05:00.0", some 0x1af4, none, some 13,
      ["0000:05:00.0", "0000:05:00.1"]⟩] }
  instances := [⟨1, "lab", .loaded, ⟨[4, 5], 0x40000a000, 0x40000000, []⟩, ⟨true⟩⟩]
  transactions := [⟨101, .applied, none, none⟩]

theorem distinct_labState : labState.Distinct := ⟨by decide, by decide, by decide⟩

theorem observe_exact_lab : lab.observe = .ok labState ∧ lab.files.Publishes labState := by
  have hobserve : lab.observe = .ok labState := by decide +kernel
  exact ⟨hobserve, (observe_exact distinct_labState).1.mp hobserve⟩

end MultikernelProbe

end Kernmux.Core
