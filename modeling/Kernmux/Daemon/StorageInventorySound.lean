import Kernmux.Daemon.StorageInventory
import Mathlib.Data.List.ReduceOption

/-!
# Kernmux.Daemon.StorageInventorySound

**What a block device is rejected for.** A device is judged by its own path and
by the entries at and below that path. Since every device is judged by the same
entries, use of a partition disqualifies each disk above it
(`UseInherited`).

The way to a device may lead through several PCI functions, of which the
inventory looks at the first one only. A device behind a function of a peer is
rejected exactly when the first function on its way is a peer's as well, so
that a peer's disk below a root port is offered (`BehindPeer`).
-/

namespace Kernmux.Daemon.LinuxStorageInventory

open Api.V1 Library OsString

variable {name : String} {device part : StorageDevice} {child target above below : PathBuf}
  {entry : Except IoError OsString} {ids paths : List String} {held : Bool}
  {inventory : LinuxStorageInventory} {files : HostFiles} {use : UseTables}

/-! ### Devices -/

theorem mem_collectReasons {reasons : List (Bool × StorageRejectionReason)}
    {reason : StorageRejectionReason} :
    reason ∈ collectReasons reasons ↔ (true, reason) ∈ reasons := by
  simp [collectReasons]

/-- What the files of a block device say. -/
structure DeviceFiles (inventory : LinuxStorageInventory) (files : HostFiles) (name : String)
    (target : PathBuf) (id : String) (sectors ro : ℕ) : Prop where
  named : name ≠ "" ∧ '/' ∉ name.toList
  canonical : files.canonicalize (inventory.path ("sys/class/block/" ++ name)) = .ok target
  identity : readTrimmed files
    ((inventory.path ("sys/class/block/" ++ name)).join (.ofString "dev")) = .ok id
  valid : validMajorMinor id = .ok ()
  size : ∃ text, readTrimmed files
    ((inventory.path ("sys/class/block/" ++ name)).join (.ofString "size")) = .ok text ∧
      parseUnsigned (2 ^ 64) text = some sectors
  fits : sectors * 512 < 2 ^ 64
  readOnly : ∃ text, readTrimmed files
    ((inventory.path ("sys/class/block/" ++ name)).join (.ofString "ro")) = .ok text ∧
      parseUnsigned (2 ^ 8) text = some ro
  optional : ∀ relative ∈ ["device/serial", "wwid", "device/wwid", "device/transport"],
    ∃ value, optionalTrimmed files
      ((inventory.path ("sys/class/block/" ++ name)).join (.ofString relative)) = .ok value

/-- What a device was judged by, and the verdict. -/
structure Judgement (inventory : LinuxStorageInventory) (files : HostFiles) (use : UseTables)
    (device : StorageDevice) (target : PathBuf) (ids paths : List String) (held : Bool) :
    Prop where
  canonical : files.canonicalize (inventory.path ("sys/class/block/" ++ device.name)) = .ok target
  descendants : inventory.descendants files target = .ok (ids, paths)
  holders : inventory.descendantHasHolders files target = .ok held
  devicePath : device.devicePath = "/dev/" ++ device.name
  mounted : .mounted ∈ device.rejectionReasons ↔ ∃ id ∈ ids, id ∈ use.mounted
  hostRoot : .hostRoot ∈ device.rejectionReasons ↔ ∃ id ∈ ids, id ∈ use.roots
  swap : .swap ∈ device.rejectionReasons ↔
    "/dev/" ++ device.name ∈ use.swaps ∨ ∃ path ∈ paths, path ∈ use.swaps
  hasHolders : .hasHolders ∈ device.rejectionReasons ↔ held = true
  peerAssigned : .peerAssigned ∈ device.rejectionReasons ↔
    ∃ first, (pciIds target).head? = some first ∧ first ∈ use.peers
  eligible : device.eligible = true ↔ device.rejectionReasons = []
  /-- The reasons that come from the files of the device itself. -/
  own : ∃ id sectors ro, DeviceFiles inventory files device.name target id sectors ro ∧
    (.notWholeDevice ∈ device.rejectionReasons ↔
      files.present ((inventory.path ("sys/class/block/" ++ device.name)).join
        (.ofString "partition")) = true) ∧
    (.virtualDevice ∈ device.rejectionReasons ↔ isVirtual target = true) ∧
    (.readOnly ∈ device.rejectionReasons ↔ ro ≠ 0) ∧
    (.zeroSized ∈ device.rejectionReasons ↔ sectors = 0) ∧
    .incompleteIdentity ∉ device.rejectionReasons ∧ .unknown ∉ device.rejectionReasons

theorem ne_empty_of_validMajorMinor {id : String} (h : validMajorMinor id = .ok ()) : id ≠ "" := by
  rintro rfl
  exact absurd h (by decide)

theorem five_lt_length_devicePath (h : name ≠ "") : 5 < (utf8Bytes ("/dev/" ++ name)).length := by
  have hname : utf8Bytes name ≠ [] := fun hnil => h (utf8Bytes_injective hnil)
  have hlength := List.length_pos_iff.mpr hname
  rw [utf8Bytes_append, List.length_append]
  exact Nat.lt_add_of_pos_right hlength

theorem of_device_eq_ok (h : inventory.device files use name = .ok device) : device.name = name ∧
      ∃ target ids paths held, Judgement inventory files use device target ids paths held := by
  simp only [LinuxStorageInventory.device, bind_eq_ok, pure_eq_ok, mapErr_eq_ok, okOr_eq_ok] at h
  obtain ⟨_, hname, target, htarget, majorMinor, hid, _, hvalid, size, hsize, sectors, hsectors, _,
    hfits, text, htext, ro, hro, ⟨ids, paths⟩, hdescendants, held, hheld, serial, hserial, wwid,
    hwwid, deviceWwid, hdeviceWwid, transport, htransport, rfl⟩ := h
  have hname := not_or.mp (rejectIf_eq_ok.mp hname)
  have hfits := Nat.not_le.mp (rejectIf_eq_ok.mp hfits)
  have hzero : UInt64.ofNat (sectors * 512) = 0 ↔ sectors = 0 := by
    rw [← UInt64.toNat_inj, UInt64.toNat_ofNat_of_lt' hfits]
    simp
  generalize UInt64.ofNat (sectors * 512) = sizeBytes at hzero ⊢
  have hidentity := ne_empty_of_validMajorMinor hvalid
  have hpath := Nat.not_le.mpr (five_lt_length_devicePath hname.1)
  refine ⟨rfl, target, ids, paths, held, htarget, hdescendants, hheld, rfl, ?_, ?_, ?_, ?_,
    ?_, List.isEmpty_iff, majorMinor, sectors, ro, ⟨hname, htarget, hid, hvalid,
      ⟨size, hsize, hsectors⟩, hfits, ⟨text, htext, hro⟩,
      by simp [hserial, hwwid, hdeviceWwid, htransport]⟩, ?_, ?_, ?_, ?_, ?_, ?_⟩
  all_goals simp [mem_collectReasons, Option.any_eq_true, hzero, hidentity, hpath]

/-! ### Entries at and below a path -/

theorem atOrBelow_iff : atOrBelow child target = true ↔ components target <+: components child := by
  simp only [atOrBelow, startsWith, Bool.or_eq_true, decide_eq_true_eq, List.isPrefixOf_iff_prefix]
  constructor
  · intro h
    rcases h with heq | hstarts
    · exact heq ▸ List.prefix_refl _
    · exact hstarts
  · exact .inr

/-- The block device `name` leads to `child`, which is the target or lies below it. -/
structure DeviceBelow (inventory : LinuxStorageInventory) (files : HostFiles) (target : PathBuf)
    (name : OsString) (child : PathBuf) : Prop where
  listed : ∃ entries, inventory.blockEntries files = .ok entries ∧ .ok name ∈ entries
  canonical : files.canonicalize (inventory.blockClass.join name) = .ok child
  below : components target <+: components child

/-- The identity and the device path by which a block device is known. -/
structure KnownAs (inventory : LinuxStorageInventory) (files : HostFiles) (name : OsString)
    (known : String × String) : Prop where
  identity : readTrimmed files ((inventory.blockClass.join name).join (.ofString "dev")) =
    .ok known.1
  path : ∃ text, name.toStr = some text ∧ known.2 = "/dev/" ++ text

theorem DeviceBelow.mono {name : OsString} (h : DeviceBelow inventory files target name child)
    (habove : components above <+: components target) :
    DeviceBelow inventory files above name child :=
  ⟨h.listed, h.canonical, habove.trans h.below⟩

theorem KnownAs.unique {name : OsString} {known other : String × String}
    (h : KnownAs inventory files name known) (h' : KnownAs inventory files name other) :
    known = other := by
  obtain ⟨text, htext, hpath⟩ := h.path
  obtain ⟨text', htext', hpath'⟩ := h'.path
  obtain rfl := Option.some.inj (htext.symm.trans htext')
  exact Prod.ext (Except.ok.inj (h.identity.symm.trans h'.identity)) (hpath.trans hpath'.symm)

theorem of_blockEntry_eq_ok {found : BlockEntry}
    (h : inventory.blockEntry files entry = .ok found) :
    entry = .ok found.name ∧ found.path = inventory.blockClass.join found.name ∧
      files.canonicalize (inventory.blockClass.join found.name) = .ok found.child := by
  simp only [blockEntry, bind_eq_ok, mapErr_eq_ok, pure_eq_ok] at h
  obtain ⟨name, rfl, child, hchild, rfl⟩ := h
  exact ⟨rfl, rfl, hchild⟩

theorem of_descendant_eq_ok {found : Option (String × String)}
    (h : inventory.descendant files target entry = .ok found) :
    ∃ name child, entry = .ok name ∧
      files.canonicalize (inventory.blockClass.join name) = .ok child ∧
      (components target <+: components child → ∃ known, found = some known ∧
        KnownAs inventory files name known) ∧
      (found.isSome → components target <+: components child) := by
  simp only [descendant, bind_eq_ok] at h
  obtain ⟨block, hblock, h⟩ := h
  obtain ⟨hentry, hpath, hchild⟩ := of_blockEntry_eq_ok hblock
  refine ⟨block.name, block.child, hentry, hchild, ?_⟩
  by_cases hbelow : atOrBelow block.child target = true
  · simp only [if_pos hbelow, bind_eq_ok, okOr_eq_ok, pure_eq_ok] at h
    obtain ⟨id, hid, text, htext, rfl⟩ := h
    rw [hpath] at hid
    exact ⟨fun _ => ⟨_, rfl, hid, text, htext, rfl⟩, fun _ => atOrBelow_iff.mp hbelow⟩
  · simp only [if_neg hbelow, pure_eq_ok] at h
    subst h
    exact ⟨fun hle => absurd (atOrBelow_iff.mpr hle) hbelow, Bool.noConfusion⟩

/-- The first scan knows exactly the devices at and below the target. -/
theorem of_descendants_eq_ok (h : inventory.descendants files target = .ok (ids, paths)) :
    ∃ found : List (String × String), ids = found.map Prod.fst ∧ paths = found.map Prod.snd ∧
      (∀ known ∈ found, ∃ name child, DeviceBelow inventory files target name child ∧
        KnownAs inventory files name known) ∧
      ∀ name child, DeviceBelow inventory files target name child →
        ∃ known ∈ found, KnownAs inventory files name known := by
  simp only [descendants, bind_eq_ok, pure_eq_ok, Prod.mk.injEq] at h
  obtain ⟨entries, hentries, found, hfound, rfl, rfl⟩ := h
  refine ⟨found.reduceOption, rfl, rfl, fun known hknown => ?_, fun name child hbelow => ?_⟩
  · obtain ⟨entry, hentry, hvisit⟩ :=
      exists_of_mem_collectEach hfound (List.reduceOption_mem_iff.mp hknown)
    obtain ⟨name, child, rfl, hchild, hevidence, hsome⟩ := of_descendant_eq_ok hvisit
    obtain ⟨other, hother, hevidence⟩ := hevidence (hsome rfl)
    cases hother
    exact ⟨name, child, ⟨⟨entries, hentries, hentry⟩, hchild, hsome rfl⟩, hevidence⟩
  · obtain ⟨listed, hlisted, hentry⟩ := hbelow.listed
    obtain rfl := Except.ok.inj (hentries.symm.trans hlisted)
    obtain ⟨value, hvalue, hvisit⟩ := mem_collectEach_of_mem hfound hentry
    obtain ⟨name', child', hname, hchild, hevidence, -⟩ := of_descendant_eq_ok hvisit
    cases hname
    obtain rfl := Except.ok.inj (hbelow.canonical.symm.trans hchild)
    obtain ⟨known, rfl, hknown⟩ := hevidence hbelow.below
    exact ⟨known, List.reduceOption_mem_iff.mpr hvalue, hknown⟩

theorem of_entryHasHolders_eq_ok (h : inventory.entryHasHolders files target entry = .ok held) :
    ∃ name child, entry = .ok name ∧
      files.canonicalize (inventory.blockClass.join name) = .ok child ∧
      (components target <+: components child →
        hasEntries files ((inventory.blockClass.join name).join (.ofString "holders")) = .ok held) ∧
      (held = true → components target <+: components child) := by
  simp only [entryHasHolders, bind_eq_ok] at h
  obtain ⟨block, hblock, h⟩ := h
  obtain ⟨hentry, hpath, hchild⟩ := of_blockEntry_eq_ok hblock
  refine ⟨block.name, block.child, hentry, hchild, ?_⟩
  by_cases hbelow : atOrBelow block.child target = true
  · rw [if_pos hbelow, hpath] at h
    exact ⟨fun _ => h, fun _ => atOrBelow_iff.mp hbelow⟩
  · rw [if_neg hbelow, pure_eq_ok] at h
    subst h
    exact ⟨fun hle => absurd (atOrBelow_iff.mpr hle) hbelow, Bool.noConfusion⟩

/-- The second scan says whether one of them has holders. -/
theorem of_anyHolders_eq_ok {entries : List (Except IoError OsString)}
    (h : inventory.anyHolders files target entries = .ok held) :
    (held = true → ∃ entry ∈ entries, inventory.entryHasHolders files target entry = .ok true) ∧
      (held = false → ∀ entry ∈ entries,
        inventory.entryHasHolders files target entry = .ok false) := by
  induction entries with
  | nil =>
      cases h
      exact ⟨Bool.noConfusion, fun _ _ hentry => absurd hentry List.not_mem_nil⟩
  | cons entry rest ih =>
      simp only [anyHolders, bind_eq_ok] at h
      obtain ⟨first, hfirst, h⟩ := h
      cases first with
      | true =>
          cases h
          refine ⟨fun _ => ⟨entry, List.mem_cons_self, hfirst⟩, fun hheld => ?_⟩
          cases hheld
      | false =>
          obtain ⟨htrue, hfalse⟩ := ih h
          refine ⟨fun hheld => ?_, fun hheld other hother => ?_⟩
          · obtain ⟨other, hother, hholders⟩ := htrue hheld
            exact ⟨other, List.mem_cons_of_mem entry hother, hholders⟩
          · rcases List.mem_cons.mp hother with rfl | hrest
            · exact hfirst
            · exact hfalse hheld other hrest

theorem of_descendantHasHolders_eq_ok (h : inventory.descendantHasHolders files target = .ok held) :
    (held = true → ∃ name child, DeviceBelow inventory files target name child ∧
        hasEntries files ((inventory.blockClass.join name).join (.ofString "holders")) = .ok true) ∧
      (held = false → ∀ name child, DeviceBelow inventory files target name child →
        hasEntries files ((inventory.blockClass.join name).join (.ofString "holders")) =
          .ok false) := by
  simp only [descendantHasHolders, bind_eq_ok] at h
  obtain ⟨entries, hentries, h⟩ := h
  obtain ⟨htrue, hfalse⟩ := of_anyHolders_eq_ok h
  refine ⟨fun hheld => ?_, fun hheld name child hbelow => ?_⟩
  · obtain ⟨entry, hentry, hholders⟩ := htrue hheld
    obtain ⟨name, child, rfl, hchild, hevidence, hbelow⟩ := of_entryHasHolders_eq_ok hholders
    exact ⟨name, child, ⟨⟨entries, hentries, hentry⟩, hchild, hbelow rfl⟩, hevidence (hbelow rfl)⟩
  · obtain ⟨listed, hlisted, hentry⟩ := hbelow.listed
    obtain rfl := Except.ok.inj (hentries.symm.trans hlisted)
    obtain ⟨name', child', hname, hchild, hevidence, -⟩ :=
      of_entryHasHolders_eq_ok (hfalse hheld _ hentry)
    cases hname
    obtain rfl := Except.ok.inj (hbelow.canonical.symm.trans hchild)
    exact hevidence hbelow.below

/-! ### The whole inventory -/

/-- The entry of a device in the class directory. -/
def node (inventory : LinuxStorageInventory) (device : StorageDevice) : PathBuf :=
  inventory.path ("sys/class/block/" ++ device.name)

/-- A device is looked up under the path under which the scans find it. -/
theorem path_block (name : String) :
    inventory.path ("sys/class/block/" ++ name) = inventory.blockClass.join (.ofString name) := by
  have htrim : trimStartMatches '/' ("sys/class/block/" ++ name) = "sys/class/block/" ++ name := by
    refine trimStartMatches_eq_self (String.toList_append ..) ?_
    decide
  have hbytes : ofString ("sys/class/block/" ++ name) =
      ⟨(ofString "sys/class/block").bytes ++ 47 :: (ofString name).bytes⟩ := by
    simp only [ofString, utf8Bytes_append]
    rfl
  rw [path, htrim, hbytes, join_join (by decide)]
  rfl

/-- What is known of an inventory: every entry is a device of it, and every device was judged. -/
structure Observed (inventory : LinuxStorageInventory) (files : HostFiles) (peers : List String)
    (observed : StorageInventory) (mounts : List (String × String)) (swaps : List String) :
    Prop where
  mounts_eq : inventory.mounts files = .ok mounts
  swaps_eq : inventory.swaps files = .ok swaps
  entries : ∃ entries, inventory.blockEntries files = .ok entries ∧
    ∀ entry ∈ entries, ∃ name, entry = .ok name
  complete : ∀ entries, inventory.blockEntries files = .ok entries → ∀ name, .ok name ∈ entries →
    ∃ device ∈ observed.devices, name = .ofString device.name
  listed : ∀ device ∈ observed.devices, ∃ entries, inventory.blockEntries files = .ok entries ∧
    .ok (.ofString device.name) ∈ entries
  judged : ∀ device ∈ observed.devices, ∃ target ids paths held,
    Judgement inventory files (useTables mounts swaps peers) device target ids paths held

theorem of_observe_eq_ok {peers : List String} {observed : StorageInventory}
    (h : inventory.observe files peers = .ok observed) :
    ∃ mounts swaps, Observed inventory files peers observed mounts swaps := by
  simp only [observe, bind_eq_ok, pure_eq_ok, okOr_eq_ok] at h
  obtain ⟨mounts, hmounts, swaps, hswaps, entries, hentries, names, hnames, devices, hdevices,
    encoded, -, rfl⟩ := h
  have hdevice : ∀ name device, inventory.namedDevice files (useTables mounts swaps peers) name =
      .ok device → name = .ofString device.name ∧ ∃ target ids paths held,
        Judgement inventory files (useTables mounts swaps peers) device target ids paths held := by
    intro name device hvisit
    simp only [namedDevice, bind_eq_ok, okOr_eq_ok] at hvisit
    obtain ⟨text, htext, hdevice⟩ := hvisit
    obtain ⟨rfl, hjudged⟩ := of_device_eq_ok hdevice
    exact ⟨eq_ofString_of_toStr htext, hjudged⟩
  have hsource : ∀ device ∈ devices, ∃ name ∈ names,
      inventory.namedDevice files (useTables mounts swaps peers) name = .ok device := by
    intro device hmem
    obtain ⟨name, hname, hvisit⟩ := exists_of_mem_collectEach hdevices hmem
    exact ⟨name, (List.mem_insertionSort _).mp hname, hvisit⟩
  refine ⟨mounts, swaps, hmounts, hswaps, ⟨entries, hentries, fun entry hentry => ?_⟩,
    fun others hothers name hname => ?_, fun device hmem => ?_, fun device hmem => ?_⟩
  · obtain ⟨name, -, hok⟩ := mem_collectEach_of_mem hnames hentry
    exact ⟨name, mapErr_eq_ok.mp hok⟩
  · obtain rfl := Except.ok.inj (hentries.symm.trans hothers)
    obtain ⟨value, hvalue, hentry⟩ := mem_collectEach_of_mem hnames hname
    obtain rfl := Except.ok.inj (mapErr_eq_ok.mp hentry)
    obtain ⟨device, hmem, hvisit⟩ :=
      mem_collectEach_of_mem hdevices ((List.mem_insertionSort _).mpr hvalue)
    exact ⟨device, (List.mem_insertionSort _).mpr hmem, (hdevice _ _ hvisit).1⟩
  · obtain ⟨name, hname, hvisit⟩ := hsource device ((List.mem_insertionSort _).mp hmem)
    obtain ⟨entry, hentry, hok⟩ := exists_of_mem_collectEach hnames hname
    obtain rfl := mapErr_eq_ok.mp hok
    exact ⟨entries, hentries, (hdevice _ _ hvisit).1 ▸ hentry⟩
  · obtain ⟨name, -, hvisit⟩ := hsource device ((List.mem_insertionSort _).mp hmem)
    exact (hdevice _ _ hvisit).2

/-! ### Peers -/

/-- Some PCI function on the way to the target belongs to a peer. -/
def BehindPeer (target : PathBuf) (peers : List String) : Prop := ∃ id ∈ pciIds target, id ∈ peers

/-- **A device behind a function of a peer** is rejected exactly when the first function on its
way is a peer's. -/
theorem peerRejected_iff {peers : List String} {observed : StorageInventory}
    (h : inventory.observe files peers = .ok observed) (hdevice : device ∈ observed.devices)
    (htarget : files.canonicalize (inventory.node device) = .ok target) :
    (BehindPeer target peers → .peerAssigned ∈ device.rejectionReasons ∧ device.eligible = false) ↔
      (BehindPeer target peers → ∃ first, (pciIds target).head? = some first ∧ first ∈ peers) := by
  obtain ⟨mounts, swaps, hobserved⟩ := of_observe_eq_ok h
  obtain ⟨target', ids, paths, held, hjudged⟩ := hobserved.judged device hdevice
  obtain rfl := Except.ok.inj (htarget.symm.trans hjudged.canonical)
  have hpeers : .peerAssigned ∈ device.rejectionReasons ↔
      ∃ first, (pciIds target).head? = some first ∧ first ∈ peers := hjudged.peerAssigned
  refine imp_congr_right fun _ => ⟨fun hrejected => hpeers.mp hrejected.1, fun hfirst => ?_⟩
  refine ⟨hpeers.mpr hfirst, Bool.eq_false_iff.mpr fun heligible => ?_⟩
  have hempty := hjudged.eligible.mp heligible
  exact absurd (hpeers.mpr hfirst) (by simp [hempty])

/-! ### Partitions -/

/-- The reasons that come from the use of a device. -/
def useReasons : List StorageRejectionReason := [.mounted, .hostRoot, .swap, .hasHolders]

/-- `part` is `disk` or lies below it. -/
structure Contains (inventory : LinuxStorageInventory) (files : HostFiles)
    (disk part : StorageDevice) : Prop where
  paths : ∃ above below, files.canonicalize (inventory.node disk) = .ok above ∧
    files.canonicalize (inventory.node part) = .ok below ∧ components above <+: components below

/-- Nobody uses a device, by all that can be read of it. -/
structure Unused (inventory : LinuxStorageInventory) (files : HostFiles)
    (mounts : List (String × String)) (swaps : List String) (device : StorageDevice) : Prop where
  mounted : ∃ id, readTrimmed files ((inventory.node device).join (.ofString "dev")) = .ok id ∧
    ∀ mount ∈ mounts, mount.1 ≠ id
  swap : "/dev/" ++ device.name ∉ swaps
  holders : hasEntries files ((inventory.node device).join (.ofString "holders")) = .ok false

section Partitions

variable {peers : List String} {observed : StorageInventory} {mounts : List (String × String)}
  {swaps : List String}

/-- A device of the inventory at or below the path of another is one of the entries by which the
other is judged. -/
theorem Observed.deviceBelow (h : Observed inventory files peers observed mounts swaps)
    (hpart : part ∈ observed.devices)
    (hbelow : files.canonicalize (inventory.node part) = .ok below)
    (hle : components above <+: components below) :
    DeviceBelow inventory files above (.ofString part.name) below := by
  rw [node, path_block] at hbelow
  exact ⟨h.listed part hpart, hbelow, hle⟩

theorem descendants_mono {ids' paths' : List String}
    (habove : inventory.descendants files above = .ok (ids, paths))
    (hbelow : inventory.descendants files below = .ok (ids', paths'))
    (hle : components above <+: components below) :
    (∀ id ∈ ids', id ∈ ids) ∧ ∀ path ∈ paths', path ∈ paths := by
  obtain ⟨found, rfl, rfl, -, hcomplete⟩ := of_descendants_eq_ok habove
  obtain ⟨found', rfl, rfl, hsound, -⟩ := of_descendants_eq_ok hbelow
  have hsubset : found' ⊆ found := by
    intro known hknown
    obtain ⟨name, child, hdevice, hevidence⟩ := hsound known hknown
    obtain ⟨other, hother, hevidence'⟩ := hcomplete name child (hdevice.mono hle)
    rw [hevidence.unique hevidence']
    exact hother
  exact ⟨fun _ hid => List.map_subset Prod.fst hsubset hid,
    fun _ hpath => List.map_subset Prod.snd hsubset hpath⟩

theorem descendantHasHolders_mono (habove : inventory.descendantHasHolders files above = .ok held)
    (hbelow : inventory.descendantHasHolders files below = .ok true)
    (hle : components above <+: components below) : held = true := by
  obtain ⟨name, child, hdevice, hholders⟩ := (of_descendantHasHolders_eq_ok hbelow).1 rfl
  cases held with
  | true => rfl
  | false =>
      have hnone := (of_descendantHasHolders_eq_ok habove).2 rfl name child (hdevice.mono hle)
      cases hholders.symm.trans hnone

/-- The devices by which another one is judged, with what is said of them. -/
theorem Judgement.known (h : Judgement inventory files use device target ids paths held)
    (hbelow : DeviceBelow inventory files target (.ofString name) child) :
    ∃ id ∈ ids, readTrimmed files
        ((inventory.blockClass.join (.ofString name)).join (.ofString "dev")) = .ok id ∧
      "/dev/" ++ name ∈ paths := by
  obtain ⟨found, rfl, rfl, -, hcomplete⟩ := of_descendants_eq_ok h.descendants
  obtain ⟨known, hknown, hevidence⟩ := hcomplete _ _ hbelow
  obtain ⟨text, htext, hpath⟩ := hevidence.path
  rw [toStr_ofString] at htext
  cases htext
  exact ⟨known.1, List.mem_map_of_mem hknown, hevidence.identity,
    hpath ▸ List.mem_map_of_mem hknown⟩

theorem Observed.reasons (h : Observed inventory files peers observed mounts swaps)
    {disk : StorageDevice} (hdisk : disk ∈ observed.devices) (hpart : part ∈ observed.devices)
    (hcontains : Contains inventory files disk part) {reason : StorageRejectionReason}
    (hreason : reason ∈ useReasons) (hrejected : reason ∈ part.rejectionReasons) :
    reason ∈ disk.rejectionReasons := by
  obtain ⟨above, below, habove, hbelow, hle⟩ := hcontains.paths
  obtain ⟨above', ids, paths, held, hjudged⟩ := h.judged disk hdisk
  obtain ⟨below', ids', paths', held', hjudged'⟩ := h.judged part hpart
  obtain rfl := Except.ok.inj (habove.symm.trans hjudged.canonical)
  obtain rfl := Except.ok.inj (hbelow.symm.trans hjudged'.canonical)
  obtain ⟨hids, hpaths⟩ := descendants_mono hjudged.descendants hjudged'.descendants hle
  simp only [useReasons, List.mem_cons, List.not_mem_nil, or_false] at hreason
  rcases hreason with rfl | rfl | rfl | rfl
  · obtain ⟨id, hid, hmounted⟩ := hjudged'.mounted.mp hrejected
    exact hjudged.mounted.mpr ⟨id, hids id hid, hmounted⟩
  · obtain ⟨id, hid, hroot⟩ := hjudged'.hostRoot.mp hrejected
    exact hjudged.hostRoot.mpr ⟨id, hids id hid, hroot⟩
  · refine hjudged.swap.mpr (.inr ?_)
    rcases hjudged'.swap.mp hrejected with hown | ⟨path, hpath, hswap⟩
    · obtain ⟨-, -, -, hpath⟩ := hjudged.known (h.deviceBelow hpart hbelow hle)
      exact ⟨_, hpath, hown⟩
    · exact ⟨path, hpaths path hpath, hswap⟩
  · have hheld := hjudged'.hasHolders.mp hrejected
    subst hheld
    exact hjudged.hasHolders.mpr
      (descendantHasHolders_mono hjudged.holders hjudged'.holders hle)

theorem Observed.unused (h : Observed inventory files peers observed mounts swaps)
    {disk : StorageDevice} (hdisk : disk ∈ observed.devices) (hpart : part ∈ observed.devices)
    (heligible : disk.eligible = true) (hcontains : Contains inventory files disk part) :
    Unused inventory files mounts swaps part := by
  obtain ⟨above, below, habove, hbelow, hle⟩ := hcontains.paths
  obtain ⟨above', ids, paths, held, hjudged⟩ := h.judged disk hdisk
  obtain rfl := Except.ok.inj (habove.symm.trans hjudged.canonical)
  have hentry := h.deviceBelow hpart hbelow hle
  obtain ⟨id, hid, hidentity, hpath⟩ := hjudged.known hentry
  -- an eligible device has no reason at all
  have hnone : ∀ reason, reason ∉ disk.rejectionReasons := by
    simp [hjudged.eligible.mp heligible]
  have hheld : held = false :=
    Bool.eq_false_iff.mpr fun hheld => hnone _ (hjudged.hasHolders.mpr hheld)
  have hnode : inventory.node part = inventory.blockClass.join (.ofString part.name) :=
    path_block part.name
  refine ⟨?_, fun hswap => hnone _ (hjudged.swap.mpr (.inr ⟨_, hpath, hswap⟩)), ?_⟩
  · rw [hnode]
    refine ⟨id, hidentity, fun mount hmount hsame => hnone _ (hjudged.mounted.mpr ⟨id, hid, ?_⟩)⟩
    rw [← hsame]
    exact List.mem_map_of_mem hmount
  · rw [hnode]
    exact (of_descendantHasHolders_eq_ok hjudged.holders).2 hheld _ _ hentry

/-- What holds of disks and the devices that they contain. -/
structure UseInherited (inventory : LinuxStorageInventory) (files : HostFiles)
    (mounts : List (String × String)) (swaps : List String) (observed : StorageInventory) :
    Prop where
  /-- Every block device is in the inventory. -/
  complete : ∀ entries, inventory.blockEntries files = .ok entries → ∀ name, .ok name ∈ entries →
    ∃ device ∈ observed.devices, name = .ofString device.name
  reasons : ∀ disk ∈ observed.devices, ∀ part ∈ observed.devices,
    Contains inventory files disk part → ∀ reason ∈ useReasons,
    reason ∈ part.rejectionReasons → reason ∈ disk.rejectionReasons
  unused : ∀ disk ∈ observed.devices, disk.eligible = true → ∀ part ∈ observed.devices,
    Contains inventory files disk part → Unused inventory files mounts swaps part

/-- **Use of a partition disqualifies the disk that contains it.** -/
theorem useInherited_of_observe (h : inventory.observe files peers = .ok observed) :
    ∃ mounts swaps, inventory.mounts files = .ok mounts ∧ inventory.swaps files = .ok swaps ∧
      UseInherited inventory files mounts swaps observed := by
  obtain ⟨mounts, swaps, hobserved⟩ := of_observe_eq_ok h
  exact ⟨mounts, swaps, hobserved.mounts_eq, hobserved.swaps_eq, hobserved.complete,
    fun _ hdisk _ hpart hcontains _ hreason => hobserved.reasons hdisk hpart hcontains hreason,
    fun _ hdisk heligible _ hpart hcontains => hobserved.unused hdisk hpart heligible hcontains⟩

end Partitions

/-! ### Which devices are offered -/

/-- A block device whose files, and those that say who holds it, can be read. -/
def DeviceReadable (inventory : LinuxStorageInventory) (files : HostFiles) (name : String) : Prop :=
  ∃ target id sectors ro, DeviceFiles inventory files name target id sectors ro ∧
    ∃ held, inventory.descendantHasHolders files target = .ok held

/-- Everything that the inventory looks at can be read. -/
structure Readable (inventory : LinuxStorageInventory) (files : HostFiles)
    (mounts : List (String × String)) (swaps : List String) : Prop where
  mounts_eq : inventory.mounts files = .ok mounts
  swaps_eq : inventory.swaps files = .ok swaps
  entries : ∃ entries, inventory.blockEntries files = .ok entries ∧ ∀ entry ∈ entries,
    ∃ name : String, entry = .ok (.ofString name) ∧ DeviceReadable inventory files name

/-- The files of a host by which a block device may be overwritten: it is a whole, writable device
of some size and not a virtual one, the first PCI function on its way is no peer's, and no device
at or below its path is mounted, swapped to or held. -/
structure Offered (inventory : LinuxStorageInventory) (files : HostFiles)
    (mounts : List (String × String)) (swaps peers : List String) (name : String) : Prop where
  listed : ∃ entries, inventory.blockEntries files = .ok entries ∧ .ok (.ofString name) ∈ entries
  whole : files.present ((inventory.path ("sys/class/block/" ++ name)).join
    (.ofString "partition")) = false
  sized : ∃ text sectors, readTrimmed files
    ((inventory.path ("sys/class/block/" ++ name)).join (.ofString "size")) = .ok text ∧
      parseUnsigned (2 ^ 64) text = some sectors ∧ sectors ≠ 0
  writable : ∃ text, readTrimmed files
    ((inventory.path ("sys/class/block/" ++ name)).join (.ofString "ro")) = .ok text ∧
      parseUnsigned (2 ^ 8) text = some 0
  path : ∃ target, files.canonicalize (inventory.path ("sys/class/block/" ++ name)) = .ok target ∧
      isVirtual target = false ∧ (∀ first, (pciIds target).head? = some first → first ∉ peers) ∧
      ∀ other child, DeviceBelow inventory files target (.ofString other) child →
        (∃ id, readTrimmed files ((inventory.blockClass.join (.ofString other)).join
            (.ofString "dev")) = .ok id ∧ ∀ mount ∈ mounts, mount.1 ≠ id) ∧
        "/dev/" ++ other ∉ swaps ∧
        hasEntries files ((inventory.blockClass.join (.ofString other)).join
          (.ofString "holders")) = .ok false

section Offers

variable {peers : List String} {observed : StorageInventory} {mounts : List (String × String)}
  {swaps : List String}

section

variable (h : Observed inventory files peers observed mounts swaps)

include h

theorem Observed.offered_of_eligible (hdevice : device ∈ observed.devices)
    (heligible : device.eligible = true) :
    Offered inventory files mounts swaps peers device.name := by
  obtain ⟨target, ids, paths, held, hjudged⟩ := h.judged device hdevice
  obtain ⟨id, sectors, ro, hfiles, hwhole, hvirtual, hreadOnly, hzero, -, -⟩ := hjudged.own
  have hnone : ∀ reason, reason ∉ device.rejectionReasons := by
    simp [hjudged.eligible.mp heligible]
  obtain ⟨size, hsize, hsectors⟩ := hfiles.size
  obtain ⟨text, htext, hro⟩ := hfiles.readOnly
  have hro0 : ro = 0 := not_not.mp fun hne => hnone _ (hreadOnly.mpr hne)
  refine ⟨h.listed device hdevice, Bool.eq_false_iff.mpr fun hpart => hnone _ (hwhole.mpr hpart),
    ⟨size, sectors, hsize, hsectors, fun heq => hnone _ (hzero.mpr heq)⟩,
    ⟨text, htext, hro0 ▸ hro⟩, target, hjudged.canonical,
    Bool.eq_false_iff.mpr fun htrue => hnone _ (hvirtual.mpr htrue),
    fun first hfirst hpeer => hnone _ (hjudged.peerAssigned.mpr ⟨first, hfirst, hpeer⟩),
    fun other child hbelow => ?_⟩
  obtain ⟨known, hknown, hidentity, hpath⟩ := hjudged.known hbelow
  have hheld : held = false :=
    Bool.eq_false_iff.mpr fun hheld => hnone _ (hjudged.hasHolders.mpr hheld)
  refine ⟨⟨known, hidentity, fun mount hmount hsame => ?_⟩,
    fun hswap => hnone _ (hjudged.swap.mpr (.inr ⟨_, hpath, hswap⟩)),
    (of_descendantHasHolders_eq_ok hjudged.holders).2 hheld _ _ hbelow⟩
  exact hnone _ (hjudged.mounted.mpr ⟨known, hknown, hsame ▸ List.mem_map_of_mem hmount⟩)

theorem Observed.eligible_of_offered (hdevice : device ∈ observed.devices)
    (hoffered : Offered inventory files mounts swaps peers device.name) :
    device.eligible = true := by
  obtain ⟨target, ids, paths, held, hjudged⟩ := h.judged device hdevice
  obtain ⟨id, sectors, ro, hfiles, hwhole, hvirtual, hreadOnly, hzero, hidentity, hunknown⟩ :=
    hjudged.own
  obtain ⟨target', htarget, hplain, hpeer, hfree⟩ := hoffered.path
  obtain rfl := Except.ok.inj (hjudged.canonical.symm.trans htarget)
  obtain ⟨found, rfl, rfl, hsound, -⟩ := of_descendants_eq_ok hjudged.descendants
  -- everything by which the device is judged is free
  have hknown : ∀ known ∈ found, (∀ mount ∈ mounts, mount.1 ≠ known.1) ∧ known.2 ∉ swaps := by
    intro known hmem
    obtain ⟨name, child, hbelow, hevidence⟩ := hsound known hmem
    obtain ⟨text, htext, hpath⟩ := hevidence.path
    obtain rfl := eq_ofString_of_toStr htext
    obtain ⟨⟨other, hother, hmounts⟩, hswap, -⟩ := hfree text child hbelow
    obtain rfl := Except.ok.inj (hevidence.identity.symm.trans hother)
    exact ⟨hmounts, hpath ▸ hswap⟩
  have hmounted : ∀ mount ∈ mounts, mount.1 ∉ found.map Prod.fst := by
    intro mount hmount hmem
    obtain ⟨known, hmem, hsame⟩ := List.mem_map.mp hmem
    exact (hknown known hmem).1 mount hmount hsame.symm
  refine hjudged.eligible.mpr (List.eq_nil_iff_forall_not_mem.mpr fun reason hreason => ?_)
  cases reason with
  | notWholeDevice => exact absurd (hwhole.mp hreason) (by simp [hoffered.whole])
  | virtualDevice => exact absurd (hvirtual.mp hreason) (by simp [hplain])
  | readOnly =>
      obtain ⟨text, htext, hro⟩ := hoffered.writable
      obtain ⟨text', htext', hro'⟩ := hfiles.readOnly
      obtain rfl := Except.ok.inj (htext.symm.trans htext')
      exact hreadOnly.mp hreason (Option.some.inj (hro'.symm.trans hro))
  | zeroSized =>
      obtain ⟨text, sectors', htext, hsectors, hne⟩ := hoffered.sized
      obtain ⟨text', htext', hsectors'⟩ := hfiles.size
      obtain rfl := Except.ok.inj (htext.symm.trans htext')
      exact hne ((Option.some.inj (hsectors.symm.trans hsectors')).trans (hzero.mp hreason))
  | mounted =>
      obtain ⟨id, hid, hmem⟩ := hjudged.mounted.mp hreason
      obtain ⟨mount, hmount, rfl⟩ := List.mem_map.mp hmem
      exact hmounted mount hmount hid
  | hostRoot =>
      obtain ⟨id, hid, hmem⟩ := hjudged.hostRoot.mp hreason
      obtain ⟨mount, hmount, rfl⟩ := List.mem_map.mp hmem
      exact hmounted mount (List.mem_of_mem_filter hmount) hid
  | swap =>
      rcases hjudged.swap.mp hreason with hown | ⟨path, hpath, hswap⟩
      · have hself := h.deviceBelow hdevice hjudged.canonical (List.prefix_refl _)
        exact (hfree _ _ hself).2.1 hown
      · obtain ⟨known, hmem, rfl⟩ := List.mem_map.mp hpath
        exact (hknown known hmem).2 hswap
  | hasHolders =>
      have hheld := hjudged.hasHolders.mp hreason
      obtain ⟨name, child, hbelow, hholders⟩ := (of_descendantHasHolders_eq_ok hjudged.holders).1 hheld
      obtain ⟨entries, hentries, hentry⟩ := hbelow.listed
      obtain ⟨other, -, rfl⟩ := h.complete entries hentries name hentry
      cases hholders.symm.trans (hfree other.name child hbelow).2.2
  | peerAssigned =>
      obtain ⟨first, hfirst, hmem⟩ := hjudged.peerAssigned.mp hreason
      exact hpeer first hfirst hmem
  | incompleteIdentity => exact hidentity hreason
  | unknown => exact hunknown hreason

/-- **The files decide which devices are offered.** -/
theorem Observed.eligible_iff (hdevice : device ∈ observed.devices) :
    device.eligible = true ↔ Offered inventory files mounts swaps peers device.name :=
  ⟨h.offered_of_eligible hdevice, h.eligible_of_offered hdevice⟩

/-- An inventory that is given has read everything. -/
theorem Observed.readable : Readable inventory files mounts swaps := by
  refine ⟨h.mounts_eq, h.swaps_eq, ?_⟩
  obtain ⟨entries, hentries, hnames⟩ := h.entries
  refine ⟨entries, hentries, fun entry hentry => ?_⟩
  obtain ⟨name, rfl⟩ := hnames entry hentry
  obtain ⟨device, hdevice, rfl⟩ := h.complete entries hentries name hentry
  obtain ⟨target, ids, paths, held, hjudged⟩ := h.judged device hdevice
  obtain ⟨id, sectors, ro, hfiles, -⟩ := hjudged.own
  exact ⟨device.name, rfl, target, id, sectors, ro, hfiles, held, hjudged.holders⟩

end

/-- The entries at and below a path are found if those of all devices can be read. -/
theorem Readable.descendants (h : Readable inventory files mounts swaps) (target : PathBuf) :
    ∃ found, inventory.descendants files target = .ok found := by
  obtain ⟨entries, hentries, hreadable⟩ := h.entries
  have hfound : ∀ entry ∈ entries, ∃ found, inventory.descendant files target entry = .ok found := by
    intro entry hentry
    obtain ⟨name, rfl, child, id, sectors, ro, hfiles, -⟩ := hreadable entry hentry
    have hcanonical := hfiles.canonical
    have hidentity := hfiles.identity
    rw [path_block] at hcanonical hidentity
    simp only [descendant, blockEntry, bind_eq_ok, mapErr_eq_ok, pure_eq_ok]
    by_cases hbelow : atOrBelow child target = true
    · refine ⟨some (id, "/dev/" ++ name), _, ⟨_, rfl, _, hcanonical, rfl⟩, ?_⟩
      simp only [if_pos hbelow, bind_eq_ok, okOr_eq_ok, pure_eq_ok]
      exact ⟨id, hidentity, name, toStr_ofString name, rfl⟩
    · refine ⟨none, _, ⟨_, rfl, _, hcanonical, rfl⟩, ?_⟩
      rw [if_neg hbelow]
      rfl
  obtain ⟨found, hfound⟩ := exists_collectEach hfound
  simp only [LinuxStorageInventory.descendants, bind_eq_ok, pure_eq_ok]
  exact ⟨_, entries, hentries, found, hfound, rfl⟩

theorem DeviceFiles.judged {id : String} {sectors ro : ℕ}
    (h : DeviceFiles inventory files name target id sectors ro)
    (hdescendants : inventory.descendants files target = .ok (ids, paths))
    (hheld : inventory.descendantHasHolders files target = .ok held) :
    ∃ device, inventory.device files use name = .ok device := by
  obtain ⟨size, hsize, hsectors⟩ := h.size
  obtain ⟨text, htext, hro⟩ := h.readOnly
  obtain ⟨serial, hserial⟩ := h.optional "device/serial" (by simp)
  obtain ⟨wwid, hwwid⟩ := h.optional "wwid" (by simp)
  obtain ⟨deviceWwid, hdeviceWwid⟩ := h.optional "device/wwid" (by simp)
  obtain ⟨transport, htransport⟩ := h.optional "device/transport" (by simp)
  simp only [LinuxStorageInventory.device, bind_eq_ok, pure_eq_ok, mapErr_eq_ok, okOr_eq_ok]
  exact ⟨_, (), rejectIf_eq_ok.mpr (not_or.mpr h.named), target, h.canonical, id, h.identity, (),
    h.valid, size, hsize, sectors, hsectors, (), rejectIf_eq_ok.mpr (Nat.not_le.mpr h.fits), text,
    htext, ro, hro, (ids, paths), hdescendants, held, hheld, serial, hserial, wwid, hwwid,
    deviceWwid, hdeviceWwid, transport, htransport, rfl⟩

/-- **What can be read can be observed**, if a list of devices can be serialized. -/
theorem Readable.observe (h : Readable inventory files mounts swaps)
    (hjson : ∀ devices, (inventory.json devices).isSome = true) (peers : List String) :
    ∃ observed, inventory.observe files peers = .ok observed := by
  obtain ⟨entries, hentries, hreadable⟩ := h.entries
  obtain ⟨names, hnames⟩ : ∃ names,
      collectEach entries (mapErr (StorageInventoryError.io inventory.blockClass)) = .ok names := by
    refine exists_collectEach fun entry hentry => ?_
    obtain ⟨name, rfl, -⟩ := hreadable entry hentry
    exact ⟨_, rfl⟩
  have hdevice : ∀ name ∈ names.insertionSort fun left right => left.bytes ≤ right.bytes,
      ∃ device, inventory.namedDevice files (useTables mounts swaps peers) name = .ok device := by
    intro name hname
    obtain ⟨entry, hentry, hok⟩ :=
      exists_of_mem_collectEach hnames ((List.mem_insertionSort _).mp hname)
    obtain rfl := mapErr_eq_ok.mp hok
    obtain ⟨text, htext, target, id, sectors, ro, hfiles, held, hheld⟩ := hreadable _ hentry
    cases htext
    obtain ⟨⟨ids, paths⟩, hdescendants⟩ := h.descendants target
    obtain ⟨device, hdevice⟩ := hfiles.judged hdescendants hheld
    refine ⟨device, ?_⟩
    simp only [namedDevice, bind_eq_ok, okOr_eq_ok]
    exact ⟨text, toStr_ofString text, hdevice⟩
  obtain ⟨devices, hdevices⟩ := exists_collectEach hdevice
  obtain ⟨encoded, hencoded⟩ := Option.isSome_iff_exists.mp (hjson (devices.insertionSort
    fun left right => utf8Bytes left.name ≤ utf8Bytes right.name))
  simp only [LinuxStorageInventory.observe, bind_eq_ok, pure_eq_ok, okOr_eq_ok]
  exact ⟨_, mounts, h.mounts_eq, swaps, h.swaps_eq, entries, hentries, names, hnames, devices,
    hdevices, encoded, hencoded, rfl⟩

end Offers

/-! ### A host with two disks -/

/-- Files that are given by lists. -/
def ofLists (texts links : List (String × String)) (directories : List (String × List String)) :
    HostFiles where
  readToString path :=
    match texts.find? fun file => ofString file.1 = path with
    | some file => .ok file.2
    | none => .error (.ofKind .notFound)
  readDir path :=
    match directories.find? fun directory => ofString directory.1 = path with
    | some directory => .ok (directory.2.map fun name => .ok (.ofString name))
    | none => .error (.ofKind .notFound)
  canonicalize path :=
    match links.find? fun link => ofString link.1 = path with
    | some link => .ok (.ofString link.2)
    | none => .error (.ofKind .notFound)
  present path := texts.any fun file => ofString file.1 = path

/-- A disk behind a bridge, and a disk with a mounted partition. -/
def twoDisks : HostFiles :=
  ofLists
    [("/proc/self/mountinfo", "20 1 8:1 / /srv rw - ext4 /dev/sda1 rw\n"),
      ("/proc/swaps", "Filename Type Size Used Priority\n"),
      ("/sys/class/block/nvme0n1/dev", "259:0\n"), ("/sys/class/block/nvme0n1/size", "2048\n"),
      ("/sys/class/block/nvme0n1/ro", "0\n"),
      ("/sys/class/block/sda/dev", "8:0\n"), ("/sys/class/block/sda/size", "2048\n"),
      ("/sys/class/block/sda/ro", "0\n"),
      ("/sys/class/block/sda1/dev", "8:1\n"), ("/sys/class/block/sda1/size", "1024\n"),
      ("/sys/class/block/sda1/ro", "0\n"), ("/sys/class/block/sda1/partition", "1\n")]
    [("/sys/class/block/nvme0n1",
        "/sys/devices/pci0000:00/0000:00:1c.0/0000:01:00.0/nvme/nvme0/nvme0n1"),
      ("/sys/class/block/sda", "/sys/devices/pci0000:00/0000:00:02.0/block/sda"),
      ("/sys/class/block/sda1", "/sys/devices/pci0000:00/0000:00:02.0/block/sda/sda1")]
    [("/sys/class/block", ["sda", "nvme0n1", "sda1"]), ("/sys/class/block/nvme0n1/holders", []),
      ("/sys/class/block/sda/holders", []), ("/sys/class/block/sda1/holders", [])]

/-- The inventory of the whole host, with a digest that plays no part. -/
def wholeHost : LinuxStorageInventory :=
  ⟨.ofString "/", fun _ => ⟨List.replicate 32 0, rfl⟩, fun _ => some []⟩

/-- The disk behind the bridge, as it is listed when nobody has it. -/
def bridgedDisk : StorageDevice where
  name := "nvme0n1"
  devicePath := "/dev/nvme0n1"
  majorMinor := "259:0"
  sizeBytes := 1048576
  wholeDevice := true
  readOnly := false
  serial := none
  wwn := none
  transport := none
  pciId := some "0000:00:1c.0"
  eligible := true
  rejectionReasons := []

/-- The partition that is mounted. -/
def mountedPart : StorageDevice where
  name := "sda1"
  devicePath := "/dev/sda1"
  majorMinor := "8:1"
  sizeBytes := 524288
  wholeDevice := false
  readOnly := false
  serial := none
  wwn := none
  transport := none
  pciId := some "0000:00:02.0"
  eligible := false
  rejectionReasons := [.notWholeDevice, .mounted]

/-- The disk that contains it. -/
def partedDisk : StorageDevice :=
  { mountedPart with
    name := "sda"
    devicePath := "/dev/sda"
    majorMinor := "8:0"
    sizeBytes := 1048576
    wholeDevice := true
    rejectionReasons := [.mounted] }

/-- The bridge and what is behind it belong to a peer. -/
theorem peerRejected_iff_bridge :
    ∃ observed device, wholeHost.observe twoDisks ["0000:00:1c.0", "0000:01:00.0"] = .ok observed ∧
      device ∈ observed.devices ∧ .peerAssigned ∈ device.rejectionReasons ∧
      device.eligible = false := by
  have hobserve : wholeHost.observe twoDisks ["0000:00:1c.0", "0000:01:00.0"] =
      .ok ⟨⟨0⟩, [{ bridgedDisk with eligible := false, rejectionReasons := [.peerAssigned] },
        partedDisk, mountedPart]⟩ := by decide +kernel
  have htarget : twoDisks.canonicalize (wholeHost.node bridgedDisk) =
      .ok (.ofString "/sys/devices/pci0000:00/0000:00:1c.0/0000:01:00.0/nvme/nvme0/nvme0n1") := by
    decide +kernel
  have hrejected := (peerRejected_iff hobserve List.mem_cons_self htarget).mpr fun _ =>
    ⟨"0000:00:1c.0", by decide +kernel, List.mem_cons_self⟩
  exact ⟨_, _, hobserve, List.mem_cons_self, hrejected ⟨"0000:01:00.0", by decide +kernel⟩⟩

/-- The disk behind the bridge is offered although its function belongs to a peer. -/
theorem peer_disk_eligible :
    ∃ observed, wholeHost.observe twoDisks ["0000:01:00.0"] = .ok observed ∧
      ∃ device ∈ observed.devices, device.rejectionReasons = [] ∧ device.eligible = true ∧
      ∃ target, twoDisks.canonicalize (wholeHost.node device) = .ok target ∧
        BehindPeer target ["0000:01:00.0"] := by
  have hobserve : wholeHost.observe twoDisks ["0000:01:00.0"] =
      .ok ⟨⟨0⟩, [bridgedDisk, partedDisk, mountedPart]⟩ := by decide +kernel
  have htarget : twoDisks.canonicalize (wholeHost.node bridgedDisk) =
      .ok (.ofString "/sys/devices/pci0000:00/0000:00:1c.0/0000:01:00.0/nvme/nvme0/nvme0n1") := by
    decide +kernel
  exact ⟨_, hobserve, bridgedDisk, List.mem_cons_self, rfl, rfl, _, htarget, "0000:01:00.0",
    by decide +kernel⟩

/-- The mounted partition disqualifies its disk. -/
theorem useInherited_of_observe_partition :
    ∃ observed, wholeHost.observe twoDisks [] = .ok observed ∧
      ∃ disk ∈ observed.devices, ∃ part ∈ observed.devices, disk ≠ part ∧
        Contains wholeHost twoDisks disk part ∧ .mounted ∈ part.rejectionReasons ∧
        .mounted ∈ disk.rejectionReasons := by
  have hobserve : wholeHost.observe twoDisks [] =
      .ok ⟨⟨0⟩, [bridgedDisk, partedDisk, mountedPart]⟩ := by decide +kernel
  obtain ⟨mounts, swaps, -, -, hinherited⟩ := useInherited_of_observe hobserve
  have hdisk : partedDisk ∈ [bridgedDisk, partedDisk, mountedPart] := by simp
  have hpart : mountedPart ∈ [bridgedDisk, partedDisk, mountedPart] := by simp
  have hcontains : Contains wholeHost twoDisks partedDisk mountedPart :=
    ⟨.ofString "/sys/devices/pci0000:00/0000:00:02.0/block/sda",
      .ofString "/sys/devices/pci0000:00/0000:00:02.0/block/sda/sda1", by decide +kernel⟩
  exact ⟨_, hobserve, partedDisk, hdisk, mountedPart, hpart, by decide +kernel, hcontains,
    by decide, hinherited.reasons _ hdisk _ hpart hcontains .mounted (by decide) (by decide)⟩

end Kernmux.Daemon.LinuxStorageInventory
