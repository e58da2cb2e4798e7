import Kernmux.Daemon.Lifecycle
import Kernmux.Library.Ownership
import Mathlib.Data.List.Pairwise
import Mathlib.Order.CompletePartialOrder
import Mathlib.Order.Interval.Finset.Nat
import Mathlib.Order.Interval.Set.Disjoint

/-!
# Kernmux.Daemon.MemoryIsolation

**Memory isolation is preserved by every accepted update.** The memory of an
instance is the half-open range `Instance.memoryRange`, a set of natural
numbers, so that isolation can be stated without reference to the 64-bit sums
by which the planner checks it.

The planner lets an instance shrink without looking at anything and checks a
growing one against the pool and against every peer. Both ways of passing it
come to the same, `Placeable`: the new range ends below `2 ^ 64`, lies inside a
region of the pool and meets no peer. The invariant is preserved because of
that alone.

A new instance has no place yet, and the planner compares totals only. They are
the right ones in one direction: where a range for the instance exists, the
totals let it pass (`validateCreateMemory_of_room`).
-/

namespace Kernmux.Daemon.Lifecycle

open Api.V1 Library

variable {inst : Instance} {base bytes : UInt64} {snapshot : HostSnapshot}

/-! ### Ranges -/

/-- The addresses from `base` on. -/
def addresses (base bytes : UInt64) : Set ℕ := Set.Ico base.toNat (base.toNat + bytes.toNat)

/-- The addresses of an instance; an instance without a base has none. -/
def memoryRange (inst : Instance) : Set ℕ :=
  match inst.resources.memoryBase with
  | some base => addresses base inst.resources.memoryBytes
  | none => ∅

theorem memoryRange_of_base (h : inst.resources.memoryBase = some base) :
    memoryRange inst = addresses base inst.resources.memoryBytes := by
  rw [memoryRange, h]

theorem addresses_mono {more : UInt64} (h : bytes ≤ more) :
    addresses base bytes ⊆ addresses base more :=
  Set.Ico_subset_Ico_right (Nat.add_le_add_left (UInt64.le_iff_toNat_le.mp h) _)

/-- Every instance that has memory has it for itself, inside one region of the pool. -/
structure MemoryIsolated (snapshot : HostSnapshot) : Prop where
  ids_nodup : (snapshot.instances.map (·.id)).Nodup
  based : ∀ inst ∈ snapshot.instances, 0 < inst.resources.memoryBytes →
    inst.resources.memoryBase.isSome
  fits : ∀ inst ∈ snapshot.instances, ∀ base, inst.resources.memoryBase = some base →
    base.toNat + inst.resources.memoryBytes.toNat < 2 ^ 64
  disjoint : snapshot.instances.Pairwise fun one other =>
    Disjoint (memoryRange one) (memoryRange other)
  inside : ∀ inst ∈ snapshot.instances, 0 < inst.resources.memoryBytes →
    ∃ region ∈ snapshot.resourcePool.memoryRegions,
      memoryRange inst ⊆ addresses region.base region.bytes

/-! ### What the planner has checked -/

/-- `inst` may have `bytes` bytes at its base. -/
structure Placeable (snapshot : HostSnapshot) (inst : Instance) (base bytes : UInt64) : Prop where
  based : inst.resources.memoryBase = some base
  fits : base.toNat + bytes.toNat < 2 ^ 64
  inside : ∃ region ∈ snapshot.resourcePool.memoryRegions,
    addresses base bytes ⊆ addresses region.base region.bytes
  apart : ∀ peer ∈ snapshot.instances, peer.id ≠ inst.id →
    Disjoint (addresses base bytes) (memoryRange peer)

theorem checkedAdd_fits {a b c : UInt64} (h : checkedAdd a b = some c) :
    a.toNat + b.toNat < 2 ^ 64 := by
  rw [← checkedAdd_eq_some.mp h]
  exact c.toNat_lt

/-- A region that passes the planner's comparison contains the range. -/
theorem addresses_subset_of_remainsInChunk {region : MemoryRegion} {finish : UInt64}
    (hend : checkedAdd base bytes = some finish) (h : remainsInChunk region base finish = true) :
    addresses base bytes ⊆ addresses region.base region.bytes := by
  unfold remainsInChunk at h
  split at h
  case h_1 chunkEnd hchunk =>
    rw [Bool.and_eq_true, decide_eq_true_eq, decide_eq_true_eq, UInt64.le_iff_toNat_le,
      UInt64.le_iff_toNat_le, checkedAdd_eq_some.mp hchunk, checkedAdd_eq_some.mp hend] at h
    exact Set.Ico_subset_Ico h.1 h.2
  case h_2 => cases h

/-- A peer that passes the planner's comparison is apart from the range. -/
theorem disjoint_of_rejectOverlap {finish : UInt64} {peer : Instance}
    (hend : checkedAdd base bytes = some finish) (h : rejectOverlap base finish peer = .ok ()) :
    Disjoint (addresses base bytes) (memoryRange peer) := by
  unfold rejectOverlap at h
  unfold memoryRange
  cases hbase : peer.resources.memoryBase with
  | none => exact Set.disjoint_empty _
  | some peerBase =>
      simp only [hbase] at h ⊢
      rw [bind_eq_ok] at h
      obtain ⟨peerEnd, hpeerEnd, h⟩ := h
      rw [okOr_eq_ok, checkedAdd_eq_some] at hpeerEnd
      rw [rejectIf_eq_ok, UInt64.lt_iff_toNat_lt, UInt64.lt_iff_toNat_lt, hpeerEnd,
        checkedAdd_eq_some.mp hend] at h
      rw [addresses, addresses, Set.Ico_disjoint_Ico]
      omega

/-- Growth is checked against the pool and every peer. -/
theorem placeable_of_growth (hgrows : ¬ bytes ≤ inst.resources.memoryBytes)
    (h : validateUpdateMemory snapshot inst bytes = .ok ()) :
    ∃ base, Placeable snapshot inst base bytes := by
  rw [validateUpdateMemory, if_neg hgrows, bind_eq_ok] at h
  obtain ⟨base, hbase, h⟩ := h
  rw [bind_eq_ok] at h
  obtain ⟨finish, hend, h⟩ := h
  rw [guard_eq_ok, rejectIf_eq_ok, not_not, checkEach_eq_ok] at h
  rw [okOr_eq_ok] at hbase hend
  obtain ⟨hregion, hpeers⟩ := h
  obtain ⟨region, hmem, hchunk⟩ := List.any_eq_true.mp hregion
  refine ⟨base, hbase, checkedAdd_fits hend, ⟨region, hmem,
    addresses_subset_of_remainsInChunk hend hchunk⟩, fun peer hpeer hne => ?_⟩
  have hpeers := hpeers peer (List.mem_filter.mpr ⟨hpeer, decide_eq_true hne⟩)
  exact disjoint_of_rejectOverlap hend hpeers

/-- Isolation speaks about any two instances with different IDs. -/
theorem MemoryIsolated.apart (h : MemoryIsolated snapshot) {one other : Instance}
    (hone : one ∈ snapshot.instances) (hother : other ∈ snapshot.instances)
    (hne : one.id ≠ other.id) : Disjoint (memoryRange one) (memoryRange other) := by
  have hsymm : Std.Symm fun one other => Disjoint (memoryRange one) (memoryRange other) :=
    ⟨fun _ _ hdisj => hdisj.symm⟩
  exact h.disjoint.forall hone hother fun heq => hne (congrArg Instance.id heq)

/-- Shrinking is not checked, and needs no check: the range only gets smaller. -/
theorem placeable_of_shrink (h : MemoryIsolated snapshot) (hinst : inst ∈ snapshot.instances)
    (hpos : bytes ≠ 0) (hshrinks : bytes ≤ inst.resources.memoryBytes) :
    ∃ base, Placeable snapshot inst base bytes := by
  have hle := UInt64.le_iff_toNat_le.mp hshrinks
  have hzero : bytes.toNat ≠ 0 := fun heq => hpos (UInt64.toNat_inj.mp heq)
  have hmemory : 0 < inst.resources.memoryBytes := by
    rw [UInt64.lt_iff_toNat_lt, UInt64.toNat_zero]
    omega
  obtain ⟨base, hbase⟩ := Option.isSome_iff_exists.mp (h.based inst hinst hmemory)
  have hsmaller : addresses base bytes ⊆ memoryRange inst := by
    rw [memoryRange_of_base hbase]
    exact addresses_mono hshrinks
  refine ⟨base, hbase, ?_, ?_, fun peer hpeer hne => ?_⟩
  · have hfits := h.fits inst hinst base hbase
    omega
  · obtain ⟨region, hregion, hinside⟩ := h.inside inst hinst hmemory
    exact ⟨region, hregion, hsmaller.trans hinside⟩
  · exact (h.apart hinst hpeer hne.symm).mono_left hsmaller

/-- Whatever size the planner accepts can be placed. -/
theorem validateUpdateMemory_placeable (h : MemoryIsolated snapshot)
    (hinst : inst ∈ snapshot.instances) (hpos : bytes ≠ 0)
    (hvalid : validateUpdateMemory snapshot inst bytes = .ok ()) :
    ∃ base, Placeable snapshot inst base bytes := by
  by_cases hshrinks : bytes ≤ inst.resources.memoryBytes
  · exact placeable_of_shrink h hinst hpos hshrinks
  · exact placeable_of_growth hshrinks hvalid

/-! ### The layout after an update -/

/-- An instance with another amount of memory at the same base. -/
def resized (bytes : UInt64) (inst : Instance) : Instance :=
  { inst with resources := { inst.resources with memoryBytes := bytes } }

/-- The layout in which the instance with this ID has another amount of memory. -/
def resize (snapshot : HostSnapshot) (id : InstanceId) (bytes : UInt64) : HostSnapshot :=
  { snapshot with
    instances := snapshot.instances.map fun inst =>
      if inst.id = id then resized bytes inst else inst }

/-- The layout that an update asks for: another size only when it names one. -/
def updatedLayout (snapshot : HostSnapshot) (request : UpdateRequest) : HostSnapshot :=
  match request.memoryBytes with
  | some bytes => resize snapshot request.inst.id bytes
  | none => snapshot

theorem Placeable.memoryRange_resized (h : Placeable snapshot inst base bytes) :
    memoryRange (resized bytes inst) = addresses base bytes :=
  memoryRange_of_base h.based

/-- A placeable size may be given to the instance. -/
theorem MemoryIsolated.of_placeable (h : MemoryIsolated snapshot) {target : Instance}
    (htarget : target ∈ snapshot.instances) (hplace : Placeable snapshot target base bytes) :
    MemoryIsolated (resize snapshot target.id bytes) := by
  have hunique : ∀ inst ∈ snapshot.instances, inst.id = target.id → inst = target :=
    fun inst hinst hid => List.inj_on_of_nodup_map h.ids_nodup hinst htarget hid
  have hrange := hplace.memoryRange_resized
  -- an instance of the new layout is the resized target or an old instance
  have hcases : ∀ inst ∈ (resize snapshot target.id bytes).instances,
      inst = resized bytes target ∨ inst ∈ snapshot.instances ∧ inst.id ≠ target.id := by
    intro inst hinst
    refine (mem_update hinst).imp_left fun hchanged => ?_
    obtain ⟨old, hold, hid, rfl⟩ := hchanged
    rw [hunique old hold hid]
  have hids : ((resize snapshot target.id bytes).instances.map (·.id)).Nodup := by
    have hsame : (resize snapshot target.id bytes).instances.map (·.id) =
        snapshot.instances.map (·.id) := map_update fun _ => rfl
    rw [hsame]
    exact h.ids_nodup
  refine ⟨hids, fun inst hinst hpos => ?_, fun inst hinst base' hbase => ?_, ?_,
    fun inst hinst hpos => ?_⟩
  · rcases hcases inst hinst with rfl | ⟨hold, -⟩
    · exact Option.isSome_of_mem hplace.based
    · exact h.based inst hold hpos
  · rcases hcases inst hinst with rfl | ⟨hold, -⟩
    · obtain rfl := Option.some.inj (hplace.based.symm.trans hbase)
      exact hplace.fits
    · exact h.fits inst hold base' hbase
  -- two instances are both old, or one of them is the target at its new size
  · refine (List.pairwise_map.mp hids).imp_of_mem fun {one other} hone hother hne => ?_
    rcases hcases one hone with rfl | ⟨hold, hid⟩
    · rcases hcases other hother with rfl | ⟨hold', hid'⟩
      · exact absurd rfl hne
      · rw [hrange]
        exact hplace.apart other hold' hid'
    · rcases hcases other hother with rfl | ⟨hold', -⟩
      · rw [hrange]
        exact (hplace.apart one hold hid).symm
      · exact h.apart hold hold' hne
  · rcases hcases inst hinst with rfl | ⟨hold, -⟩
    · rw [hrange]
      exact hplace.inside
    · exact h.inside inst hold hpos

/-- Every accepted update leaves memory isolated: growing, shrinking or keeping the size,
alone or together with other resources. -/
theorem memoryIsolated_updatedLayout (h : MemoryIsolated snapshot) {request : UpdateRequest}
    {invocation : KerfInvocation} (hplan : plan (.update request) snapshot = .ok invocation) :
    MemoryIsolated (updatedLayout snapshot request) := by
  obtain ⟨target, hupdate, -⟩ := planUpdate_eq_ok.mp (plan_eq_ok.mp hplan).2
  obtain ⟨-, hfind, -⟩ := requireInstance_eq_ok.mp hupdate.found
  have htarget := List.mem_of_find?_eq_some hfind
  have hid : target.id = request.inst.id := by simpa using List.find?_some hfind
  unfold updatedLayout
  cases hbytes : request.memoryBytes with
  | none => exact h
  | some bytes =>
      obtain ⟨hpos, hvalid⟩ := hupdate.memory bytes hbytes
      obtain ⟨base, hplace⟩ := validateUpdateMemory_placeable h htarget hpos hvalid
      rw [← hid]
      exact h.of_placeable htarget hplace

/-- Two instances in one region, the lower one with room above it. -/
def tightSnapshot : HostSnapshot where
  generation := ⟨1⟩
  health := .healthy
  diagnostics := []
  kernel := ⟨"6.12", true⟩
  capabilities := []
  topology := ⟨"x86_64", [], []⟩
  memory := ⟨0, 0, 0, 0⟩
  resourcePool := ⟨[], [], [⟨4096, 16384, 0⟩], [], []⟩
  instances := [
    ⟨⟨1⟩, "web", ⟨1⟩, .ready, ⟨[], some 4096, 4096, none, []⟩, ⟨false⟩⟩,
    ⟨⟨2⟩, "db", ⟨1⟩, .ready, ⟨[], some 12288, 4096, none, []⟩, ⟨false⟩⟩]
  transactions := []
  operations := []

/-- The lower instance grows until it meets the upper one. -/
theorem memoryIsolated_updatedLayout_tight : MemoryIsolated tightSnapshot ∧
      MemoryIsolated (updatedLayout tightSnapshot ⟨⟨⟨1⟩, ⟨1⟩⟩, none, some 8192, none, false⟩) := by
  have hstart : MemoryIsolated tightSnapshot := by
    refine ⟨by decide, by decide, ?_, ?_, ?_⟩
    · simp [tightSnapshot]
    · simp [tightSnapshot, memoryRange, addresses]
    · simp [tightSnapshot, memoryRange, addresses, Set.Ico_subset_Ico_iff]
  exact ⟨hstart, memoryIsolated_updatedLayout hstart rfl⟩

/-! ### Room for a new instance -/

/-- The regions of a pool and the instances in them, as a host lays them out. -/
structure PoolLayout (snapshot : HostSnapshot) : Prop where
  regions_fit : ∀ region ∈ snapshot.resourcePool.memoryRegions,
    region.base.toNat + region.bytes.toNat ≤ 2 ^ 64 - 1
  regions_apart : snapshot.resourcePool.memoryRegions.Pairwise fun one other =>
    Disjoint (addresses one.base one.bytes) (addresses other.base other.bytes)
  based : ∀ inst ∈ snapshot.instances, 0 < inst.resources.memoryBytes →
    inst.resources.memoryBase.isSome
  disjoint : snapshot.instances.Pairwise fun one other =>
    Disjoint (memoryRange one) (memoryRange other)
  inside : ∀ inst ∈ snapshot.instances, 0 < inst.resources.memoryBytes →
    ∃ region ∈ snapshot.resourcePool.memoryRegions,
      memoryRange inst ⊆ addresses region.base region.bytes

/-- Some region has this many bytes in a row that belong to no instance. -/
def Room (snapshot : HostSnapshot) (bytes : UInt64) : Prop :=
  ∃ region ∈ snapshot.resourcePool.memoryRegions, ∃ start : ℕ,
    Set.Ico start (start + bytes.toNat) ⊆ addresses region.base region.bytes ∧
      ∀ inst ∈ snapshot.instances, Disjoint (Set.Ico start (start + bytes.toNat)) (memoryRange inst)

theorem foldlM_checkedAdd {values : List UInt64} {start : UInt64}
    (h : start.toNat + (values.map UInt64.toNat).sum < 2 ^ 64) :
    ∃ total : UInt64, values.foldlM (fun total value =>
        okOr (checkedAdd total value) MemoryPlacementError.addressOverflow) start = .ok total ∧
      total.toNat = start.toNat + (values.map UInt64.toNat).sum := by
  induction values generalizing start with
  | nil => exact ⟨start, rfl, rfl⟩
  | cons value values ih =>
      rw [List.map_cons, List.sum_cons] at h
      have hnext : (start + value).toNat = start.toNat + value.toNat := by
        rw [UInt64.toNat_add]
        exact Nat.mod_eq_of_lt (by omega)
      obtain ⟨total, hfold, htotal⟩ := @ih (start + value) (by omega)
      refine ⟨total, ?_, ?_⟩
      · rw [List.foldlM_cons, checkedAdd_eq_some.mpr hnext]
        exact hfold
      · rw [htotal, hnext, List.map_cons, List.sum_cons, Nat.add_assoc]

/-- A sum that fits is computed. -/
theorem checkedSum_of_lt {values : List UInt64} (h : (values.map UInt64.toNat).sum < 2 ^ 64) :
    ∃ total : UInt64, checkedSum values = .ok total ∧
      total.toNat = (values.map UInt64.toNat).sum := by
  obtain ⟨total, hfold, htotal⟩ := @foldlM_checkedAdd values 0 (by simpa using h)
  exact ⟨total, hfold, by simpa using htotal⟩

/-- The addresses of a region, to be counted. -/
def regionSpan (region : MemoryRegion) : Finset ℕ :=
  Finset.Ico region.base.toNat (region.base.toNat + region.bytes.toNat)

/-- The addresses of an instance, to be counted. -/
def memorySpan (inst : Instance) : Finset ℕ :=
  match inst.resources.memoryBase with
  | some base => Finset.Ico base.toNat (base.toNat + inst.resources.memoryBytes.toNat)
  | none => ∅

theorem coe_regionSpan (region : MemoryRegion) :
    (regionSpan region : Set ℕ) = addresses region.base region.bytes := Finset.coe_Ico _ _

theorem card_regionSpan (region : MemoryRegion) : (regionSpan region).card = region.bytes.toNat := by
  rw [regionSpan, Nat.card_Ico, Nat.add_sub_cancel_left]

theorem coe_memorySpan (inst : Instance) : (memorySpan inst : Set ℕ) = memoryRange inst := by
  unfold memorySpan memoryRange
  cases inst.resources.memoryBase with
  | none => exact Finset.coe_empty
  | some base => exact Finset.coe_Ico _ _

section Layout

theorem PoolLayout.card_memorySpan (h : PoolLayout snapshot) (hinst : inst ∈ snapshot.instances) :
    (memorySpan inst).card = inst.resources.memoryBytes.toNat := by
  unfold memorySpan
  cases hbase : inst.resources.memoryBase with
  | none =>
      -- an instance without a base has no memory
      have hzero : ¬ 0 < inst.resources.memoryBytes := by
        intro hpos
        have hsome := h.based inst hinst hpos
        simp [hbase] at hsome
      rw [UInt64.lt_iff_toNat_lt, UInt64.toNat_zero] at hzero
      rw [Finset.card_empty]
      omega
  | some base => simp

theorem PoolLayout.memorySpan_subset (h : PoolLayout snapshot) (hinst : inst ∈ snapshot.instances) :
    memorySpan inst ⊆ together (snapshot.resourcePool.memoryRegions.map regionSpan) := by
  by_cases hpos : 0 < inst.resources.memoryBytes
  · obtain ⟨region, hregion, hinside⟩ := h.inside inst hinst hpos
    have hsubset : memorySpan inst ⊆ regionSpan region := by
      rw [← Finset.coe_subset, coe_memorySpan, coe_regionSpan]
      exact hinside
    exact hsubset.trans (subset_together (List.mem_map_of_mem hregion))
  · have hempty : (memorySpan inst).card = 0 := by
      rw [h.card_memorySpan hinst]
      rw [UInt64.lt_iff_toNat_lt, UInt64.toNat_zero] at hpos
      omega
    rw [Finset.card_eq_zero.mp hempty]
    exact Finset.empty_subset _

/-- The regions lie below `2 ^ 64 - 1`, and so does their total. -/
theorem PoolLayout.regions_sum (h : PoolLayout snapshot) :
    ((snapshot.resourcePool.memoryRegions.map regionSpan).map Finset.card).sum ≤ 2 ^ 64 - 1 := by
  have hapart : (snapshot.resourcePool.memoryRegions.map regionSpan).Pairwise Disjoint := by
    refine List.pairwise_map.mpr (h.regions_apart.imp ?_)
    intro one other hdisjoint
    rw [← Finset.disjoint_coe, coe_regionSpan, coe_regionSpan]
    exact hdisjoint
  have hinside : ∀ part ∈ snapshot.resourcePool.memoryRegions.map regionSpan,
      part ⊆ Finset.Ico 0 (2 ^ 64 - 1) := by
    intro part hpart
    obtain ⟨region, hregion, rfl⟩ := List.mem_map.mp hpart
    exact Finset.Ico_subset_Ico (Nat.zero_le _) (h.regions_fit region hregion)
  have hsum := sum_card_le hapart hinside
  rwa [Nat.card_Ico] at hsum

/-- The instances and the range for a new one do not overlap, so the regions have room for all. -/
theorem PoolLayout.assigned_sum (h : PoolLayout snapshot) (hroom : Room snapshot bytes) :
    bytes.toNat + ((snapshot.instances.map memorySpan).map Finset.card).sum ≤
      ((snapshot.resourcePool.memoryRegions.map regionSpan).map Finset.card).sum := by
  obtain ⟨region, hregion, start, hinside, hfree⟩ := hroom
  have hapart : (Finset.Ico start (start + bytes.toNat) ::
      snapshot.instances.map memorySpan).Pairwise Disjoint := by
    refine List.pairwise_cons.mpr ⟨?_, List.pairwise_map.mpr (h.disjoint.imp ?_)⟩
    · intro part hpart
      obtain ⟨inst, hinst, rfl⟩ := List.mem_map.mp hpart
      rw [← Finset.disjoint_coe, Finset.coe_Ico, coe_memorySpan]
      exact hfree inst hinst
    · intro one other hdisjoint
      rw [← Finset.disjoint_coe, coe_memorySpan, coe_memorySpan]
      exact hdisjoint
  have hsubset : ∀ part ∈ Finset.Ico start (start + bytes.toNat) ::
      snapshot.instances.map memorySpan,
      part ⊆ together (snapshot.resourcePool.memoryRegions.map regionSpan) := by
    intro part hpart
    rcases List.mem_cons.mp hpart with rfl | hpart
    · have hregion' : Finset.Ico start (start + bytes.toNat) ⊆ regionSpan region := by
        rw [← Finset.coe_subset, Finset.coe_Ico, coe_regionSpan]
        exact hinside
      exact hregion'.trans (subset_together (List.mem_map_of_mem hregion))
    · obtain ⟨inst, hinst, rfl⟩ := List.mem_map.mp hpart
      exact h.memorySpan_subset hinst
  have hsum := (sum_card_le hapart hsubset).trans (card_together_le _)
  rwa [List.map_cons, List.sum_cons, Nat.card_Ico, Nat.add_sub_cancel_left] at hsum

theorem map_card_regionSpan (regions : List MemoryRegion) :
    (regions.map regionSpan).map Finset.card = (regions.map (·.bytes)).map UInt64.toNat := by
  rw [List.map_map, List.map_map]
  exact List.map_congr_left fun region _ => card_regionSpan region

theorem PoolLayout.map_card_memorySpan (h : PoolLayout snapshot) :
    (snapshot.instances.map memorySpan).map Finset.card =
      (snapshot.instances.map (·.resources.memoryBytes)).map UInt64.toNat := by
  rw [List.map_map, List.map_map]
  exact List.map_congr_left fun inst hinst => h.card_memorySpan hinst

/-- A region that has room for a range is at least as large. -/
theorem region_of_room (hroom : Room snapshot bytes) :
    ∃ region ∈ snapshot.resourcePool.memoryRegions, region.bytes ≥ bytes := by
  obtain ⟨region, hregion, start, hinside, -⟩ := hroom
  have hsubset : Finset.Ico start (start + bytes.toNat) ⊆ regionSpan region := by
    rw [← Finset.coe_subset, Finset.coe_Ico, coe_regionSpan]
    exact hinside
  have hcard := Finset.card_le_card hsubset
  rw [Nat.card_Ico, Nat.add_sub_cancel_left, card_regionSpan] at hcard
  exact ⟨region, hregion, UInt64.le_iff_toNat_le.mpr hcard⟩

/-- A new instance that has a place is let in, and neither total overflows. -/
theorem validateCreateMemory_of_room (h : PoolLayout snapshot) (hroom : Room snapshot bytes) :
    (∃ poolBytes, checkedSum (snapshot.resourcePool.memoryRegions.map (·.bytes)) = .ok poolBytes) ∧
      (∃ assignedBytes,
        checkedSum (snapshot.instances.map (·.resources.memoryBytes)) = .ok assignedBytes) ∧
      validateCreateMemory snapshot bytes = .ok () := by
  have hregions := h.regions_sum
  have hassigned := h.assigned_sum hroom
  rw [map_card_regionSpan] at hregions hassigned
  rw [h.map_card_memorySpan] at hassigned
  have hpoolFits : ((snapshot.resourcePool.memoryRegions.map (·.bytes)).map UInt64.toNat).sum <
      2 ^ 64 := by omega
  have hassignedFits : ((snapshot.instances.map (·.resources.memoryBytes)).map UInt64.toNat).sum <
      2 ^ 64 := by omega
  obtain ⟨poolBytes, hpool, hpoolNat⟩ := checkedSum_of_lt hpoolFits
  obtain ⟨assignedBytes, hsum, hsumNat⟩ := checkedSum_of_lt hassignedFits
  refine ⟨⟨poolBytes, hpool⟩, ⟨assignedBytes, hsum⟩, ?_⟩
  have henough : ¬ bytes > saturatingSub poolBytes assignedBytes := by
    rw [gt_iff_lt, UInt64.lt_iff_toNat_lt, toNat_saturatingSub]
    omega
  rw [validateCreateMemory, bind_eq_ok]
  refine ⟨poolBytes, hpool, bind_eq_ok.mpr ⟨assignedBytes, hsum, ?_⟩⟩
  rw [guard_eq_ok, rejectIf_eq_ok, rejectIf_eq_ok, not_not]
  exact ⟨henough, region_of_room hroom⟩

/-- The gap between two instances is given to a third one. -/
theorem validateCreateMemory_of_room_tight : PoolLayout tightSnapshot ∧ Room tightSnapshot 4096 ∧
      validateCreateMemory tightSnapshot 4096 = .ok () := by
  have hlayout : PoolLayout tightSnapshot := by
    refine ⟨by decide, ?_, by decide, ?_, ?_⟩
    · simp [tightSnapshot]
    · simp [tightSnapshot, memoryRange, addresses]
    · simp [tightSnapshot, memoryRange, addresses, Set.Ico_subset_Ico_iff]
  have hroom : Room tightSnapshot 4096 := by
    refine ⟨⟨4096, 16384, 0⟩, by simp [tightSnapshot], 8192, ?_, ?_⟩
    · exact Set.Ico_subset_Ico (by decide) (by decide)
    · simp [tightSnapshot, memoryRange, addresses]
  exact ⟨hlayout, hroom, (validateCreateMemory_of_room hlayout hroom).2.2⟩

end Layout

end Kernmux.Daemon.Lifecycle
