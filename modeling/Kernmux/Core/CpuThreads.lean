import Kernmux.Core.HostProbe
import Kernmux.Library.Numbering

/-!
# Kernmux.Core.CpuThreads

**Threads number the CPUs of a core.** The probe goes through the online CPUs in
ascending order and counts, for each core on its own, the CPUs it has met there.
The counter of a core stops at the largest 32-bit number. That is never reached
too early, because online CPUs have different 32-bit numbers.
-/

namespace Kernmux.Core

open Library LinuxHostProbe

/-! ### The list of online CPUs -/

/-- A list of CPUs is strictly ascending. -/
theorem pairwise_of_parseCpuList {value : String} {cpus : List UInt32}
    (h : parseCpuList value = .ok cpus) : cpus.Pairwise (· < ·) := by
  obtain ⟨ranges, _, h⟩ := bind_eq_ok.mp h
  obtain rfl := pure_eq_ok.mp h
  have hsorted : ((ranges.flatten.insertionSort (· ≤ ·)).dedup).Pairwise (· ≤ ·) :=
    (List.pairwise_insertionSort _ _).sublist (List.dedup_sublist _)
  refine (hsorted.and (List.nodup_dedup _)).imp ?_
  intro first second ⟨hle, hne⟩
  exact UInt32.lt_of_le_of_ne hle hne

/-- There are not more 32-bit numbers than that. -/
theorem length_le_of_pairwise {ids : List UInt32} (h : ids.Pairwise (· < ·)) {first : ℕ}
    (hfirst : ∀ id ∈ ids, first ≤ id.toNat) : ids.length + first ≤ 2 ^ 32 ∨ ids = [] := by
  induction ids generalizing first with
  | nil => exact .inr rfl
  | cons id ids ih =>
      obtain ⟨hid, hids⟩ := List.pairwise_cons.mp h
      have hlow := hfirst id List.mem_cons_self
      have hlt := id.toNat_lt
      refine .inl ?_
      obtain hrest | rfl := ih hids fun other hother => UInt32.lt_iff_toNat_lt.mp (hid other hother)
      · rw [List.length_cons]
        omega
      · rw [List.length_singleton]
        omega

/-! ### The loop over the CPUs -/

theorem toNat_saturatingSucc (index : UInt32) :
    (saturatingSucc index).toNat = min (index.toNat + 1) (2 ^ 32 - 1) := by
  have hlt := index.toNat_lt
  rw [saturatingSucc]
  by_cases hlast : index = 0xffffffff
  · rw [if_pos hlast, hlast]
    rfl
  · have hne : index.toNat ≠ 2 ^ 32 - 1 := fun heq => hlast (UInt32.toNat_inj.mp heq)
    rw [if_neg hlast, UInt32.toNat_add]
    show (index.toNat + 1) % 2 ^ 32 = _
    omega

/-- With `start core` CPUs met before, the CPUs of a core get the numbers from there on. -/
theorem map_threadIndex_numberThreads {cpus : List CpuObservation}
    {nextThread : UInt32 × UInt32 → UInt32} {start : UInt32 × UInt32 → ℕ}
    (hnext : ∀ core, (nextThread core).toNat = min (start core) (2 ^ 32 - 1))
    (hroom : ∀ core, start core + (withKey CpuObservation.core core cpus).length ≤ 2 ^ 32)
    (core : UInt32 × UInt32) :
    (withKey CpuObservation.core core (numberThreads nextThread cpus)).map
        (·.threadIndex.toNat) =
      List.range' (start core) (withKey CpuObservation.core core cpus).length := by
  induction cpus generalizing nextThread start with
  | nil => rfl
  | cons cpu cpus ih =>
      have hcount := hroom cpu.core
      rw [withKey_cons_of_eq rfl, List.length_cons] at hcount
      -- the counter of this core has not stopped yet
      have hindex : (nextThread cpu.core).toNat = start cpu.core := by
        rw [hnext]
        omega
      have hthread : CpuObservation.core { cpu with threadIndex := nextThread cpu.core } = cpu.core :=
        rfl
      have hrest := @ih (Function.update nextThread cpu.core (saturatingSucc (nextThread cpu.core)))
        (Function.update start cpu.core (start cpu.core + 1)) ?_ ?_
      · rw [numberThreads]
        by_cases hcore : cpu.core = core
        · rw [withKey_cons_of_eq (hthread.trans hcore), List.map_cons, hrest,
            withKey_cons_of_eq hcore, List.length_cons, List.range'_succ, ← hcore,
            Function.update_self, hindex]
        · rw [withKey_cons_of_ne (hthread ▸ hcore), hrest, withKey_cons_of_ne hcore,
            Function.update_of_ne (Ne.symm hcore)]
      · intro other
        by_cases hother : other = cpu.core
        · subst hother
          rw [Function.update_self, Function.update_self, toNat_saturatingSucc, hindex]
        · rw [Function.update_of_ne hother, Function.update_of_ne hother, hnext]
      · intro other
        by_cases hother : other = cpu.core
        · subst hother
          rw [Function.update_self]
          omega
        · have hsame := hroom other
          rw [withKey_cons_of_ne (Ne.symm hother)] at hsame
          rw [Function.update_of_ne hother]
          exact hsame

/-- Numbering changes nothing else. -/
theorem map_numberThreads {β : Type} {view : CpuObservation → β}
    (hview : ∀ cpu index, view { cpu with threadIndex := index } = view cpu)
    (nextThread : UInt32 × UInt32 → UInt32) (cpus : List CpuObservation) :
    (numberThreads nextThread cpus).map view = cpus.map view := by
  induction cpus generalizing nextThread with
  | nil => rfl
  | cons cpu cpus ih => rw [numberThreads, List.map_cons, hview, ih, List.map_cons]

/-! ### The CPUs that are read -/

/-- The CPUs of each core are numbered from zero on, in the order of their ids. -/
structure ThreadsNumbered (cpus : List CpuObservation) : Prop where
  ascending : (cpus.map (·.logicalId)).Pairwise (· < ·)
  distinct : (cpus.map fun cpu => (cpu.packageId, cpu.coreId, cpu.threadIndex)).Nodup
  threads : ∀ core, (withKey CpuObservation.core core cpus).map (·.threadIndex.toNat) =
    List.range (withKey CpuObservation.core core cpus).length

theorem numbered_numberThreads {cpus : List CpuObservation}
    (h : (cpus.map (·.logicalId)).Pairwise (· < ·)) :
    ThreadsNumbered (numberThreads (fun _ => 0) cpus) := by
  have hlength : cpus.length ≤ 2 ^ 32 := by
    obtain hle | hnil := length_le_of_pairwise h fun _ _ => Nat.zero_le _
    · simpa using hle
    · rw [List.map_eq_nil_iff.mp hnil]
      exact Nat.zero_le _
  have hroom : ∀ core, 0 + (withKey CpuObservation.core core cpus).length ≤ 2 ^ 32 := by
    intro core
    rw [Nat.zero_add]
    exact length_withKey_le.trans hlength
  have hthreads : ∀ core, (withKey CpuObservation.core core (numberThreads (fun _ => 0) cpus)).map
          (·.threadIndex.toNat) =
        List.range (withKey CpuObservation.core core (numberThreads (fun _ => 0) cpus)).length := by
    intro core
    have hnumbers :=
      @map_threadIndex_numberThreads cpus (fun _ => 0) (fun _ => 0) (fun _ => rfl) hroom core
    have hcount := congrArg List.length hnumbers
    rw [List.length_map, List.length_range'] at hcount
    rw [hnumbers, hcount, List.range_eq_range']
  have hgroups : ∀ core, ((withKey CpuObservation.core core (numberThreads (fun _ => 0) cpus)).map
        (·.threadIndex)).Nodup := by
    intro core
    refine List.Nodup.of_map UInt32.toNat ?_
    rw [List.map_map]
    exact (hthreads core).symm ▸ List.nodup_range
  refine ⟨?_, ?_, hthreads⟩
  · rw [map_numberThreads fun _ _ => rfl]
    exact h
  · refine List.Nodup.of_map (fun triple => ((triple.1, triple.2.1), triple.2.2)) ?_
    rw [List.map_map]
    exact nodup_map_of_withKey hgroups

theorem exists_readCpu {probe : LinuxHostProbe} {numaNodes : List NumaNodeObservation}
    {hardwareIds : List (UInt32 × UInt32)} {logicalId packageId coreId : UInt32}
    (hpackage : probe.readU32 (topologyPath logicalId ++ "/physical_package_id") =
      .ok packageId)
    (hcore : probe.readU32 (topologyPath logicalId ++ "/core_id") = .ok coreId) :
    ∃ cpu, probe.readCpu numaNodes hardwareIds logicalId = .ok cpu ∧ cpu.logicalId = logicalId ∧
      cpu.core = (packageId, coreId) := by
  refine ⟨_, bind_eq_ok.mpr ⟨packageId, hpackage, bind_eq_ok.mpr ⟨coreId, hcore, rfl⟩⟩, rfl, rfl⟩

/-- All CPUs of a list are read, in its order. -/
theorem collectEach_readCpu {probe : LinuxHostProbe} {numaNodes : List NumaNodeObservation}
    {hardwareIds : List (UInt32 × UInt32)} {online : List UInt32} {package core : UInt32 → UInt32}
    (hpackage : ∀ id ∈ online,
      probe.readU32 (topologyPath id ++ "/physical_package_id") = .ok (package id))
    (hcore : ∀ id ∈ online, probe.readU32 (topologyPath id ++ "/core_id") = .ok (core id)) :
    ∃ cpus, collectEach online (probe.readCpu numaNodes hardwareIds) = .ok cpus ∧
      cpus.map (·.logicalId) = online ∧
      cpus.map (·.core) = online.map fun id => (package id, core id) := by
  induction online with
  | nil => exact ⟨[], rfl, rfl, rfl⟩
  | cons id online ih =>
      obtain ⟨hpackageId, hpackage⟩ := List.forall_mem_cons.mp hpackage
      obtain ⟨hcoreId, hcore⟩ := List.forall_mem_cons.mp hcore
      obtain ⟨cpu, hcpu, hid, hcpuCore⟩ := exists_readCpu hpackageId hcoreId
      obtain ⟨cpus, hcpus, hids, hcores⟩ := ih hpackage hcore
      refine ⟨cpu :: cpus, ?_, ?_, ?_⟩
      · exact bind_eq_ok.mpr ⟨cpu, hcpu, bind_eq_ok.mpr ⟨cpus, hcpus, rfl⟩⟩
      · simp [hid, hids]
      · simp [hcpuCore, hcores]

/-- For every list of online CPUs that the kernel shows and every place it gives to them, the CPUs
are read with that place, and those of each core are numbered. -/
theorem readCpus_numbered {probe : LinuxHostProbe} {text info : String} {online : List UInt32}
    {package core : UInt32 → UInt32}
    (htext : probe.readTrimmed "sys/devices/system/cpu/online" = .ok text)
    (honline : parseCpuList text = .ok online)
    (hinfo : probe.readTrimmed "proc/cpuinfo" = .ok info)
    (hpackage : ∀ id ∈ online,
      probe.readU32 (topologyPath id ++ "/physical_package_id") = .ok (package id))
    (hcore : ∀ id ∈ online, probe.readU32 (topologyPath id ++ "/core_id") = .ok (core id))
    (numaNodes : List NumaNodeObservation) :
    ∃ cpus, probe.readCpus numaNodes = .ok cpus ∧ cpus.map (·.logicalId) = online ∧
      cpus.map (·.core) = online.map (fun id => (package id, core id)) ∧ ThreadsNumbered cpus := by
  obtain ⟨cpus, hcpus, hids, hcores⟩ := @collectEach_readCpu probe numaNodes
    (((splitBlocks info.toList).map String.ofList).filterMap blockIds)
    online package core hpackage hcore
  refine ⟨numberThreads (fun _ => 0) cpus, ?_, ?_, ?_, ?_⟩
  · refine bind_eq_ok.mpr ⟨text, htext, bind_eq_ok.mpr ⟨online, honline, bind_eq_ok.mpr ⟨_, ?_,
      bind_eq_ok.mpr ⟨cpus, hcpus, rfl⟩⟩⟩⟩
    exact bind_eq_ok.mpr ⟨info, hinfo, rfl⟩
  · rw [map_numberThreads fun _ _ => rfl, hids]
  · rw [map_numberThreads fun _ _ => rfl, hcores]
  · exact numbered_numberThreads (hids ▸ pairwise_of_parseCpuList honline)

/-- A host with two CPUs on one core and a third one in another package. -/
def threeCpuHost : LinuxHostProbe where
  root := "/"
  readToString relative :=
    if relative = "sys/devices/system/cpu/online" then .ok "0-1,4\n"
    else if relative = "proc/cpuinfo" then
      .ok "processor: 0\napicid: 0\n\nprocessor: 1\napicid: 2\n\nprocessor: 4\napicid: 8\n"
    else if relative = "sys/devices/system/cpu/cpu4/topology/physical_package_id" then .ok "1\n"
    else .ok "0\n"

example : (threeCpuHost.readCpus []).toOption.map (·.map fun cpu =>
    (cpu.logicalId, cpu.hardwareId, cpu.packageId, cpu.coreId, cpu.threadIndex)) =
      some [(0, 0, 0, 0, 0), (1, 2, 0, 0, 1), (4, 8, 1, 0, 0)] := by
  decide +kernel

theorem readCpus_numbered_three : ∃ cpus, threeCpuHost.readCpus [] = .ok cpus ∧
    cpus.map (·.logicalId) = [0, 1, 4] ∧
    cpus.map (·.core) = [0, 1, 4].map (fun id : UInt32 => (if id = 4 then 1 else 0, 0)) ∧
    ThreadsNumbered cpus := by
  have htext : threeCpuHost.readTrimmed "sys/devices/system/cpu/online" = .ok "0-1,4" := by
    decide +kernel
  have honline : parseCpuList "0-1,4" = .ok [0, 1, 4] := by decide +kernel
  have hinfo : threeCpuHost.readTrimmed "proc/cpuinfo" =
      .ok "processor: 0\napicid: 0\n\nprocessor: 1\napicid: 2\n\nprocessor: 4\napicid: 8" := by
    decide +kernel
  refine readCpus_numbered htext honline hinfo ?_ ?_ []
  · intro id hid
    simp only [List.mem_cons, List.not_mem_nil, or_false] at hid
    obtain rfl | rfl | rfl := hid <;> decide +kernel
  · intro id hid
    simp only [List.mem_cons, List.not_mem_nil, or_false] at hid
    obtain rfl | rfl | rfl := hid <;> decide +kernel

end Kernmux.Core
