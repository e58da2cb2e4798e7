import Kernmux.Api.V1
import Kernmux.Library.Ordered
import Kernmux.Library.Result

/-!
# Kernmux.Daemon.Placement

CPU identity and availability checks for Multikernel placement. Two
independent questions are asked here: may these CPUs enter the *pool*
(`validatePoolCpus`), and may an *instance* be given these CPUs of the pool
(`validateInstanceCpus`).
-/

namespace Kernmux.Daemon.Placement

open Api.V1 Library

/-- Why a requested hardware/APIC ID cannot be used for a placement. -/
inductive CpuPlacementError
  /-- No host CPU currently has the requested hardware ID. -/
  | unknownHardwareId (id : UInt32)
  /-- More than one host CPU reports the requested hardware ID. -/
  | ambiguousHardwareId (id : UInt32)
  /-- The host CPU is known but not online and cannot enter the pool. -/
  | offlineHardwareId (id : UInt32)
  /-- The hardware ID is not available to the target instance. -/
  | unavailableHardwareId (id : UInt32)
  deriving DecidableEq, Repr

/-- A CPU newly entering the pool is exactly one online CPU of the topology. -/
def validatePoolCpu (snapshot : HostSnapshot) (hardwareId : UInt32) :
    Except CpuPlacementError Unit :=
  match snapshot.topology.cpus.filter (·.hardwareId = hardwareId) with
  | [] => .error (.unknownHardwareId hardwareId)
  | cpu :: others => do
      rejectIf (others ≠ []) (.ambiguousHardwareId hardwareId)
      rejectIf (cpu.online = false) (.offlineHardwareId hardwareId)

/-- Validate only CPUs newly entering the Multikernel pool. CPUs already in the
pool may be absent from the host topology, because they were taken offline. -/
def validatePoolCpus (snapshot : HostSnapshot) (requestedHardwareIds : List UInt32) :
    Except CpuPlacementError Unit :=
  let retained := elements snapshot.resourcePool.cpuHardwareIds
  checkEach (requestedHardwareIds.filter (· ∉ retained)) (validatePoolCpu snapshot)

/-- Validate an instance CPU replacement against authoritative pool state. -/
def validateInstanceCpus (snapshot : HostSnapshot) (requestedHardwareIds : List UInt32)
    (retainedHardwareIds : List UInt32) : Except CpuPlacementError Unit :=
  let available := elements
    (snapshot.resourcePool.availableCpuHardwareIds ++ retainedHardwareIds)
  rejectSome (requestedHardwareIds.find? (· ∉ available)) .unavailableHardwareId

/-- An instance may take exactly the available CPUs and the ones it keeps. -/
theorem validateInstanceCpus_eq_ok {snapshot : HostSnapshot} {requested retained : List UInt32} :
    validateInstanceCpus snapshot requested retained = .ok () ↔
      ∀ cpu ∈ requested, cpu ∈ snapshot.resourcePool.availableCpuHardwareIds ∨ cpu ∈ retained := by
  simp only [validateInstanceCpus, rejectSome_eq_ok, List.find?_eq_none, mem_elements,
    List.mem_append, decide_not, Bool.not_eq_true', decide_eq_false_iff_not, not_not]

end Kernmux.Daemon.Placement
