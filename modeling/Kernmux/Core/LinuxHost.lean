import Kernmux.Core.HostProbe
import Kernmux.Library.Merging
import Kernmux.Library.PathText
import Mathlib.Data.List.ReduceOption

/-!
# Kernmux.Core.LinuxHost

Everything the probe for the Linux host reports: the release of the kernel,
what the host is capable of, NUMA nodes, online CPUs and memory. A capability
is there when its file is; NUMA nodes are the directories named after them,
however the kernel lists these.
-/

namespace Kernmux.Core

open Library

/-! ### Memory -/

def parseU64Value (value context : String) : Except ProbeError UInt64 := do
  let number ← okOr (parseUnsigned (2 ^ 64) value) ⟨context, .invalidInteger value⟩
  return .ofNat number

/-- The first line for a field. The word before the colon names the field, since the lines of a
NUMA node begin with the node. -/
def parseKibLines (field : String) : List String → Except ProbeError UInt64
  | [] => .error ⟨"meminfo", .text ("missing field " ++ field)⟩
  | line :: rest =>
      match splitOnce ':' line with
      | none => parseKibLines field rest
      | some (before, after) =>
          if (splitWhitespace before).getLast? ≠ some field then parseKibLines field rest
          else do
            let value ← okOr (splitWhitespace after).head?
              ⟨"meminfo", .text ("missing value for " ++ field)⟩
            let kib ← parseU64Value value field
            rejectIf (2 ^ 64 ≤ kib.toNat * 1024)
              ⟨"meminfo", .text (field ++ " overflows bytes")⟩
            return kib * 1024

def parseKibField (contents field : String) : Except ProbeError UInt64 :=
  parseKibLines field (lines contents)

/-! ### The host -/

/-- A probe that also lists directories. -/
structure LinuxHost extends LinuxHostProbe where
  architecture : String
  readDir : String → Except String (List (Except String OsString))
  present : String → Bool

namespace LinuxHost

/-- The files that capabilities are read off. -/
def candidates : List (HostCapability × String) :=
  [(.multikernel, "sys/fs/multikernel/device_tree"),
    (.instanceLifecycle, "sys/fs/multikernel/instances"),
    (.transactions, "sys/fs/multikernel/overlays"),
    (.dynamicResources, "dev/lazy_cma"),
    (.console, "dev/mktty"),
    (.sharedMemory, "dev/dma_heap/multikernel")]

/-- Entries and groups that cannot be read count as empty. -/
def hasNonemptyIommuGroup (host : LinuxHost) : Bool :=
  (host.readDir "sys/kernel/iommu_groups").toOption.elim false fun groups =>
    (groups.filterMap Except.toOption).any fun group =>
      (host.readDir ("sys/kernel/iommu_groups/" ++ group.toStringLossy ++ "/devices")).toOption.elim
        false fun devices => !devices.isEmpty

/-- A set of capabilities. -/
def collectCapabilities (found : List HostCapability) : HostCapabilities where
  supported := HostCapability.all.filter (· ∈ found)
  ordered := by
    apply List.filter_congr
    intro capability hcapability
    simp [hcapability]

def capabilities (host : LinuxHost) : HostCapabilities :=
  let multikernel := host.present "sys/fs/multikernel/device_tree"
  let found := (candidates.filter fun candidate => host.present candidate.2).map Prod.fst
  collectCapabilities
    (if multikernel && host.hasNonemptyIommuGroup then found ++ [.deviceAssignment] else found)

/-- The number in the name of a NUMA node. -/
def nodeNumber (name : String) : Option UInt32 :=
  (stripPrefix "node" name).bind fun digits =>
    (parseUnsigned (2 ^ 32) digits).map UInt32.ofNat

/-- One NUMA node. -/
def readNumaNode (host : LinuxHost) (name : String) (id : UInt32) :
    Except ProbeError NumaNodeObservation := do
  let relative := "sys/devices/system/node/" ++ name
  let list ← host.readTrimmed (relative ++ "/cpulist")
  let logicalCpuIds ← parseCpuList list
  let memory ← host.readTrimmed (relative ++ "/meminfo")
  let totalMemoryBytes ← parseKibField memory "MemTotal"
  let availableMemoryBytes ← parseKibField memory "MemFree"
  return { id, logicalCpuIds, totalMemoryBytes, availableMemoryBytes }

/-- What is read of one entry of the directory of NUMA nodes. -/
def visitNode (host : LinuxHost) (entry : Except String OsString) :
    Except ProbeError (Option NumaNodeObservation) := do
  let entry ← mapErr (fun error => ⟨host.path "sys/devices/system/node", .text error⟩) entry
  match nodeNumber entry.toStringLossy with
  | none => return none
  | some id => return some (← host.readNumaNode entry.toStringLossy id)

def readNumaNodes (host : LinuxHost) : Except ProbeError (List NumaNodeObservation) := do
  let directory := "sys/devices/system/node"
  let entries ← mapErr (fun error => ⟨host.path directory, .text error⟩) (host.readDir directory)
  let nodes ← collectEach entries host.visitNode
  return nodes.reduceOption.insertionSort (·.id ≤ ·.id)

/-- Free memory stands in for available memory where the kernel does not tell that. -/
def readHostMemory (host : LinuxHost) : Except ProbeError HostMemoryObservation := do
  let contents ← host.readTrimmed "proc/meminfo"
  let totalBytes ← parseKibField contents "MemTotal"
  let availableBytes ← match parseKibField contents "MemAvailable" with
    | .ok bytes => .ok bytes
    | .error _ => parseKibField contents "MemFree"
  return ⟨totalBytes, availableBytes⟩

def observe (host : LinuxHost) : Except ProbeError LinuxHostObservation := do
  let kernelRelease ← host.readTrimmed "proc/sys/kernel/osrelease"
  let capabilities := host.capabilities
  let numaNodes ← host.readNumaNodes
  let cpus ← host.readCpus numaNodes
  let memory ← host.readHostMemory
  return { kernelRelease, architecture := host.architecture, capabilities, cpus, numaNodes, memory }

/-! ### Other listings of the same directories -/

/-- The same files, with directories listed in another order. -/
structure Relisted (host other : LinuxHost) : Prop where
  probe : other.toLinuxHostProbe = host.toLinuxHostProbe
  architecture : other.architecture = host.architecture
  present : other.present = host.present
  readDir : ∀ relative, Relists (host.readDir relative) (other.readDir relative)

section Relisted

variable {host other : LinuxHost} (h : Relisted host other)

include h

theorem Relisted.hasNonemptyIommuGroup :
    other.hasNonemptyIommuGroup = host.hasNonemptyIommuGroup := by
  have hdevices : ∀ relative, (other.readDir relative).toOption.elim false (!·.isEmpty) =
      (host.readDir relative).toOption.elim false (!·.isEmpty) :=
    fun relative => (h.readDir relative).same fun _ _ hperm => by rw [hperm.isEmpty_eq]
  unfold LinuxHost.hasNonemptyIommuGroup
  simp only [hdevices]
  exact (h.readDir _).same fun _ _ hperm => (hperm.filterMap _).any_eq.symm

theorem Relisted.capabilities : other.capabilities = host.capabilities := by
  unfold LinuxHost.capabilities
  rw [h.hasNonemptyIommuGroup, h.present]

theorem Relisted.visitNode : other.visitNode = host.visitNode := by
  funext entry
  unfold LinuxHost.visitNode readNumaNode
  rw [h.probe]

/-- NUMA nodes with numbers of their own are sorted in one way. -/
theorem Relisted.readNumaNodes {nodes : List NumaNodeObservation}
    (hids : (nodes.map (·.id)).Nodup) (hnodes : host.readNumaNodes = .ok nodes) :
    other.readNumaNodes = .ok nodes := by
  simp only [LinuxHost.readNumaNodes, bind_eq_ok, pure_eq_ok, mapErr_eq_ok,
    collectEach_eq_ok] at hnodes ⊢
  obtain ⟨entries, hentries, found, hfound, rfl⟩ := hnodes
  have hlisted := h.readDir "sys/devices/system/node"
  rw [hentries] at hlisted
  cases hrelisted : other.readDir "sys/devices/system/node" with
  | error error =>
      rw [hrelisted] at hlisted
      exact hlisted.elim
  | ok relisted =>
      rw [hrelisted] at hlisted
      have hperm : entries.Perm relisted := hlisted
      obtain ⟨again, hagain, hsame⟩ := List.perm_comp_forall₂ hperm.symm hfound
      rw [h.visitNode]
      refine ⟨relisted, rfl, again, hagain, ?_⟩
      obtain ⟨hsorted, hordered⟩ :=
        insertionSort_by_key NumaNodeObservation.id found.reduceOption
      refine insertionSort_eq_of_keys (hsorted.trans ?_) hordered hids
      exact hsame.symm.filterMap _

/-- A host is observed alike however its directories are listed. -/
theorem Relisted.observe {observed : LinuxHostObservation}
    (hids : (observed.numaNodes.map (·.id)).Nodup) (hobserved : host.observe = .ok observed) :
    other.observe = .ok observed := by
  have hmemory : other.readHostMemory = host.readHostMemory := by
    unfold readHostMemory
    rw [h.probe]
  simp only [LinuxHost.observe, bind_eq_ok, pure_eq_ok] at hobserved ⊢
  obtain ⟨release, hrelease, nodes, hnodes, cpus, hcpus, memory, hhostMemory, rfl⟩ := hobserved
  refine ⟨release, by rw [h.probe, hrelease], nodes, h.readNumaNodes hids hnodes, cpus,
    by rw [h.probe, hcpus], memory, by rw [hmemory, hhostMemory], ?_⟩
  rw [h.capabilities, h.architecture]

end Relisted

end LinuxHost

end Kernmux.Core
