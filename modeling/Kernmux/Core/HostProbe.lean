import Kernmux.Core.Observation
import Kernmux.Library.Result
import Kernmux.Library.Text
import Mathlib.Data.List.Sort

/-!
# Kernmux.Core.HostProbe

The probe for the Linux host: parsers of the texts that the kernel shows in
procfs and sysfs, and the online CPUs as they are read from these files.
-/

namespace Kernmux.Core

open Library

/-! ### Errors -/

/-- What is wrong with a text. -/
inductive ProbeMessage
  /-- The value is not a number in range. -/
  | invalidInteger (value : String)
  | text (message : String)
  deriving DecidableEq, Repr

/-- A host interface that cannot be understood. -/
structure ProbeError where
  path : String
  message : ProbeMessage
  deriving DecidableEq, Repr

/-! ### CPU lists -/

def parseU32Value (value context : String) : Except ProbeError UInt32 := do
  let number ← okOr (parseUnsigned (2 ^ 32) value) ⟨context, .invalidInteger value⟩
  return .ofNat number

/-- The CPUs of one part of a list. -/
def parseCpuRange (part : String) : Except ProbeError (List UInt32) :=
  match splitOnce '-' part with
  | some (first, last) => do
      let first ← parseU32Value first "cpu list"
      let last ← parseU32Value last "cpu list"
      rejectIf (first > last) ⟨"cpu-list", .text "CPU range is reversed"⟩
      return (List.range' first.toNat (last.toNat - first.toNat + 1)).map UInt32.ofNat
  | none => do
      let cpu ← parseU32Value part "cpu list"
      return [cpu]

def parseCpuList (value : String) : Except ProbeError (List UInt32) := do
  let parts := ((splitText ',' value).map trimText).filter (· ≠ "")
  let cpus ← collectEach parts parseCpuRange
  return (cpus.flatten.insertionSort (· ≤ ·)).dedup

/-! ### CPUs -/

/-- A reader of the files below a root; the files are named from there. -/
structure LinuxHostProbe where
  root : String
  readToString : String → Except String String

namespace LinuxHostProbe

def path (probe : LinuxHostProbe) (relative : String) : String :=
  if probe.root.toList.getLast?.all (· = '/') then probe.root ++ relative
  else probe.root ++ "/" ++ relative

def readTrimmed (probe : LinuxHostProbe) (relative : String) : Except ProbeError String := do
  let value ← mapErr (fun error => ⟨probe.path relative, .text error⟩) (probe.readToString relative)
  return trimText value

def readU32 (probe : LinuxHostProbe) (relative : String) : Except ProbeError UInt32 := do
  let value ← probe.readTrimmed relative
  let number ← okOr (parseUnsigned (2 ^ 32) value) ⟨probe.path relative, .invalidInteger value⟩
  return .ofNat number

/-- Text in parts at every empty line. -/
def splitBlocks : List Char → List (List Char)
  | [] => [[]]
  | '\n' :: '\n' :: rest => [] :: splitBlocks rest
  | char :: rest =>
      match splitBlocks rest with
      | block :: blocks => (char :: block) :: blocks
      | [] => [[char]]

/-- The keys and values of a block, from its first line to its last. -/
def blockFields (block : String) : List (String × String) :=
  ((lines block).filterMap (splitOnce ':')).map fun (key, value) => (trimText key, trimText value)

/-- The number under a key of a block. -/
def blockNumber (fields : List (String × String)) (key : String) : Option UInt32 :=
  (lookupLast Prod.fst fields key).bind fun field =>
    (parseUnsigned (2 ^ 32) field.2).map UInt32.ofNat

/-- A block of a processor gives its number and its hardware id; of the two keys of the id the
first one that is there counts. -/
def blockIds (block : String) : Option (UInt32 × UInt32) := do
  let fields := blockFields block
  let logical ← blockNumber fields "processor"
  let key := if (lookupLast Prod.fst fields "apicid").isSome then "apicid" else "initial apicid"
  return (logical, (blockNumber fields key).getD logical)

def readHardwareCpuIds (probe : LinuxHostProbe) : Except ProbeError (List (UInt32 × UInt32)) := do
  let contents ← probe.readTrimmed "proc/cpuinfo"
  return ((splitBlocks contents.toList).map String.ofList).filterMap blockIds

def topologyPath (logicalId : UInt32) : String :=
  "sys/devices/system/cpu/cpu" ++ toString logicalId.toNat ++ "/topology"

/-- One online CPU; its place among the threads of its core is not known yet. -/
def readCpu (probe : LinuxHostProbe) (numaNodes : List NumaNodeObservation)
    (hardwareIds : List (UInt32 × UInt32)) (logicalId : UInt32) :
    Except ProbeError CpuObservation := do
  let packageId ← probe.readU32 (topologyPath logicalId ++ "/physical_package_id")
  let coreId ← probe.readU32 (topologyPath logicalId ++ "/core_id")
  let numaNode := ((numaNodes.find? fun node => node.logicalCpuIds.contains logicalId).map
    (·.id)).getD 0
  return {
    logicalId
    hardwareId := ((lookupLast Prod.fst hardwareIds logicalId).map Prod.snd).getD logicalId
    packageId
    coreId
    threadIndex := 0
    numaNode }

/-- The next number, if there is one. -/
def saturatingSucc (index : UInt32) : UInt32 := if index = 0xffffffff then index else index + 1

end LinuxHostProbe

/-- The core of a CPU. -/
def CpuObservation.core (cpu : CpuObservation) : UInt32 × UInt32 := (cpu.packageId, cpu.coreId)

namespace LinuxHostProbe

/-- Number the threads of each core, with the number that comes next for every core. -/
def numberThreads : (UInt32 × UInt32 → UInt32) → List CpuObservation → List CpuObservation
  | _, [] => []
  | nextThread, cpu :: cpus =>
      let index := nextThread cpu.core
      { cpu with threadIndex := index } ::
        numberThreads (Function.update nextThread cpu.core (saturatingSucc index)) cpus

def readCpus (probe : LinuxHostProbe) (numaNodes : List NumaNodeObservation) :
    Except ProbeError (List CpuObservation) := do
  let text ← probe.readTrimmed "sys/devices/system/cpu/online"
  let online ← parseCpuList text
  let hardwareIds ← probe.readHardwareCpuIds
  let cpus ← collectEach online (probe.readCpu numaNodes hardwareIds)
  return numberThreads (fun _ => 0) cpus

end LinuxHostProbe

end Kernmux.Core
