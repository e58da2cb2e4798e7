import Kernmux.Core.DeviceTree
import Kernmux.Core.Observation
import Kernmux.Library.PathText
import Mathlib.Data.List.Sort

/-!
# Kernmux.Core.MultikernelProbe

The probe for the Multikernel filesystem. The resource pool comes from a device
tree, each instance from a directory with a device tree of its own, each
transaction from a directory of texts, and the IOMMU group of a PCI device from
a symbolic link and the directory of the group.

Device trees are taken as the `fdt` crate presents them: nodes with properties
and children. Which node the crate finds under a path, in which order it lists
all nodes, and which text it reads in a property, is left open.
-/

namespace Kernmux.Core

open Library

/-! ### Device trees -/

/-- A node of a device tree. -/
inductive FdtNode
  | mk (name : String) (properties : List NodeProperty) (children : List FdtNode)

namespace FdtNode

def name : FdtNode → String
  | mk name _ _ => name

def properties : FdtNode → List NodeProperty
  | mk _ properties _ => properties

def children : FdtNode → List FdtNode
  | mk _ _ children => children

def property (node : FdtNode) (name : String) : Option NodeProperty :=
  node.properties.find? fun property => property.name = name

end FdtNode

/-- A tree that was parsed: the node under a path, and all nodes. -/
structure Fdt where
  findNode : String → Option FdtNode
  allNodes : List FdtNode

def propertyOptionalU32 (property : Option NodeProperty) (name : String) :
    Except InventoryError (Option UInt32) :=
  match property with
  | none => .ok none
  | some property => do return some (← propertyU32 (some property) name)

/-- The text in a property, as `asStr` reads it. -/
def propertyString (asStr : NodeProperty → Option String) (property : Option NodeProperty)
    (name : String) : Except InventoryError String :=
  okOr (property.bind asStr) (invalid ("missing or invalid " ++ name))

/-! ### Files -/

/-- The first thing that is wrong with digits. -/
def digitError (limit : ℕ) : ℕ → List Char → String
  | _, [] => "invalid digit found in string"
  | value, digit :: rest =>
      if digit.isDigit = false then "invalid digit found in string"
      else if limit ≤ value * 10 + (digit.toNat - '0'.toNat) then
        "number too large to fit in target type"
      else digitError limit (value * 10 + (digit.toNat - '0'.toNat)) rest

/-- What is wrong with a text that is not a number below `limit`. -/
def parseIntError (limit : ℕ) (text : String) : String :=
  match text.toList with
  | [] => "cannot parse integer from empty string"
  | '+' :: digits => digitError limit 0 digits
  | digits => digitError limit 0 digits

/-- The last name of a path. -/
def fileName (path : PathBuf) : Option OsString :=
  match (path.bytes.splitOn 47).reverse.dropWhile fun part => part = [] ∨ part = [46] with
  | [] => none
  | part :: _ => if part = [46, 46] then none else some ⟨part⟩

structure DirEntry where
  fileName : OsString
  isDir : Except IoError Bool
  deriving DecidableEq

/-- A reader of the files below a root; the files are named from there. -/
structure MultikernelProbe where
  root : String
  readBytes : String → Except IoError (List UInt8)
  readDir : String → Except IoError (List (Except IoError DirEntry))
  readLink : String → Except IoError PathBuf
  /-- The tree in some bytes, or what is wrong with them. -/
  fdt : List UInt8 → Except String Fdt
  /-- The text in a property. -/
  asStr : NodeProperty → Option String
  /-- What the operating system says of a failure. -/
  describe : IoError → String
  /-- A text in quotation marks. -/
  quote : String → String

namespace MultikernelProbe

def path (probe : MultikernelProbe) (relative : String) : String :=
  if probe.root.toList.getLast?.all (· = '/') then probe.root ++ relative
  else probe.root ++ "/" ++ relative

/-- A failure of the operating system. -/
def ioError (probe : MultikernelProbe) (relative : String) (source : IoError) : InventoryError :=
  ⟨probe.path relative, probe.describe source⟩

def read (probe : MultikernelProbe) (relative : String) : Except InventoryError (List UInt8) :=
  mapErr (probe.ioError relative) (probe.readBytes relative)

def readToString (probe : MultikernelProbe) (relative : String) : Except IoError String := do
  let bytes ← probe.readBytes relative
  okOr (ofUtf8 bytes) (.ofKind .other)

def readTrimmed (probe : MultikernelProbe) (relative : String) : Except InventoryError String := do
  let value ← mapErr (probe.ioError relative) (probe.readToString relative)
  return trimText value

def readOptionalTrimmed (probe : MultikernelProbe) (relative : String) :
    Except InventoryError (Option String) :=
  match probe.readToString relative with
  | .ok value => .ok (some (trimText value))
  | .error source =>
      if source.kind = .notFound then .ok none else .error (probe.ioError relative source)

/-- The entries of a directory. -/
def entries (probe : MultikernelProbe) (relative : String) :
    Except InventoryError (List DirEntry) := do
  let entries ← mapErr (probe.ioError relative) (probe.readDir relative)
  collectEach entries fun entry => mapErr (probe.ioError relative) entry

def parseFdt (probe : MultikernelProbe) (relative : String) (bytes : List UInt8) :
    Except InventoryError Fdt :=
  mapErr (fun error => ⟨probe.path relative, error⟩) (probe.fdt bytes)

/-- The number in a file. -/
def readNumber (probe : MultikernelProbe) (limit : ℕ) (base what : String) :
    Except InventoryError ℕ := do
  let value ← probe.readTrimmed (base ++ "/id")
  okOr (parseUnsigned limit value)
    ⟨base, "invalid " ++ what ++ " id: " ++ parseIntError limit value⟩

/-! ### Devices -/

def groupLink (pciId : String) : String := "sys/bus/pci/devices/" ++ pciId ++ "/iommu_group"

def groupDirectory (group : ℕ) : String :=
  "sys/kernel/iommu_groups/" ++ toString group ++ "/devices"

/-- The group that a device is linked to. -/
def linkedGroup (probe : MultikernelProbe) (link : String) (target : PathBuf) :
    Except InventoryError UInt32 := do
  let name ← okOr ((fileName target).bind OsString.toStr)
    ⟨probe.path link, "IOMMU group target has no numeric ID"⟩
  let id ← okOr (parseUnsigned (2 ^ 32) name)
    ⟨probe.path link, "invalid IOMMU group ID: " ++ parseIntError (2 ^ 32) name⟩
  return .ofNat id

def readIommuGroup (probe : MultikernelProbe) (pciId : String) :
    Except InventoryError (Option (UInt32 × List String)) :=
  match probe.readLink (groupLink pciId) with
  | .error source =>
      if source.kind = .notFound then .ok none
      else .error (probe.ioError (groupLink pciId) source)
  | .ok target => do
      let id ← probe.linkedGroup (groupLink pciId) target
      let members ← probe.entries (groupDirectory id.toNat)
      return some (id, (members.map (·.fileName.toStringLossy)).insertionSort (· ≤ ·))

def readDevice (probe : MultikernelProbe) (node : FdtNode) :
    Except InventoryError PciDeviceObservation := do
  let pciId ← propertyString probe.asStr (node.property "pci-id") "pci-id"
  let iommuGroup ← probe.readIommuGroup pciId
  let vendorId ← propertyOptionalU32 (node.property "vendor-id") "vendor-id"
  let deviceId ← propertyOptionalU32 (node.property "device-id") "device-id"
  return {
    poolName := node.name
    pciId
    vendorId
    deviceId
    iommuGroup := iommuGroup.map Prod.fst
    iommuGroupMembers := (iommuGroup.map Prod.snd).getD [] }

/-- The devices of a pool or of an instance. -/
def readDevices (probe : MultikernelProbe) (resources : FdtNode) :
    Except InventoryError (List PciDeviceObservation) :=
  match resources.children.find? fun node => node.name = "devices" with
  | none => .ok []
  | some devices => collectEach devices.children probe.readDevice

/-! ### The pool -/

def readMemoryRegion (node : FdtNode) : Except InventoryError MemoryRegionObservation := do
  let cells ← propertyCells (node.property "reg") "reg"
  match cells with
  | [baseHigh, baseLow, bytesHigh, bytesLow] => do
      let numaNode ← propertyU32 (node.property "numa-node-id") "numa-node-id"
      return ⟨joinCells baseHigh baseLow, joinCells bytesHigh bytesLow, numaNode⟩
  | cells =>
      throw (invalid ("memory reg must contain four cells, found " ++ toString cells.length))

def isMemory (node : FdtNode) : Bool := (stripPrefix "memory@" node.name).isSome

def readResourcePool (probe : MultikernelProbe) :
    Except InventoryError ResourcePoolObservation := do
  let relative := "sys/fs/multikernel/device_tree"
  let bytes ← probe.read relative
  let tree ← probe.parseFdt relative bytes
  match tree.findNode "/resources" with
  | none => return ⟨[], [], [], []⟩
  | some resources => do
      let cpus ← propertyHardwareIds (resources.property "cpus") "cpus"
      let available ← propertyHardwareIds (resources.property "cpus-available") "cpus-available"
      let regions ← collectEach (resources.children.filter isMemory) readMemoryRegion
      let devices ← probe.readDevices resources
      return {
        cpuHardwareIds := cpus.insertionSort (· ≤ ·)
        availableCpuHardwareIds := available.insertionSort (· ≤ ·)
        memoryRegions := regions.insertionSort (·.base ≤ ·.base)
        devices }

/-! ### Instances -/

end MultikernelProbe

def InstanceLifecycleState.parse (quote : String → String) (value : String) :
    Except InventoryError InstanceLifecycleState :=
  if value = "ready" then .ok .ready
  else if value = "loaded" then .ok .loaded
  else if value = "active" then .ok .active
  else .error ⟨"status", "unknown instance state " ++ quote value⟩

def TransactionStatus.parse (quote : String → String) (value : String) :
    Except InventoryError TransactionStatus :=
  if value = "pending" then .ok .pending
  else if value = "applied" then .ok .applied
  else if value = "rolled_back" ∨ value = "rolled-back" then .ok .rolledBack
  else if value = "failed" then .ok .failed
  else .error ⟨"transaction status", "unknown transaction status " ++ quote value⟩

/-- An image is there in the states after loading. -/
def InstanceLifecycleState.hasImage : InstanceLifecycleState → Bool
  | .ready => false
  | .loaded | .active => true

namespace MultikernelProbe

/-- The node of an instance's resources: the one under its name, or else any. -/
def instanceResources (tree : Fdt) (name : String) : Option FdtNode :=
  (tree.findNode ("/" ++ name ++ "/resources")).or
    (tree.allNodes.find? fun node => node.name = "resources")

/-- One directory of an instance. -/
def readInstance (probe : MultikernelProbe) (base name : String) :
    Except InventoryError InstanceObservation := do
  let id ← probe.readNumber (2 ^ 32) base "instance"
  let status ← probe.readTrimmed (base ++ "/status")
  let state ← InstanceLifecycleState.parse probe.quote status
  let bytes ← probe.read (base ++ "/device_tree")
  let tree ← probe.parseFdt (base ++ "/device_tree") bytes
  let resources ← okOr (instanceResources tree name)
    ⟨base ++ "/device_tree", "missing resources node"⟩
  let cpus ← propertyHardwareIds (resources.property "cpus") "cpus"
  let memoryBase ← propertyU64 (resources.property "memory-base") "memory-base"
  let memoryBytes ← propertyU64 (resources.property "memory-bytes") "memory-bytes"
  let devices ← probe.readDevices resources
  return {
    id := .ofNat id
    name
    state
    resources := {
      cpuHardwareIds := cpus.insertionSort (· ≤ ·)
      memoryBase
      memoryBytes
      devices }
    image := ⟨state.hasImage⟩ }

/-- What is read of one entry. -/
def visitEntry {α : Type} (probe : MultikernelProbe) (relative : String) (wanted : String → Bool)
    (visit : String → String → Except InventoryError α) (entry : Except IoError DirEntry) :
    Except InventoryError (Option α) := do
  let entry ← mapErr (probe.ioError relative) entry
  let name := entry.fileName.toStringLossy
  let isDir ← mapErr (probe.ioError (relative ++ "/" ++ name)) entry.isDir
  if isDir = true ∧ wanted name = true then return some (← visit (relative ++ "/" ++ name) name)
  else return none

/-- The wanted directories of a directory, one after the other. -/
def readEach {α : Type} (probe : MultikernelProbe) (relative : String) (wanted : String → Bool)
    (visit : String → String → Except InventoryError α) : Except InventoryError (List α) := do
  let entries ← mapErr (probe.ioError relative) (probe.readDir relative)
  let found ← collectEach entries (probe.visitEntry relative wanted visit)
  return found.reduceOption

def readInstances (probe : MultikernelProbe) : Except InventoryError (List InstanceObservation) := do
  let instances ← probe.readEach "sys/fs/multikernel/instances" (fun _ => true) probe.readInstance
  return instances.insertionSort (·.id ≤ ·.id)

/-! ### Transactions -/

/-- One directory of a transaction. -/
def readTransaction (probe : MultikernelProbe) (base _name : String) :
    Except InventoryError TransactionObservation := do
  let id ← probe.readNumber (2 ^ 64) base "transaction"
  let value ← probe.readTrimmed (base ++ "/status")
  let status ← TransactionStatus.parse probe.quote value
  let instancePath ← probe.readOptionalTrimmed (base ++ "/instance")
  let resources ← probe.readOptionalTrimmed (base ++ "/resources")
  return {
    id := .ofNat id
    status
    instancePath
    resourceSummary := resources.filter (· ≠ "unknown") }

def isTransaction (name : String) : Bool := (stripPrefix "tx_" name).isSome

def readTransactions (probe : MultikernelProbe) :
    Except InventoryError (List TransactionObservation) := do
  let transactions ←
    probe.readEach "sys/fs/multikernel/overlays" isTransaction probe.readTransaction
  return transactions.insertionSort (·.id ≤ ·.id)

/-! ### Everything -/

def observe (probe : MultikernelProbe) : Except InventoryError MultikernelObservation := do
  let pool ← probe.readResourcePool
  let instances ← probe.readInstances
  let transactions ← probe.readTransactions
  return ⟨pool, instances, transactions⟩

end MultikernelProbe

end Kernmux.Core
