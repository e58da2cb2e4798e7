import Kernmux.Daemon.Router
import Kernmux.Library.Stream
import Mathlib.Data.List.Sort

/-!
# Kernmux.Daemon.StorageInventory

Fail-closed Linux block-device inventory for OS image deployment. Every entry
of `/sys/class/block` is looked at, and every reason not to overwrite it is
collected: use of the device itself and of the devices at and below its
canonical path, which are found by going through all entries again.

What the files of the host answer is given by `HostFiles` and does not change
during a call. `storageDevices` is the handler of the host API that asks for the
inventory.
-/

namespace Kernmux.Daemon

open Api.V1 Library

/-- What the files of a host answer. -/
structure HostFiles where
  readToString : PathBuf → Except IoError String
  /-- The names in a directory, each of which may fail to be read. -/
  readDir : PathBuf → Except IoError (List (Except IoError OsString))
  canonicalize : PathBuf → Except IoError PathBuf
  present : PathBuf → Bool

/-- Why no inventory can be given. -/
inductive StorageInventoryError
  | io (context : PathBuf) (source : IoError)
  | invalid (detail : OsString)
  | serialize
  deriving DecidableEq, Repr

namespace StorageInventoryError

/-- An invalid state that is described by a text. -/
def invalidText (detail : String) : StorageInventoryError := .invalid (.ofString detail)

end StorageInventoryError

/-- The inventory of block devices below a root. -/
structure LinuxStorageInventory where
  root : PathBuf
  sha256 : List UInt8 → Digest
  /-- The JSON of a list of devices. -/
  json : List StorageDevice → Option (List UInt8)

/-- Fallible steps of the inventory. -/
abbrev StorageM := Except StorageInventoryError

namespace LinuxStorageInventory

/-! ### Files -/

def readTrimmed (files : HostFiles) (path : PathBuf) : StorageM String := do
  let value ← mapErr (.io path) (files.readToString path)
  return trimText value

def optionalTrimmed (files : HostFiles) (path : PathBuf) : StorageM (Option String) :=
  match files.readToString path with
  | .ok value => .ok (if (trimText value).isEmpty then none else some (trimText value))
  | .error error => if error.kind = .notFound then .ok none else .error (.io path error)

def hasEntries (files : HostFiles) (path : PathBuf) : StorageM Bool :=
  match files.readDir path with
  | .ok [] => .ok false
  | .ok (.ok _ :: _) => .ok true
  | .ok (.error error :: _) => .error (.io path error)
  | .error error =>
      if error.kind = .notFound then
        .error (.invalid ((OsString.ofString "missing holders state: ").append path))
      else .error (.io path error)

def validMajorMinor (value : String) : StorageM Unit :=
  match splitOnce ':' value with
  | none => .error (.invalidText "invalid major:minor identity")
  | some (major, minor) =>
      rejectIf ((parseUnsigned (2 ^ 32) major).isNone = true ∨
        (parseUnsigned (2 ^ 32) minor).isNone = true) (.invalidText "invalid major:minor identity")

def validPciId (value : String) : Bool :=
  let bytes := utf8Bytes value
  bytes.length == 12 && bytes[4]? == some 58 && bytes[7]? == some 58 && bytes[10]? == some 46 &&
    bytes.zipIdx.all fun (byte, index) =>
      index == 4 || index == 7 || index == 10 || isAsciiHexDigit byte

variable (inventory : LinuxStorageInventory) (files : HostFiles)

def path (relative : String) : PathBuf :=
  inventory.root.join (.ofString (trimStartMatches '/' relative))

/-- The directory of all block devices. -/
def blockClass : PathBuf := inventory.path "sys/class/block"

/-! ### Tables -/

/-- The device and the mount point of a line. -/
def mountEntry (line : String) : StorageM (String × String) := do
  let fields := splitWhitespace line
  rejectIf (fields.length < 5) (.invalidText "malformed mountinfo")
  validMajorMinor (fields.getD 2 "")
  return (fields.getD 2 "", fields.getD 4 "")

def mounts : StorageM (List (String × String)) := do
  let path := inventory.path "proc/self/mountinfo"
  let text ← mapErr (.io path) (files.readToString path)
  collectEach (lines text) mountEntry

def swaps : StorageM (List String) := do
  let path := inventory.path "proc/swaps"
  let text ← mapErr (.io path) (files.readToString path)
  match lines text with
  | [] => .error (.invalidText "missing swaps header")
  | header :: rest => do
      rejectIf ((stripPrefix "Filename" header).isNone = true) (.invalidText "malformed swaps header")
      return rest.filterMap fun line => (splitWhitespace line).head?

/-! ### Devices at and below a path -/

/-- A path is the target or lies below it. -/
def atOrBelow (child target : PathBuf) : Bool :=
  components child = components target || startsWith child target

/-- An entry of the class directory and where it leads. -/
structure BlockEntry where
  name : OsString
  path : PathBuf
  child : PathBuf

def blockEntry (entry : Except IoError OsString) : StorageM BlockEntry := do
  let name ← mapErr (.io inventory.blockClass) entry
  let path := inventory.blockClass.join name
  let child ← mapErr (.io path) (files.canonicalize path)
  return ⟨name, path, child⟩

def blockEntries : StorageM (List (Except IoError OsString)) :=
  mapErr (.io inventory.blockClass) (files.readDir inventory.blockClass)

/-- The identity and the device path of an entry at or below the target. -/
def descendant (target : PathBuf) (entry : Except IoError OsString) :
    StorageM (Option (String × String)) := do
  let entry ← inventory.blockEntry files entry
  if atOrBelow entry.child target then do
    let id ← readTrimmed files (entry.path.join (.ofString "dev"))
    let name ← okOr entry.name.toStr (.invalidText "non-UTF-8 block device name")
    return some (id, "/dev/" ++ name)
  else return none

def descendants (target : PathBuf) : StorageM (List String × List String) := do
  let entries ← inventory.blockEntries files
  let found ← collectEach entries (inventory.descendant files target)
  return (found.reduceOption.map Prod.fst, found.reduceOption.map Prod.snd)

/-- Whether an entry is at or below the target and has holders. -/
def entryHasHolders (target : PathBuf) (entry : Except IoError OsString) : StorageM Bool := do
  let entry ← inventory.blockEntry files entry
  if atOrBelow entry.child target then hasEntries files (entry.path.join (.ofString "holders"))
  else return false

/-- The first entry with holders ends the search. -/
def anyHolders (target : PathBuf) : List (Except IoError OsString) → StorageM Bool
  | [] => .ok false
  | entry :: rest => do
      if ← inventory.entryHasHolders files target entry then return true
      else anyHolders target rest

def descendantHasHolders (target : PathBuf) : StorageM Bool := do
  let entries ← inventory.blockEntries files
  inventory.anyHolders files target entries

/-! ### Devices -/

/-- The PCI functions on the way to a device, from the root on. -/
def pciIds (target : PathBuf) : List String :=
  ((components target).filterMap fun part => (OsString.mk part).toStr).filter validPciId

/-- The path leads through the directory of virtual devices. -/
def isVirtual (target : PathBuf) : Bool :=
  target.bytes.tails.any fun rest => (utf8Bytes "/devices/virtual/").isPrefixOf rest

/-- Reasons in their order, each with the condition under which it is given. -/
def collectReasons (reasons : List (Bool × StorageRejectionReason)) : List StorageRejectionReason :=
  (reasons.filter Prod.fst).map Prod.snd

/-- What is in use on the host, and what its peers have. -/
structure UseTables where
  mounted : List String
  roots : List String
  swaps : List String
  peers : List String

def device (use : UseTables) (name : String) : StorageM StorageDevice := do
  rejectIf (name = "" ∨ '/' ∈ name.toList) (.invalidText "invalid block device name")
  let node := inventory.path ("sys/class/block/" ++ name)
  let file (relative : String) : PathBuf := node.join (.ofString relative)
  let target ← mapErr (.io node) (files.canonicalize node)
  let majorMinor ← readTrimmed files (file "dev")
  validMajorMinor majorMinor
  let size ← readTrimmed files (file "size")
  let sectors ← okOr (parseUnsigned (2 ^ 64) size) (.invalidText ("invalid size for " ++ name))
  rejectIf (2 ^ 64 ≤ sectors * 512) (.invalidText ("size overflow for " ++ name))
  let sizeBytes := UInt64.ofNat (sectors * 512)
  let ro ← readTrimmed files (file "ro")
  let ro ← okOr (parseUnsigned (2 ^ 8) ro) (.invalidText ("invalid read-only state for " ++ name))
  let readOnly := decide (ro ≠ 0)
  let wholeDevice := !files.present (file "partition")
  let (ids, paths) ← inventory.descendants files target
  let devicePath := "/dev/" ++ name
  let pciId := (pciIds target).head?
  let hasHolders ← inventory.descendantHasHolders files target
  let reasons := collectReasons
    [(!wholeDevice, .notWholeDevice), (isVirtual target, .virtualDevice), (readOnly, .readOnly),
      (sizeBytes = 0, .zeroSized),
      (ids.any (· ∈ use.mounted), .mounted),
      (ids.any (· ∈ use.roots), .hostRoot),
      (devicePath ∈ use.swaps || paths.any (· ∈ use.swaps), .swap),
      (hasHolders, .hasHolders),
      (pciId.any (· ∈ use.peers), .peerAssigned),
      (majorMinor.isEmpty || (utf8Bytes devicePath).length ≤ 5, .incompleteIdentity)]
  let serial ← optionalTrimmed files (file "device/serial")
  let wwid ← optionalTrimmed files (file "wwid")
  let deviceWwid ← optionalTrimmed files (file "device/wwid")
  let transport ← optionalTrimmed files (file "device/transport")
  return {
    name := name
    devicePath := devicePath
    majorMinor := majorMinor
    sizeBytes := sizeBytes
    wholeDevice := wholeDevice
    readOnly := readOnly
    serial := serial
    wwn := wwid.or deviceWwid
    transport := transport
    pciId := pciId
    eligible := reasons.isEmpty
    rejectionReasons := reasons }

/-- The device of an entry whose name is text. -/
def namedDevice (use : UseTables) (name : OsString) : StorageM StorageDevice := do
  let name ← okOr name.toStr (.invalidText "non-UTF-8 block device name")
  inventory.device files use name

/-! ### The inventory -/

/-- The tables of the host, and the peers it is called with. -/
def useTables (mounts : List (String × String)) (swaps peers : List String) : UseTables where
  mounted := mounts.map Prod.fst
  roots := (mounts.filter fun mount => mount.2 = "/").map Prod.fst
  swaps := swaps
  peers := peers

/-- Observes block devices without opening a device for reading or writing. -/
def observe (peers : List String) : StorageM StorageInventory := do
  let mounts ← inventory.mounts files
  let swaps ← inventory.swaps files
  let entries ← inventory.blockEntries files
  let names ← collectEach entries (mapErr (.io inventory.blockClass))
  let sorted := names.insertionSort fun left right => left.bytes ≤ right.bytes
  let devices ← collectEach sorted (inventory.namedDevice files (useTables mounts swaps peers))
  let devices := devices.insertionSort fun left right => utf8Bytes left.name ≤ utf8Bytes right.name
  let encoded ← okOr (inventory.json devices) .serialize
  return {
    generation := ⟨UInt64.ofNat (fromBeBytes ((inventory.sha256 encoded).bytes.take 8))⟩
    devices := devices }

end LinuxStorageInventory

namespace HostApi

/-- The PCI functions that the instances of a snapshot have. -/
def peerPciIds (snapshot : HostSnapshot) : List String :=
  snapshot.instances.flatMap fun inst => inst.resources.deviceIds

/-- The block devices of the host, judged by the peers that a refreshed snapshot shows. -/
def storageDevices {ε : Type} (refreshed : Except ε HostSnapshot)
    (inventory : LinuxStorageInventory) (files : HostFiles) : Except ApiError StorageInventory := do
  let snapshot ← mapErr (fun _ => backend "host inventory is unavailable") refreshed
  mapErr (fun _ => backend "storage inventory is unavailable")
    (inventory.observe files (peerPciIds snapshot))

end HostApi

end Kernmux.Daemon
