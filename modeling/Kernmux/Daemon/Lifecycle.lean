import Kernmux.Daemon.Placement
import Kernmux.Library.Text

/-!
# Kernmux.Daemon.Lifecycle

Typed, shell-free planning of Kerf lifecycle commands. `plan` validates one
request against an authoritative snapshot and produces the argument vector to
run together with the state that a successful run must lead to.

Every validator is a sequence of guards in the order of the source, so the
first guard that fails decides the error. What an accepted request has passed
is stated once per planner (`planCreate_eq_ok`, `planUpdate_eq_ok`,
`of_planStateCommand_eq_ok`, …) and everything proved about accepted requests is
read off those inversions.
-/

namespace Kernmux.Daemon.Lifecycle

open Api.V1 Library Daemon.Placement

/-! ### Requests -/

/-- Common optimistic-concurrency fields for an instance mutation. -/
structure InstanceRequest where
  expectedGeneration : Generation
  id : InstanceId
  deriving DecidableEq, Repr

/-- Creates one peer-kernel resource domain. -/
structure CreateRequest where
  expectedGeneration : Generation
  id : InstanceId
  name : String
  cpuHardwareIds : List UInt32
  memoryBytes : UInt64
  deriving DecidableEq, Repr

/-- Replaces resources assigned to a ready instance. -/
structure UpdateRequest where
  inst : InstanceRequest
  cpuHardwareIds : Option (List UInt32)
  memoryBytes : Option UInt64
  deviceIds : Option (List String)
  dryRun : Bool
  deriving DecidableEq, Repr

/-- Loads a kernel image into a ready instance. -/
structure LoadRequest where
  inst : InstanceRequest
  kernel : PathBuf
  initrd : Option PathBuf
  cmdline : Option String
  deriving DecidableEq, Repr

/-- Stops an active peer kernel. -/
structure StopRequest where
  inst : InstanceRequest
  force : Bool
  deriving DecidableEq, Repr

/-- A lifecycle mutation accepted by the host service. -/
inductive LifecycleRequest
  | create (request : CreateRequest)
  | update (request : UpdateRequest)
  | load (request : LoadRequest)
  | start (request : InstanceRequest)
  | stop (request : StopRequest)
  | unload (request : InstanceRequest)
  | delete (request : InstanceRequest)
  deriving DecidableEq, Repr

/-- The snapshot generation a request was written against. -/
def LifecycleRequest.expectedGeneration : LifecycleRequest → Generation
  | create request => request.expectedGeneration
  | update request => request.inst.expectedGeneration
  | load request => request.inst.expectedGeneration
  | start request | unload request | delete request => request.expectedGeneration
  | stop request => request.inst.expectedGeneration

/-! ### Plans -/

/-- Expected authoritative state after a planned mutation. -/
inductive ExpectedState
  | «instance» (id : InstanceId) (state : InstanceState)
  | instanceResources (id : InstanceId) (state : InstanceState) (name : Option String)
      (cpuHardwareIds : Option (List UInt32)) (memoryBytes : Option UInt64)
      (deviceIds : Option (List String))
  | resourcePool (cpuHardwareIds : List UInt32) (memoryBytes : UInt64)
  | absent (id : InstanceId)
  deriving DecidableEq, Repr

/-- Executable Kerf argument vector and the state used to reconcile its result. -/
structure KerfInvocation where
  arguments : List OsString
  expectedState : ExpectedState
  mutatesKernel : Bool
  deriving DecidableEq, Repr

/-! ### Rejections -/

/-- A memory request that cannot be placed safely in authoritative pool state. -/
inductive MemoryPlacementError
  | insufficientAvailable (requestedBytes availableBytes : UInt64)
  | noContiguousPoolChunk (requestedBytes : UInt64)
  | missingInstanceBase (id : InstanceId)
  | leavesPoolChunk (base requestedBytes : UInt64)
  | overlapsInstance (peerName : String)
  | addressOverflow
  deriving DecidableEq, Repr

/-- A device replacement that cannot be applied safely. -/
inductive DevicePlacementError
  | emptySelection
  | invalidPciId (value : String)
  | duplicate
  | notManaged (pciId : String)
  | unavailable (pciId : String)
  | ownedByPeer (pciId peerName : String)
  | missingIommuGroup (pciId : String)
  | incompleteIommuGroup (pciId : String) (group : UInt32) (missing : List String)
  deriving DecidableEq, Repr

/-- Stable category for a rejected lifecycle plan. -/
inductive LifecyclePlanError
  | staleGeneration (expected actual : Generation)
  | invalidRequest (message : String)
  | cpuPlacement (error : CpuPlacementError)
  | memoryPlacement (error : MemoryPlacementError)
  | devicePlacement (error : DevicePlacementError)
  | notFound
  | alreadyExists
  | invalidState (required actual : InstanceState)
  deriving DecidableEq, Repr

def DevicePlacementError.errorCode : DevicePlacementError → ErrorCode
  | emptySelection | invalidPciId _ | duplicate => .invalidRequest
  | notManaged _ | unavailable _ | ownedByPeer _ _ | missingIommuGroup _
  | incompleteIommuGroup _ _ _ => .conflict

/-- Maps the rejection to the public API error contract. -/
def LifecyclePlanError.errorCode : LifecyclePlanError → ErrorCode
  | staleGeneration _ _ => .preconditionFailed
  | invalidRequest _ => .invalidRequest
  | notFound => .notFound
  | devicePlacement error => error.errorCode
  | cpuPlacement _ | memoryPlacement _ | alreadyExists | invalidState _ _ => .conflict

/-! ### Field checks -/

def validateId (id : InstanceId) : Except LifecyclePlanError Unit :=
  rejectIf (¬ (1 ≤ id.val ∧ id.val ≤ 511))
    (.invalidRequest "instance ID must be between 1 and 511")

/-- A byte that may stand in an instance name. -/
def isNameByte (byte : UInt8) : Bool :=
  isAsciiAlphanumeric byte || byte == 46 || byte == 95 || byte == 45

def validateName (name : String) : Except LifecyclePlanError Unit :=
  let bytes := utf8Bytes name
  let valid := !bytes.isEmpty && bytes.length ≤ 63 && bytes.all isNameByte
    && bytes.head?.any isAsciiAlphanumeric
  rejectIf (valid = false) (.invalidRequest "instance name contains unsupported characters")

def validateCpus (cpus : List UInt32) : Except LifecyclePlanError Unit :=
  rejectIf (cpus = [] ∨ (elements cpus).length ≠ cpus.length)
    (.invalidRequest "CPU allocation must be non-empty and contain no duplicates")

/-- Canonical lowercase `domain:bus:slot.function` address. -/
def isCanonicalPciId (value : String) : Bool :=
  let bytes := utf8Bytes value
  bytes.length == 12
    && bytes[4]? == some 58
    && bytes[7]? == some 58
    && bytes[10]? == some 46
    && bytes.zipIdx.all fun (byte, index) =>
        index == 4 || index == 7 || index == 10
          || isAsciiDigit byte || (97 ≤ byte && byte ≤ 102)

/-! ### Memory placement -/

/-- Sum of the values, refused as soon as a partial sum leaves 64 bits. -/
def checkedSum (values : List UInt64) : Except MemoryPlacementError UInt64 :=
  values.foldlM (fun total value => okOr (checkedAdd total value) .addressOverflow) 0

def validateCreateMemory (snapshot : HostSnapshot) (requestedBytes : UInt64) :
    Except MemoryPlacementError Unit := do
  let poolBytes ← checkedSum (snapshot.resourcePool.memoryRegions.map (·.bytes))
  let assignedBytes ← checkedSum (snapshot.instances.map (·.resources.memoryBytes))
  let availableBytes := saturatingSub poolBytes assignedBytes
  rejectIf (requestedBytes > availableBytes)
    (.insufficientAvailable requestedBytes availableBytes)
  rejectIf (¬ ∃ region ∈ snapshot.resourcePool.memoryRegions, region.bytes ≥ requestedBytes)
    (.noContiguousPoolChunk requestedBytes)

/-- The other instances of the snapshot. -/
def peers (snapshot : HostSnapshot) (inst : Instance) : List Instance :=
  snapshot.instances.filter (·.id ≠ inst.id)

/-- Whether `[base, requestedEnd)` stays inside one region of the pool. A region
whose own end leaves 64 bits contains nothing. -/
def remainsInChunk (region : MemoryRegion) (base requestedEnd : UInt64) : Bool :=
  match checkedAdd region.base region.bytes with
  | some chunkEnd => region.base ≤ base && requestedEnd ≤ chunkEnd
  | none => false

/-- The growth of an instance to `[base, requestedEnd)` must not touch `peer`. -/
def rejectOverlap (base requestedEnd : UInt64) (peer : Instance) :
    Except MemoryPlacementError Unit :=
  match peer.resources.memoryBase with
  | none =>
      rejectIf (peer.resources.memoryBytes ≠ 0) (.missingInstanceBase peer.id)
  | some peerBase => do
      let peerEnd ← okOr (checkedAdd peerBase peer.resources.memoryBytes) .addressOverflow
      rejectIf (base < peerEnd ∧ peerBase < requestedEnd) (.overlapsInstance peer.name)

def validateUpdateMemory (snapshot : HostSnapshot) (inst : Instance) (requestedBytes : UInt64) :
    Except MemoryPlacementError Unit :=
  if requestedBytes ≤ inst.resources.memoryBytes then .ok ()
  else do
    let base ← okOr inst.resources.memoryBase (.missingInstanceBase inst.id)
    let requestedEnd ← okOr (checkedAdd base requestedBytes) .addressOverflow
    rejectIf (¬ snapshot.resourcePool.memoryRegions.any (remainsInChunk · base requestedEnd))
      (.leavesPoolChunk base requestedBytes)
    checkEach (peers snapshot inst) (rejectOverlap base requestedEnd)

/-! ### Device placement -/

/-- A requested device must not be in use by `peer`. -/
def rejectPeerOwned (requested : List String) (peer : Instance) :
    Except DevicePlacementError Unit :=
  rejectSome (peer.resources.deviceIds.find? (· ∈ elements requested))
    (.ownedByPeer · peer.name)

/-- The device the pool manages under a PCI ID. -/
def managed (snapshot : HostSnapshot) (pciId : String) : Option PciDevice :=
  lookupLast PciDevice.pciId snapshot.resourcePool.devices pciId

/-- Members of a device's IOMMU group that the request leaves out or the pool does
not manage. -/
def missingMembers (snapshot : HostSnapshot) (requested : List String) (device : PciDevice) :
    List String :=
  device.iommuGroupMembers.filter fun member =>
    member ∉ elements requested || (managed snapshot member).isNone

/-- One requested device is managed, free or already owned, and requested with its
whole IOMMU group. -/
def validateUpdateDevice (snapshot : HostSnapshot) (inst : Instance) (requested : List String)
    (pciId : String) : Except DevicePlacementError Unit := do
  let device ← okOr (managed snapshot pciId) (.notManaged pciId)
  rejectIf (pciId ∉ elements snapshot.resourcePool.availableDeviceIds
      ∧ pciId ∉ elements inst.resources.deviceIds) (.unavailable pciId)
  let group ← okOr device.iommuGroup (.missingIommuGroup pciId)
  rejectIf (missingMembers snapshot requested device ≠ [])
    (.incompleteIommuGroup pciId group (missingMembers snapshot requested device))

def validateUpdateDevices (snapshot : HostSnapshot) (inst : Instance) (requested : List String) :
    Except DevicePlacementError Unit := do
  rejectIf (requested = []) .emptySelection
  rejectIf ((elements requested).length ≠ requested.length) .duplicate
  rejectSome (requested.find? fun pciId => !isCanonicalPciId pciId) .invalidPciId
  checkEach (peers snapshot inst) (rejectPeerOwned requested)
  checkEach requested (validateUpdateDevice snapshot inst requested)

/-! ### Argument vectors -/

/-- One `--flag=value` argument. -/
def option (flag value : String) : OsString := .ofString (flag ++ value)

def cpuList (cpus : List UInt32) : String :=
  ",".intercalate (cpus.map fun cpu => toString cpu.toNat)

def idOption (id : InstanceId) : OsString := option "--id=" (toString id.val.toNat)

/-- One `--flag=path` argument; the path need not be text. -/
def pathOption (flag : String) (value : PathBuf) : OsString := (OsString.ofString flag).append value

/-! ### Planners -/

def requireInstance (snapshot : HostSnapshot) (id : InstanceId) (required : InstanceState) :
    Except LifecyclePlanError Instance := do
  validateId id
  let inst ← okOr (snapshot.instances.find? (·.id = id)) .notFound
  rejectIf (inst.state ≠ required) (.invalidState required inst.state)
  return inst

def requireState (snapshot : HostSnapshot) (id : InstanceId) (required : InstanceState) :
    Except LifecyclePlanError Unit := do
  let _ ← requireInstance snapshot id required
  return ()

/-- The command of an accepted create request. -/
def createInvocation (request : CreateRequest) : KerfInvocation where
  arguments := [
    .ofString "create",
    .ofString request.name,
    option "--id=" (toString request.id.val.toNat),
    option "--cpus=" (cpuList request.cpuHardwareIds),
    option "--memory=" (toString request.memoryBytes.toNat)]
  expectedState := .instanceResources request.id .ready (some request.name)
    (some request.cpuHardwareIds) (some request.memoryBytes) none
  mutatesKernel := true

def planCreate (request : CreateRequest) (snapshot : HostSnapshot) :
    Except LifecyclePlanError KerfInvocation := do
  validateName request.name
  validateId request.id
  validateCpus request.cpuHardwareIds
  mapErr .cpuPlacement (validateInstanceCpus snapshot request.cpuHardwareIds [])
  rejectIf (request.memoryBytes = 0)
    (.invalidRequest "memory allocation must be greater than zero")
  rejectIf (∃ inst ∈ snapshot.instances, inst.id = request.id ∨ inst.name = request.name)
    .alreadyExists
  mapErr .memoryPlacement (validateCreateMemory snapshot request.memoryBytes)
  return createInvocation request

/-- The CPU part of an update: its checks and its argument. -/
def updateCpus (snapshot : HostSnapshot) (inst : Instance) :
    Option (List UInt32) → Except LifecyclePlanError (List OsString)
  | none => .ok []
  | some cpus => do
      validateCpus cpus
      mapErr .cpuPlacement (validateInstanceCpus snapshot cpus inst.resources.cpuHardwareIds)
      return [option "--cpus=" (cpuList cpus)]

/-- The memory part of an update: its checks and its argument. -/
def updateMemory (snapshot : HostSnapshot) (inst : Instance) :
    Option UInt64 → Except LifecyclePlanError (List OsString)
  | none => .ok []
  | some memory => do
      rejectIf (memory = 0) (.invalidRequest "memory allocation must be greater than zero")
      mapErr .memoryPlacement (validateUpdateMemory snapshot inst memory)
      return [option "--memory=" (toString memory.toNat)]

/-- The device part of an update: its checks and its argument. -/
def updateDevices (snapshot : HostSnapshot) (inst : Instance) :
    Option (List String) → Except LifecyclePlanError (List OsString)
  | none => .ok []
  | some devices => do
      mapErr .devicePlacement (validateUpdateDevices snapshot inst devices)
      return [option "--devices=" (",".intercalate devices)]

def planUpdate (request : UpdateRequest) (snapshot : HostSnapshot) :
    Except LifecyclePlanError KerfInvocation := do
  let inst ← requireInstance snapshot request.inst.id .ready
  validateName inst.name
  rejectIf (request.cpuHardwareIds = none ∧ request.memoryBytes = none ∧ request.deviceIds = none)
    (.invalidRequest "an update must specify CPU, memory, or device resources")
  let cpus ← updateCpus snapshot inst request.cpuHardwareIds
  let memory ← updateMemory snapshot inst request.memoryBytes
  let devices ← updateDevices snapshot inst request.deviceIds
  return {
    arguments := [.ofString "update", .ofString inst.name] ++ cpus ++ memory ++ devices
      ++ if request.dryRun then [.ofString "--dry-run"] else []
    expectedState := .instanceResources request.inst.id .ready none
      request.cpuHardwareIds request.memoryBytes request.deviceIds
    mutatesKernel := !request.dryRun }

/-- The initrd part of a load. -/
def loadInitrd : Option PathBuf → Except LifecyclePlanError (List OsString)
  | none => .ok []
  | some initrd => do
      rejectIf (initrd.isEmpty = true) (.invalidRequest "initrd path must not be empty")
      return [pathOption "--initrd=" initrd]

def planLoad (request : LoadRequest) (snapshot : HostSnapshot) :
    Except LifecyclePlanError KerfInvocation := do
  requireState snapshot request.inst.id .ready
  rejectIf (request.kernel.isEmpty = true) (.invalidRequest "kernel path must not be empty")
  let initrd ← loadInitrd request.initrd
  return {
    arguments := [.ofString "load", idOption request.inst.id,
      pathOption "--kernel=" request.kernel] ++ initrd
      ++ (request.cmdline.map (option "--cmdline=")).toList
    expectedState := .instance request.inst.id .loaded
    mutatesKernel := true }

def planStop (request : StopRequest) (snapshot : HostSnapshot) :
    Except LifecyclePlanError KerfInvocation := do
  requireState snapshot request.inst.id .active
  return {
    arguments := [.ofString "kill", idOption request.inst.id]
      ++ if request.force then [.ofString "--force"] else []
    expectedState := .instance request.inst.id .loaded
    mutatesKernel := true }

def planStateCommand (command : String) (request : InstanceRequest) (snapshot : HostSnapshot)
    (required expected : InstanceState) : Except LifecyclePlanError KerfInvocation := do
  requireState snapshot request.id required
  return {
    arguments := [.ofString command, idOption request.id]
    expectedState :=
      if expected = .absent then .absent request.id else .instance request.id expected
    mutatesKernel := true }

/-- The planner of each kind of request, once its generation is known to be
current. -/
def planRequest (snapshot : HostSnapshot) :
    LifecycleRequest → Except LifecyclePlanError KerfInvocation
  | .create request => planCreate request snapshot
  | .update request => planUpdate request snapshot
  | .load request => planLoad request snapshot
  | .start request => planStateCommand "exec" request snapshot .loaded .active
  | .stop request => planStop request snapshot
  | .unload request => planStateCommand "unload" request snapshot .loaded .ready
  | .delete request => planStateCommand "delete" request snapshot .ready .absent

/-- Validates a lifecycle request against an authoritative snapshot. -/
def plan (request : LifecycleRequest) (snapshot : HostSnapshot) :
    Except LifecyclePlanError KerfInvocation := do
  rejectIf (request.expectedGeneration ≠ snapshot.generation)
    (.staleGeneration request.expectedGeneration snapshot.generation)
  planRequest snapshot request

/-! ### What an accepted request has passed -/

section Accepted

variable {snapshot : HostSnapshot} {inst : Instance} {invocation : KerfInvocation}
  {arguments : List OsString}

theorem validateCpus_eq_ok {cpus : List UInt32} :
    validateCpus cpus = .ok () ↔ cpus ≠ [] ∧ cpus.Nodup := by
  simp only [validateCpus, rejectIf_eq_ok, not_or, ne_eq, not_not, length_elements_eq_iff]

theorem requireInstance_eq_ok {id : InstanceId} {required : InstanceState} :
    requireInstance snapshot id required = .ok inst ↔
      validateId id = .ok () ∧ snapshot.instances.find? (·.id = id) = some inst ∧
        inst.state = required := by
  rw [requireInstance, guard_eq_ok, bind_eq_ok]
  simp only [guard_eq_ok, okOr_eq_ok, rejectIf_eq_ok, pure_eq_ok, ne_eq, not_not]
  constructor
  · intro h
    obtain ⟨hid, found, hfound, hstate, rfl⟩ := h
    exact ⟨hid, hfound, hstate⟩
  · rintro ⟨hid, hfound, hstate⟩
    exact ⟨hid, inst, hfound, hstate, rfl⟩

/-- A create request names a new instance and asks for available CPUs. -/
structure CreateAccepted (request : CreateRequest) (snapshot : HostSnapshot) : Prop where
  name_valid : validateName request.name = .ok ()
  id_valid : validateId request.id = .ok ()
  cpus_valid : request.cpuHardwareIds ≠ [] ∧ request.cpuHardwareIds.Nodup
  cpus_available : ∀ cpu ∈ request.cpuHardwareIds,
    cpu ∈ snapshot.resourcePool.availableCpuHardwareIds
  memory_ne_zero : request.memoryBytes ≠ 0
  fresh : ∀ inst ∈ snapshot.instances, inst.id ≠ request.id ∧ inst.name ≠ request.name
  memory_fits : validateCreateMemory snapshot request.memoryBytes = .ok ()

theorem planCreate_eq_ok {request : CreateRequest} : planCreate request snapshot = .ok invocation ↔
      CreateAccepted request snapshot ∧ createInvocation request = invocation := by
  simp only [planCreate, guard_eq_ok, rejectIf_eq_ok, mapErr_eq_ok, pure_eq_ok,
    validateCpus_eq_ok, validateInstanceCpus_eq_ok, List.not_mem_nil, or_false, not_exists,
    not_and, not_or]
  constructor
  · intro h
    obtain ⟨hname, hid, hcpus, havail, hmem, hfresh, hfits, hinv⟩ := h
    exact ⟨⟨hname, hid, hcpus, havail, hmem, hfresh, hfits⟩, hinv⟩
  · rintro ⟨⟨hname, hid, hcpus, havail, hmem, hfresh, hfits⟩, hinv⟩
    exact ⟨hname, hid, hcpus, havail, hmem, hfresh, hfits, hinv⟩

/-- The CPUs an update may give to `inst`. -/
structure CpusAccepted (snapshot : HostSnapshot) (inst : Instance) (cpus : List UInt32) : Prop where
  valid : cpus ≠ [] ∧ cpus.Nodup
  available : ∀ cpu ∈ cpus, cpu ∈ snapshot.resourcePool.availableCpuHardwareIds ∨
    cpu ∈ inst.resources.cpuHardwareIds

theorem updateCpus_eq_ok {requested : Option (List UInt32)} :
    updateCpus snapshot inst requested = .ok arguments ↔
      (∀ cpus, requested = some cpus → CpusAccepted snapshot inst cpus) ∧
        (requested.map fun cpus => option "--cpus=" (cpuList cpus)).toList = arguments := by
  cases requested with
  | none => simp [updateCpus]
  | some cpus =>
      simp only [updateCpus, guard_eq_ok, mapErr_eq_ok, pure_eq_ok, validateCpus_eq_ok,
        validateInstanceCpus_eq_ok, Option.some.injEq, forall_eq', Option.map_some,
        Option.toList_some]
      constructor
      · intro h
        obtain ⟨hvalid, havail, hargs⟩ := h
        exact ⟨⟨hvalid, havail⟩, hargs⟩
      · rintro ⟨⟨hvalid, havail⟩, hargs⟩
        exact ⟨hvalid, havail, hargs⟩

theorem updateMemory_eq_ok {requested : Option UInt64} :
    updateMemory snapshot inst requested = .ok arguments ↔ (∀ memory, requested = some memory →
        memory ≠ 0 ∧ validateUpdateMemory snapshot inst memory = .ok ()) ∧
        (requested.map fun memory => option "--memory=" (toString memory.toNat)).toList =
          arguments := by
  cases requested with
  | none => simp [updateMemory]
  | some memory =>
      simp only [updateMemory, guard_eq_ok, rejectIf_eq_ok, mapErr_eq_ok, pure_eq_ok,
        Option.some.injEq, forall_eq', Option.map_some, Option.toList_some, and_assoc, ne_eq]

theorem updateDevices_eq_ok {requested : Option (List String)} :
    updateDevices snapshot inst requested = .ok arguments ↔
      (∀ devices, requested = some devices → validateUpdateDevices snapshot inst devices = .ok ()) ∧
        (requested.map fun devices => option "--devices=" (",".intercalate devices)).toList =
          arguments := by
  cases requested with
  | none => simp [updateDevices]
  | some devices =>
      simp only [updateDevices, guard_eq_ok, mapErr_eq_ok, pure_eq_ok, Option.some.injEq,
        forall_eq', Option.map_some, Option.toList_some]

/-- An update names a ready instance, asks for something, and everything it asks for
may be given to that instance. -/
structure UpdateAccepted (request : UpdateRequest) (snapshot : HostSnapshot) (inst : Instance) :
    Prop where
  found : requireInstance snapshot request.inst.id .ready = .ok inst
  name_valid : validateName inst.name = .ok ()
  nonempty : ¬ (request.cpuHardwareIds = none ∧ request.memoryBytes = none ∧
    request.deviceIds = none)
  cpus : ∀ cpus, request.cpuHardwareIds = some cpus → CpusAccepted snapshot inst cpus
  memory : ∀ memory, request.memoryBytes = some memory →
    memory ≠ 0 ∧ validateUpdateMemory snapshot inst memory = .ok ()
  devices : ∀ devices, request.deviceIds = some devices →
    validateUpdateDevices snapshot inst devices = .ok ()

/-- The command of an accepted update of an instance with this name. -/
def updateInvocation (request : UpdateRequest) (name : String) : KerfInvocation where
  arguments := [.ofString "update", .ofString name]
    ++ (request.cpuHardwareIds.map fun cpus => option "--cpus=" (cpuList cpus)).toList
    ++ (request.memoryBytes.map fun memory => option "--memory=" (toString memory.toNat)).toList
    ++ (request.deviceIds.map fun devices => option "--devices=" (",".intercalate devices)).toList
    ++ if request.dryRun then [.ofString "--dry-run"] else []
  expectedState := .instanceResources request.inst.id .ready none
    request.cpuHardwareIds request.memoryBytes request.deviceIds
  mutatesKernel := !request.dryRun

theorem planUpdate_eq_ok {request : UpdateRequest} :
    planUpdate request snapshot = .ok invocation ↔ ∃ inst, UpdateAccepted request snapshot inst ∧
        updateInvocation request inst.name = invocation := by
  rw [planUpdate, bind_eq_ok]
  refine exists_congr fun inst => ?_
  simp only [guard_eq_ok, rejectIf_eq_ok]
  simp only [bind_eq_ok, pure_eq_ok, updateCpus_eq_ok, updateMemory_eq_ok, updateDevices_eq_ok]
  constructor
  · intro h
    obtain ⟨hfound, hname, hsome, cpus, ⟨hcpus, rfl⟩, memory, ⟨hmemory, rfl⟩, devices,
      ⟨hdevices, rfl⟩, hinv⟩ := h
    exact ⟨⟨hfound, hname, hsome, hcpus, hmemory, hdevices⟩, hinv⟩
  · rintro ⟨⟨hfound, hname, hsome, hcpus, hmemory, hdevices⟩, hinv⟩
    exact ⟨hfound, hname, hsome, _, ⟨hcpus, rfl⟩, _, ⟨hmemory, rfl⟩, _, ⟨hdevices, rfl⟩, hinv⟩

theorem of_planLoad_eq_ok {request : LoadRequest} (h : planLoad request snapshot = .ok invocation) :
    requireState snapshot request.inst.id .ready = .ok () ∧
      invocation.expectedState = .instance request.inst.id .loaded ∧
      invocation.mutatesKernel = true := by
  rw [planLoad, guard_eq_ok, guard_eq_ok, bind_eq_ok] at h
  obtain ⟨hstate, -, initrd, -, hinv⟩ := h
  obtain rfl := pure_eq_ok.mp hinv
  exact ⟨hstate, rfl, rfl⟩

theorem of_planStop_eq_ok {request : StopRequest} (h : planStop request snapshot = .ok invocation) :
    requireState snapshot request.inst.id .active = .ok () ∧
      invocation.expectedState = .instance request.inst.id .loaded ∧
      invocation.mutatesKernel = true := by
  rw [planStop, guard_eq_ok] at h
  obtain ⟨hstate, hinv⟩ := h
  obtain rfl := pure_eq_ok.mp hinv
  exact ⟨hstate, rfl, rfl⟩

theorem of_planStateCommand_eq_ok {command : String} {request : InstanceRequest}
    {required expected : InstanceState}
    (h : planStateCommand command request snapshot required expected = .ok invocation) :
    requireState snapshot request.id required = .ok () ∧ invocation.expectedState =
        (if expected = .absent then .absent request.id else .instance request.id expected) ∧
      invocation.mutatesKernel = true := by
  rw [planStateCommand, guard_eq_ok] at h
  obtain ⟨hstate, hinv⟩ := h
  obtain rfl := pure_eq_ok.mp hinv
  exact ⟨hstate, rfl, rfl⟩

theorem plan_eq_ok {request : LifecycleRequest} :
    plan request snapshot = .ok invocation ↔ request.expectedGeneration = snapshot.generation ∧
        planRequest snapshot request = .ok invocation := by
  simp only [plan, guard_eq_ok, rejectIf_eq_ok, ne_eq, not_not]

/-- The state that each request asks for. -/
def LifecycleRequest.target : LifecycleRequest → ExpectedState
  | create request => .instanceResources request.id .ready (some request.name)
      (some request.cpuHardwareIds) (some request.memoryBytes) none
  | update request => .instanceResources request.inst.id .ready none
      request.cpuHardwareIds request.memoryBytes request.deviceIds
  | load request => .instance request.inst.id .loaded
  | start request => .instance request.id .active
  | stop request => .instance request.inst.id .loaded
  | unload request => .instance request.id .ready
  | delete request => .absent request.id

/-- Only a dry run leaves the kernel alone. -/
def LifecycleRequest.mutates : LifecycleRequest → Bool
  | update request => !request.dryRun
  | _ => true

/-- Every planner carries what its request asks for into the invocation. -/
theorem plan_target {request : LifecycleRequest} (h : plan request snapshot = .ok invocation) :
    invocation.expectedState = request.target ∧ invocation.mutatesKernel = request.mutates := by
  have hplan := (plan_eq_ok.mp h).2
  cases request with
  | create request =>
      obtain ⟨-, rfl⟩ := planCreate_eq_ok.mp hplan
      exact ⟨rfl, rfl⟩
  | update request =>
      obtain ⟨inst, -, rfl⟩ := planUpdate_eq_ok.mp hplan
      exact ⟨rfl, rfl⟩
  | load request => exact (of_planLoad_eq_ok hplan).2
  | stop request => exact (of_planStop_eq_ok hplan).2
  | start request | unload request | delete request => exact (of_planStateCommand_eq_ok hplan).2

end Accepted

end Kernmux.Daemon.Lifecycle
