import Kernmux.Library.Word

/-!
# Kernmux.Api.V1

Version 1 of the host-management contract: the records that the daemon
exchanges with its clients and keeps in memory. Integers have the width the
contract gives them, identifiers stay distinct types, and every enumeration
keeps the catch-all constructor that an unknown wire value decodes to.
-/

namespace Kernmux.Api.V1

open Library

/-! ### Identifiers -/

/-- Generation of an authoritative host snapshot. -/
structure Generation where
  val : UInt64
  deriving DecidableEq, Repr

/-- Monotonic sequence number in the host event stream. -/
structure EventSequence where
  val : UInt64
  deriving DecidableEq, Repr

/-- Stable identifier assigned to a managed kernel instance. -/
structure InstanceId where
  val : UInt32
  deriving DecidableEq, Repr

/-- Stable identifier assigned to an asynchronous operation. -/
structure OperationId where
  val : String
  deriving DecidableEq, Repr

/-! ### Diagnostics and errors -/

inductive DiagnosticSeverity
  | info
  | warning
  | error
  | unknown
  deriving DecidableEq, Repr

/-- Diagnostic suitable for presentation after redaction by the service. -/
structure Diagnostic where
  code : String
  severity : DiagnosticSeverity
  message : String
  detail : Option String
  redacted : Bool
  deriving DecidableEq, Repr

/-- Stable category of API failure. -/
inductive ErrorCode
  | invalidRequest
  | unauthorized
  | forbidden
  | notFound
  | conflict
  | preconditionFailed
  | unsupported
  | backendUnavailable
  | timeout
  | internal
  | unknown
  deriving DecidableEq, Repr

/-- Stable error returned by the management API. -/
structure ApiError where
  code : ErrorCode
  message : String
  retryable : Bool
  currentGeneration : Option Generation
  diagnostics : List Diagnostic
  deriving DecidableEq, Repr

/-! ### Host inventory -/

/-- Confidence in the freshness of an authoritative host snapshot. -/
inductive SnapshotHealth
  | healthy
  | indeterminate
  | unknown
  deriving DecidableEq, Repr

/-- Identity and compatibility information for the running control kernel. -/
structure KernelInfo where
  release : String
  multikernelEnabled : Bool
  deriving DecidableEq, Repr

/-- Runtime capability advertised by the host service. -/
inductive Capability
  | multikernel
  | instanceLifecycle
  | dynamicResources
  | transactionRollback
  | console
  | deviceAssignment
  | sharedMemory
  | unknown
  deriving DecidableEq, Repr

/-- One logical CPU and the hardware identifiers needed for assignment. -/
structure Cpu where
  logicalId : UInt32
  hardwareId : UInt32
  packageId : UInt32
  coreId : UInt32
  threadIndex : UInt32
  numaNode : UInt32
  online : Bool
  deriving DecidableEq, Repr

/-- Memory and CPU membership of one NUMA node. -/
structure NumaNode where
  id : UInt32
  logicalCpuIds : List UInt32
  totalMemoryBytes : UInt64
  availableMemoryBytes : UInt64
  deriving DecidableEq, Repr

/-- CPU and NUMA topology used for placement and conflict validation. -/
structure CpuTopology where
  architecture : String
  cpus : List Cpu
  numaNodes : List NumaNode
  deriving DecidableEq, Repr

/-- Host-wide memory totals and the assignable Multikernel pool. -/
structure HostMemory where
  totalBytes : UInt64
  hostReservedBytes : UInt64
  assignableBytes : UInt64
  assignedBytes : UInt64
  deriving DecidableEq, Repr

/-- One PCI device delegated to the Multikernel resource hierarchy. -/
structure PciDevice where
  pciId : String
  poolName : String
  vendorId : Option UInt32
  deviceId : Option UInt32
  iommuGroup : Option UInt32
  iommuGroupMembers : List String
  deriving DecidableEq, Repr

/-- One contiguous memory region delegated to the resource pool. -/
structure MemoryRegion where
  base : UInt64
  bytes : UInt64
  numaNode : UInt32
  deriving DecidableEq, Repr

/-- Resources delegated to peer kernels. -/
structure ResourcePool where
  cpuHardwareIds : List UInt32
  availableCpuHardwareIds : List UInt32
  memoryRegions : List MemoryRegion
  devices : List PciDevice
  availableDeviceIds : List String
  deriving DecidableEq, Repr

/-- Lifecycle state observed from authoritative kernel state. -/
inductive InstanceState
  | absent
  | ready
  | loaded
  | active
  | unknown
  deriving DecidableEq, Repr

/-- Resources assigned to an instance. -/
structure ResourceAllocation where
  cpuHardwareIds : List UInt32
  memoryBase : Option UInt64
  memoryBytes : UInt64
  memoryRegion : Option String
  deviceIds : List String
  deriving DecidableEq, Repr

/-- Kernel image state authoritatively reported for an instance. -/
structure KernelImage where
  present : Bool
  deriving DecidableEq, Repr

/-- One managed peer-kernel instance. -/
structure Instance where
  id : InstanceId
  name : String
  generation : Generation
  state : InstanceState
  resources : ResourceAllocation
  image : KernelImage
  deriving DecidableEq, Repr

/-- State of a resource transaction. -/
inductive TransactionState
  | planned
  | applied
  | rolledBack
  | failed
  | unknown
  deriving DecidableEq, Repr

/-- Result of an atomic resource transaction. -/
structure Transaction where
  id : String
  state : TransactionState
  generationBefore : Option Generation
  generationAfter : Option Generation
  diagnostics : List Diagnostic
  deriving DecidableEq, Repr

/-! ### Requests -/

/-- Semantic use of one immutable image artifact. -/
inductive ImageKind
  | kernel
  | initrd
  | unknown
  deriving DecidableEq, Repr

/-- On-disk representation accepted for a deployable operating-system image. -/
inductive OsImageFormat
  | raw
  | qcow2
  | unknown
  deriving DecidableEq, Repr, Ord

/-- Replaces the Multikernel CPU and memory resource pool. -/
structure ResourcePoolMutation where
  expectedGeneration : Generation
  cpuHardwareIds : List UInt32
  memoryBytes : UInt64
  deriving DecidableEq, Repr

/-- Creates one peer-kernel instance from resources already in the pool. -/
structure CreateInstanceMutation where
  expectedGeneration : Generation
  id : InstanceId
  name : String
  cpuHardwareIds : List UInt32
  memoryBytes : UInt64
  deriving DecidableEq, Repr

/-- Replaces selected resources of a ready instance. -/
structure UpdateInstanceMutation where
  expectedGeneration : Generation
  cpuHardwareIds : Option (List UInt32)
  memoryBytes : Option UInt64
  deviceIds : Option (List String)
  dryRun : Bool
  deriving DecidableEq, Repr

/-- Loads a kernel and optional initrd into a ready instance. -/
structure LoadInstanceMutation where
  expectedGeneration : Generation
  kernelPath : String
  initrdPath : Option String
  commandLine : Option String
  deriving DecidableEq, Repr

/-- Loads an instance from immutable artifacts managed by the host. -/
structure LoadManagedImageMutation where
  expectedGeneration : Generation
  kernelId : String
  initrdId : Option String
  commandLine : Option String
  deriving DecidableEq, Repr

/-- Imports one administrator-controlled file into immutable image storage. -/
structure ImportImageMutation where
  expectedGeneration : Generation
  kind : ImageKind
  sourcePath : String
  expectedId : Option String
  deriving DecidableEq, Repr

/-- Imports one generic Linux disk image into immutable host storage. -/
structure ImportOsImageMutation where
  expectedGeneration : Generation
  sourcePath : String
  label : String
  architecture : Option String
  expectedId : Option String
  deriving DecidableEq, Repr

/-- Applies a lifecycle transition to an existing instance. -/
structure InstanceLifecycleMutation where
  expectedGeneration : Generation
  deriving DecidableEq, Repr

/-- Stops an active instance, optionally requesting a forced transition. -/
structure StopInstanceMutation where
  expectedGeneration : Generation
  force : Bool
  deriving DecidableEq, Repr

/-! ### Operations and events -/

/-- Requested class of host mutation. -/
inductive OperationKind
  | initializeResourcePool
  | releaseResourcePool
  | createInstance
  | updateInstance
  | loadInstance
  | startInstance
  | stopInstance
  | unloadInstance
  | deleteInstance
  | openConsole
  | importImage
  | importOsImage
  | unknown
  deriving DecidableEq, Repr

/-- Execution state of an asynchronous operation. -/
inductive OperationState
  | queued
  | running
  | succeeded
  | failed
  | cancelled
  | indeterminate
  | unknown
  deriving DecidableEq, Repr

/-- Kind of managed resource. -/
inductive ResourceKind
  | host
  | resourcePool
  | «instance»
  | device
  | console
  | image
  | osImage
  | unknown
  deriving DecidableEq, Repr

/-- Resource affected by an operation or event. -/
structure ResourceReference where
  kind : ResourceKind
  id : String
  deriving DecidableEq, Repr

/-- Local identity that requested a privileged operation. -/
structure Actor where
  uid : UInt32
  gid : UInt32
  label : Option String
  deriving DecidableEq, Repr

/-- One asynchronous host mutation. -/
structure Operation where
  id : OperationId
  kind : OperationKind
  state : OperationState
  progressPercent : Option UInt8
  expectedGeneration : Generation
  observedGeneration : Option Generation
  affectedResources : List ResourceReference
  error : Option ApiError
  actor : Option Actor
  auditId : Option String
  createdAt : String
  completedAt : Option String
  deriving DecidableEq, Repr

/-- Kind of state invalidation event. -/
inductive EventKind
  | snapshotChanged
  | capabilitiesChanged
  | instanceChanged
  | operationChanged
  | streamOverflow
  | unknown
  deriving DecidableEq, Repr

/-- Event indicating that clients may need to refresh authoritative state. -/
structure Event where
  sequence : EventSequence
  snapshotGeneration : Generation
  kind : EventKind
  resource : Option ResourceReference
  deriving DecidableEq, Repr

/-- True when this event directly follows `previous` without a gap and does not move the
snapshot generation backwards. -/
def Event.isContiguousAfter (event previous : Event) : Bool :=
  event.sequence.val == saturatingAdd previous.sequence.val 1 &&
    event.snapshotGeneration.val ≥ previous.snapshotGeneration.val

/-! ### Consoles -/

/-- Console features negotiated when a client attaches to an instance. -/
structure ConsoleCapabilities where
  binary : Bool
  resize : Bool
  deriving DecidableEq, Repr

/-- Metadata returned before the binary console stream begins. -/
structure ConsoleAttachment where
  instanceId : InstanceId
  capabilities : ConsoleCapabilities
  maxFrameBytes : UInt32
  deriving DecidableEq, Repr

/-- Terminal dimensions requested by an interactive client. -/
structure ConsoleSize where
  columns : UInt16
  rows : UInt16
  deriving DecidableEq, Repr

/-- Stable reason why a console stream became terminal. -/
inductive ConsoleCloseReason
  | clientDetached
  | endOfStream
  | instanceStopped
  | deviceUnavailable
  | transportError
  | unknown
  deriving DecidableEq, Repr

/-! ### Storage -/

/-- Machine-readable reason that a block device cannot be overwritten. -/
inductive StorageRejectionReason
  | notWholeDevice
  | virtualDevice
  | readOnly
  | zeroSized
  | mounted
  | hostRoot
  | swap
  | hasHolders
  | peerAssigned
  | incompleteIdentity
  | unknown
  deriving DecidableEq, Repr

/-- One Linux block device and the evidence used to decide deployment safety. -/
structure StorageDevice where
  name : String
  devicePath : String
  majorMinor : String
  sizeBytes : UInt64
  wholeDevice : Bool
  readOnly : Bool
  serial : Option String
  wwn : Option String
  transport : Option String
  pciId : Option String
  eligible : Bool
  rejectionReasons : List StorageRejectionReason
  deriving DecidableEq, Repr

/-- Block devices of the host, with a generation that their content determines. -/
structure StorageInventory where
  generation : Generation
  devices : List StorageDevice
  deriving DecidableEq, Repr

/-! ### The snapshot -/

/-- Authoritative view of one Multikernel host. -/
structure HostSnapshot where
  generation : Generation
  health : SnapshotHealth
  diagnostics : List Diagnostic
  kernel : KernelInfo
  capabilities : List Capability
  topology : CpuTopology
  memory : HostMemory
  resourcePool : ResourcePool
  instances : List Instance
  transactions : List Transaction
  operations : List Operation
  deriving DecidableEq, Repr

/-- Common response envelope for synchronous, asynchronous, and failed calls. -/
inductive Response (α : Type)
  | result (generation : Generation) (data : α)
  | accepted (operation : Operation)
  | error (error : ApiError)
  deriving DecidableEq, Repr

end Kernmux.Api.V1
