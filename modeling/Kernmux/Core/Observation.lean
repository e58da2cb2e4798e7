import Kernmux.Library.Ordered

/-!
# Kernmux.Core.Observation

What the two filesystem probes report: the Linux side of the control kernel
and the Multikernel resource tree. The probes parse procfs, sysfs and device
trees; the records here are what the daemon sees of that.
-/

namespace Kernmux.Core

/-! ### The Linux host -/

/-- Runtime feature discovered from Linux host interfaces. -/
inductive HostCapability
  | multikernel
  | instanceLifecycle
  | transactions
  | dynamicResources
  | console
  | sharedMemory
  | deviceAssignment
  deriving DecidableEq, Repr

/-- Every capability, in the order in which a set of them is iterated. -/
def HostCapability.all : List HostCapability :=
  [.multikernel, .instanceLifecycle, .transactions, .dynamicResources, .console, .sharedMemory,
    .deviceAssignment]

/-- Host interfaces discovered at runtime: a set, held as the ascending list of its
members. -/
structure HostCapabilities where
  supported : List HostCapability
  ordered : HostCapability.all.filter (· ∈ supported) = supported
  deriving DecidableEq, Repr

/-- Whether the host advertises a capability. -/
def HostCapabilities.supports (capabilities : HostCapabilities) (capability : HostCapability) :
    Bool :=
  capability ∈ capabilities.supported

/-- Supported capabilities in stable order. -/
def HostCapabilities.iter (capabilities : HostCapabilities) : List HostCapability :=
  capabilities.supported

/-- One online logical CPU. -/
structure CpuObservation where
  logicalId : UInt32
  hardwareId : UInt32
  packageId : UInt32
  coreId : UInt32
  threadIndex : UInt32
  numaNode : UInt32
  deriving DecidableEq, Repr

/-- One NUMA node. -/
structure NumaNodeObservation where
  id : UInt32
  logicalCpuIds : List UInt32
  totalMemoryBytes : UInt64
  availableMemoryBytes : UInt64
  deriving DecidableEq, Repr

/-- Host memory totals observed from procfs. -/
structure HostMemoryObservation where
  totalBytes : UInt64
  availableBytes : UInt64
  deriving DecidableEq, Repr

/-- Normalized Linux observations before Multikernel inventory is merged. -/
structure LinuxHostObservation where
  kernelRelease : String
  architecture : String
  capabilities : HostCapabilities
  cpus : List CpuObservation
  numaNodes : List NumaNodeObservation
  memory : HostMemoryObservation
  deriving DecidableEq, Repr

/-! ### The Multikernel tree -/

/-- Lifecycle state reported by Multikernel sysfs. -/
inductive InstanceLifecycleState
  | ready
  | loaded
  | active
  deriving DecidableEq, Repr

/-- Kernel transaction status. -/
inductive TransactionStatus
  | pending
  | applied
  | rolledBack
  | failed
  deriving DecidableEq, Repr

/-- One PCI device managed by the Multikernel resource hierarchy. -/
structure PciDeviceObservation where
  poolName : String
  pciId : String
  vendorId : Option UInt32
  deviceId : Option UInt32
  iommuGroup : Option UInt32
  iommuGroupMembers : List String
  deriving DecidableEq, Repr

/-- One contiguous memory region in the resource pool. -/
structure MemoryRegionObservation where
  base : UInt64
  bytes : UInt64
  numaNode : UInt32
  deriving DecidableEq, Repr

/-- Resources delegated from the control kernel to the Multikernel pool. -/
structure ResourcePoolObservation where
  cpuHardwareIds : List UInt32
  availableCpuHardwareIds : List UInt32
  memoryRegions : List MemoryRegionObservation
  devices : List PciDeviceObservation
  deriving DecidableEq, Repr

/-- Resources assigned to one instance. -/
structure InstanceResourceObservation where
  cpuHardwareIds : List UInt32
  memoryBase : UInt64
  memoryBytes : UInt64
  devices : List PciDeviceObservation
  deriving DecidableEq, Repr

/-- Image state that can be authoritatively observed from the kernel. -/
structure KernelImageObservation where
  present : Bool
  deriving DecidableEq, Repr

/-- One peer-kernel instance discovered from sysfs. -/
structure InstanceObservation where
  id : UInt32
  name : String
  state : InstanceLifecycleState
  resources : InstanceResourceObservation
  image : KernelImageObservation
  deriving DecidableEq, Repr

/-- Transaction retained by the Multikernel overlay filesystem. -/
structure TransactionObservation where
  id : UInt64
  status : TransactionStatus
  instancePath : Option String
  resourceSummary : Option String
  deriving DecidableEq, Repr

/-- Normalized Multikernel observations. -/
structure MultikernelObservation where
  pool : ResourcePoolObservation
  instances : List InstanceObservation
  transactions : List TransactionObservation
  deriving DecidableEq, Repr

/-- A consistent pair of Linux and Multikernel observations. -/
structure HostObservations where
  linux : LinuxHostObservation
  multikernel : MultikernelObservation
  deriving DecidableEq, Repr

end Kernmux.Core
