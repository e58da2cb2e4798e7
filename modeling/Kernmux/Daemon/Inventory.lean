import Kernmux.Api.V1
import Kernmux.Core.Observation

/-!
# Kernmux.Daemon.Inventory

Authoritative host snapshot assembly. A *source* is asked for observations and
may fail; the *service* turns what it gets into a snapshot stamped with a
generation and retains the last good one.

`settle` is the part of a refresh that is independent of the source: from the
retained snapshot and the result of one observation it computes the answer to
the caller and the snapshot retained afterwards.
-/

namespace Kernmux.Daemon.Inventory

open Api.V1 Kernmux.Core Library

/-! ### Mapping observations to the contract -/

def mapCapability : HostCapability → Capability
  | .multikernel => .multikernel
  | .instanceLifecycle => .instanceLifecycle
  | .transactions => .transactionRollback
  | .dynamicResources => .dynamicResources
  | .console => .console
  | .sharedMemory => .sharedMemory
  | .deviceAssignment => .deviceAssignment

def mapInstanceState : InstanceLifecycleState → InstanceState
  | .ready => .ready
  | .loaded => .loaded
  | .active => .active

def mapTransactionState : TransactionStatus → TransactionState
  | .pending => .planned
  | .applied => .applied
  | .rolledBack => .rolledBack
  | .failed => .failed

def mapTopology (observed : LinuxHostObservation) : CpuTopology where
  architecture := observed.architecture
  cpus := observed.cpus.map fun cpu =>
    { logicalId := cpu.logicalId
      hardwareId := cpu.hardwareId
      packageId := cpu.packageId
      coreId := cpu.coreId
      threadIndex := cpu.threadIndex
      numaNode := cpu.numaNode
      online := true }
  numaNodes := observed.numaNodes.map fun node =>
    { id := node.id
      logicalCpuIds := node.logicalCpuIds
      totalMemoryBytes := node.totalMemoryBytes
      availableMemoryBytes := node.availableMemoryBytes }

/-- Every device of the hierarchy: the free ones of the pool, then the ones that
instances hold. A device reported twice is taken from its last report. -/
def mapResourcePool (observed : MultikernelObservation) : ResourcePool where
  cpuHardwareIds := observed.pool.cpuHardwareIds
  availableCpuHardwareIds := observed.pool.availableCpuHardwareIds
  memoryRegions := observed.pool.memoryRegions.map fun region =>
    { base := region.base, bytes := region.bytes, numaNode := region.numaNode }
  devices :=
    (orderedValues PciDeviceObservation.pciId
      (observed.pool.devices ++ observed.instances.flatMap (·.resources.devices))).map
      fun device =>
        { pciId := device.pciId
          poolName := device.poolName
          vendorId := device.vendorId
          deviceId := device.deviceId
          iommuGroup := device.iommuGroup
          iommuGroupMembers := device.iommuGroupMembers }
  availableDeviceIds := observed.pool.devices.map (·.pciId)

def mapInstances (generation : Generation) (observed : MultikernelObservation) : List Instance :=
  observed.instances.map fun inst =>
    { id := ⟨inst.id⟩
      name := inst.name
      generation := generation
      state := mapInstanceState inst.state
      resources :=
        { cpuHardwareIds := inst.resources.cpuHardwareIds
          memoryBase := some inst.resources.memoryBase
          memoryBytes := inst.resources.memoryBytes
          memoryRegion := none
          deviceIds := inst.resources.devices.map (·.pciId) }
      image := { present := inst.image.present } }

def mapTransactions (observed : MultikernelObservation) : List Transaction :=
  observed.transactions.map fun transaction =>
    { id := toString transaction.id.toNat
      state := mapTransactionState transaction.status
      generationBefore := none
      generationAfter := none
      diagnostics := [] }

def assembleSnapshot (generation : Generation) (observed : HostObservations) : HostSnapshot :=
  let poolMemoryBytes := wrappingSum (observed.multikernel.pool.memoryRegions.map (·.bytes))
  let assignedMemoryBytes :=
    wrappingSum (observed.multikernel.instances.map (·.resources.memoryBytes))
  { generation := generation
    health := .healthy
    diagnostics := []
    kernel :=
      { release := observed.linux.kernelRelease
        multikernelEnabled := observed.linux.capabilities.supports .multikernel }
    capabilities := observed.linux.capabilities.iter.map mapCapability
    topology := mapTopology observed.linux
    memory :=
      { totalBytes := saturatingAdd observed.linux.memory.totalBytes poolMemoryBytes
        hostReservedBytes := observed.linux.memory.totalBytes
        assignableBytes := poolMemoryBytes
        assignedBytes := assignedMemoryBytes }
    resourcePool := mapResourcePool observed.multikernel
    instances := mapInstances generation observed.multikernel
    transactions := mapTransactions observed.multikernel
    operations := [] }

/-! ### Generations -/

/-- Forget the free memory of a NUMA node, which moves without any mutation. -/
def NumaNode.normalized (node : NumaNode) : NumaNode := { node with availableMemoryBytes := 0 }

/-- Everything of a snapshot whose change makes a new generation. -/
def generationRelevantState (snapshot : HostSnapshot) : HostSnapshot :=
  { snapshot with
    topology :=
      { snapshot.topology with
        numaNodes := snapshot.topology.numaNodes.map NumaNode.normalized } }

/-- The retained snapshot as it is handed out when the source fails. -/
def staleSnapshot (current : HostSnapshot) : HostSnapshot :=
  { current with
    health := .indeterminate
    diagnostics := [
      { code := "inventory_unavailable"
        severity := .error
        message := "host inventory refresh did not complete"
        detail := none
        redacted := true }] }

/-- The snapshot assembled from a good observation when `current` is retained. -/
def nextSnapshot (current : HostSnapshot) (observations : HostObservations) : HostSnapshot :=
  let sameGeneration := assembleSnapshot current.generation observations
  if generationRelevantState sameGeneration = generationRelevantState current then
    sameGeneration
  else
    assembleSnapshot ⟨saturatingAdd current.generation.val 1⟩ observations

/-- Answer and retained snapshot after one observation. -/
def settle {ε : Type} (current : Option HostSnapshot) (observed : Except ε HostObservations) :
    Except ε HostSnapshot × Option HostSnapshot :=
  match observed, current with
  | .error error, none => (.error error, none)
  | .error _, some current => (.ok (staleSnapshot current), some current)
  | .ok observations, some current =>
      (.ok (nextSnapshot current observations), some (nextSnapshot current observations))
  | .ok observations, none =>
      (.ok (assembleSnapshot ⟨1⟩ observations), some (assembleSnapshot ⟨1⟩ observations))

/-! ### The service -/

/-- Replaceable source of authoritative host observations, with its own state. -/
structure InventorySource (τ ε : Type) where
  observe : τ → Except ε HostObservations × τ

/-- Stateful snapshot builder that preserves generations for unchanged state. -/
structure InventoryService (τ : Type) where
  source : τ
  current : Option HostSnapshot

/-- Creates a service over an observation source. -/
def InventoryService.new {τ : Type} (source : τ) : InventoryService τ := ⟨source, none⟩

/-- Refreshes kernel truth and returns a generation-stamped snapshot. -/
def InventoryService.refresh {τ ε : Type} (source : InventorySource τ ε)
    (service : InventoryService τ) : Except ε HostSnapshot × InventoryService τ :=
  let observed := source.observe service.source
  let settled := settle service.current observed.1
  (settled.1, ⟨observed.2, settled.2⟩)

end Kernmux.Daemon.Inventory
