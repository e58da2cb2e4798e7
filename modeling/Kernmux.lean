import Kernmux.Api.V1
import Kernmux.Client.Waiting
import Kernmux.Core.Observation
import Kernmux.Daemon.Artifact
import Kernmux.Daemon.Console
import Kernmux.Daemon.ConsoleProxy
import Kernmux.Daemon.ConsoleSound
import Kernmux.Daemon.CpuOwnership
import Kernmux.Daemon.DeviceGroups
import Kernmux.Daemon.EventStream
import Kernmux.Daemon.ExecutorSound
import Kernmux.Daemon.HostApi
import Kernmux.Daemon.HostApiSound
import Kernmux.Daemon.ImageCatalog
import Kernmux.Daemon.ImageStore
import Kernmux.Daemon.ImageStoreSound
import Kernmux.Daemon.Inventory
import Kernmux.Daemon.InventorySound
import Kernmux.Daemon.KerfProcess
import Kernmux.Daemon.KerfProcessSound
import Kernmux.Daemon.Lifecycle
import Kernmux.Daemon.LifecycleExecutor
import Kernmux.Daemon.MemoryIsolation
import Kernmux.Daemon.Operations
import Kernmux.Daemon.OperationsSound
import Kernmux.Daemon.Placement
import Kernmux.Daemon.RecordJson
import Kernmux.Daemon.ResourcePool
import Kernmux.Daemon.Router
import Kernmux.Daemon.Scheduler
import Kernmux.Daemon.Security
import Kernmux.Daemon.Tasks
import Kernmux.Daemon.TasksSound
import Kernmux.Daemon.Transport
import Kernmux.Daemon.Workers
import Kernmux.Daemon.WorkersSound
import Kernmux.Gateway.BrowserConsole
import Kernmux.Library.BoundedQueue
import Kernmux.Library.Cancellable
import Kernmux.Library.Disk
import Kernmux.Library.Faulty
import Kernmux.Library.Framing
import Kernmux.Library.Json
import Kernmux.Library.Ordered
import Kernmux.Library.Ownership
import Kernmux.Library.Result
import Kernmux.Library.Stream
import Kernmux.Library.Supervise
import Kernmux.Library.Text
import Kernmux.Library.Versioned
import Kernmux.Library.Word
import Kernmux.Web.ConsoleProtocol
import Kernmux.Daemon.Settlement
import Kernmux.Daemon.Cancellation
import Kernmux.Daemon.Honoured
import Kernmux.Daemon.PublishedGenerations
import Kernmux.Daemon.StorageInventory
import Kernmux.Daemon.StorageInventorySound
import Kernmux.Daemon.RouterPaths
import Kernmux.Daemon.SnapshotHealth
import Kernmux.Daemon.CatalogGenerations
import Kernmux.Library.Arguments
import Kernmux.Daemon.KerfArguments
import Kernmux.Web.ConsoleInput
import Kernmux.Cli.Commands
import Kernmux.Daemon.ConsoleTransient
import Kernmux.Cli.CpuLists
import Kernmux.Gateway.Authentication
import Kernmux.Web.BearerProtocol
import Kernmux.Gateway.Requests
import Kernmux.Gateway.Forwarding
import Kernmux.Client.Response
import Kernmux.Client.RequestIds
import Kernmux.Api.Compatibility
import Kernmux.Daemon.Compatibility
import Kernmux.Cli.Diagnostics
import Kernmux.Gateway.Upload
import Kernmux.Gateway.UploadSound
import Kernmux.Core.DeviceTree
import Kernmux.Core.CpuThreads
import Kernmux.Daemon.ArtifactNames
import Kernmux.Cli.ArtifactIds
import Kernmux.Daemon.ImportEffects
import Kernmux.Daemon.ImageGeometry
import Kernmux.Daemon.ImportsCommute
import Kernmux.Daemon.ImportAgain
import Kernmux.Cli.CommandRequests
import Kernmux.Cli.CommandsSound
import Kernmux.Web.ConsoleAnswers
import Kernmux.Web.InstanceConsole
import Kernmux.Core.LinuxHost
import Kernmux.Core.MultikernelProbe
import Kernmux.Core.MultikernelProbeSound
import Kernmux.Daemon.FilesystemInventory
import Kernmux.Web.ConsoleDelivery
