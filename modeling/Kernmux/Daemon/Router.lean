import Kernmux.Daemon.Artifact
import Kernmux.Daemon.Lifecycle
import Kernmux.Daemon.Security

/-!
# Kernmux.Daemon.Router

The two routers of the host API. `routeFor` says which security class a method
and path have, before anything else of the request is looked at; `dispatch` is
what the request then leads to. The two are written separately in the source
and here. `dispatch` ends in the call of a handler of the host API
(`HandlerCall`), in an error that the route itself finds in the request, or in
the fallback for requests without a route.
-/

namespace Kernmux.Daemon

open Api.V1 Library Lifecycle

/-! ### Requests -/

/-- Method of an HTTP request. -/
inductive Method
  | get
  | put
  | post
  | patch
  | delete
  | other (name : String)
  deriving DecidableEq, Repr

/-- The method with a name on the wire. -/
def Method.ofName : String → Method
  | "GET" => .get
  | "PUT" => .put
  | "POST" => .post
  | "PATCH" => .patch
  | "DELETE" => .delete
  | name => .other name

/-- Fully buffered and bounded request passed to the API dispatcher. -/
structure LocalRequest where
  method : Method
  path : String
  query : Option String
  requestId : Option String
  body : List UInt8
  deriving DecidableEq, Repr

/-- Path and query of the target of a request. -/
def requestTarget (target : String) : String × Option String :=
  match splitOnce '?' target with
  | some (path, query) => (path, some query)
  | none => (target, none)

/-- Privileged action represented by an audit event. -/
inductive AuditAction
  | readInventory
  | manageImages
  | mutateLifecycle
  | mutateResourcePool
  | cancelOperation
  | attachConsole
  | changePolicy
  deriving DecidableEq, Repr

/-- Authorized route metadata resolved before request body processing. -/
structure RouteSecurity where
  requestClass : RequestClass
  auditAction : AuditAction
  deriving DecidableEq, Repr

inductive InstanceAction
  | load
  | loadImage
  | start
  | stop
  | unload
  | console
  deriving DecidableEq, Repr

structure ManagedLoadRequest where
  instanceId : InstanceId
  expectedGeneration : Generation
  kernelId : ArtifactId
  initrdId : Option ArtifactId
  commandLine : Option String
  deriving DecidableEq

/-! ### Errors -/

namespace HostApi

def error (code : ErrorCode) (message : String) (retryable : Bool) : ApiError where
  code := code
  message := message
  retryable := retryable
  currentGeneration := none
  diagnostics := []

def invalid (message : String) : ApiError := error .invalidRequest message false

def notFound : ApiError := error .notFound "resource was not found" false

def backend (message : String) : ApiError := error .backendUnavailable message true

def imageStoreApiError : ImageStoreError → ApiError
  | .invalidSizeLimit | .invalidArtifactId _ | .sourceNotRegular | .emptyArtifact
  | .invalidDiskImage _ | .invalidOsImageMetadata _ | .tooLarge _ | .digestMismatch _ _ =>
      invalid "image artifact is invalid or exceeds policy"
  | .notFound => notFound
  | .corrupt _ | .metadataEncoding _ | .io _ _ => backend "image catalog is unavailable"

/-! ### Paths -/

def operationIdFromPath (path : String) : Option OperationId := do
  let suffix ← stripPrefix "/1.0/operations/" path
  if suffix ≠ "" ∧ '/' ∉ suffix.toList then some ⟨suffix⟩ else none

def imageResource (path : String) : Option (ArtifactKind × ArtifactId) := do
  let suffix ← stripPrefix "/1.0/images/" path
  match splitText '/' suffix with
  | [kind, id] => do
      let kind ← match kind with
        | "kernel" => some ArtifactKind.kernel
        | "initrd" => some ArtifactKind.initrd
        | _ => none
      let id ← (ArtifactId.parse id).toOption
      return (kind, id)
  | _ => none

def osImageResource (path : String) : Option ArtifactId := do
  let id ← stripPrefix "/1.0/os-images/" path
  if id ≠ "" ∧ '/' ∉ id.toList then (ArtifactId.parse id).toOption else none

def instanceAction : String → Option InstanceAction
  | "load" => some .load
  | "load-image" => some .loadImage
  | "start" => some .start
  | "stop" => some .stop
  | "unload" => some .unload
  | "console" => some .console
  | _ => none

def instanceResource (path : String) : Option (InstanceId × Option InstanceAction) := do
  let suffix ← stripPrefix "/1.0/instances/" path
  match splitText '/' suffix with
  | [id] => do
      let id ← parseUnsigned (2 ^ 32) id
      return (⟨.ofNat id⟩, none)
  | [id, action] => do
      let id ← parseUnsigned (2 ^ 32) id
      let action ← instanceAction action
      return (⟨.ofNat id⟩, some action)
  | _ => none

/-- The position in the event stream that a query asks for. -/
def parseCursor (query : Option String) : Except ApiError EventSequence :=
  match query with
  | none => .ok ⟨0⟩
  | some query => do
      let value ← okOr ((stripPrefix "after=" query).filter fun value =>
        value ≠ "" ∧ '&' ∉ value.toList) (invalid "event cursor query is invalid")
      let sequence ← okOr (parseUnsigned (2 ^ 64) value) (invalid "event cursor is invalid")
      return ⟨.ofNat sequence⟩

/-! ### Authorization router -/

def readRoute : RouteSecurity := ⟨.readOnly, .readInventory⟩

def mutationRoute : RouteSecurity := ⟨.mutation, .mutateLifecycle⟩

def operationRoute : Method → Option RouteSecurity
  | .get => some readRoute
  | .delete => some ⟨.mutation, .cancelOperation⟩
  | _ => none

/-- The route of an artifact of either catalog. -/
def imageRoute : Method → Option RouteSecurity
  | .get => some readRoute
  | _ => none

/-- The route of an instance, or of an action on it. -/
def instanceRoute : Method → Option InstanceAction → Option RouteSecurity
  | .get, none => some readRoute
  | .patch, none | .delete, none => some mutationRoute
  | .post, some .console => some ⟨.console, .attachConsole⟩
  | .post, some _ => some mutationRoute
  | _, _ => none

/-- The route of a path that names a resource. -/
def resourceRoute (method : Method) (path : String) : Option RouteSecurity :=
  if (operationIdFromPath path).isSome then operationRoute method
  else if (imageResource path).isSome then imageRoute method
  else if (osImageResource path).isSome then imageRoute method
  else
    match instanceResource path with
    | none => none
    | some (_, action) => instanceRoute method action

def routeFor (method : Method) (path : String) : Option RouteSecurity :=
  match method, path with
  | .get, "/1.0" | .get, "/1.0/compatibility" | .get, "/1.0/resource-pool"
  | .get, "/1.0/instances" | .get, "/1.0/images" | .get, "/1.0/os-images"
  | .get, "/1.0/storage-devices" | .get, "/1.0/operations" | .get, "/1.0/events" =>
      some readRoute
  | .post, "/1.0/images" | .post, "/1.0/os-images" => some ⟨.administration, .manageImages⟩
  | .put, "/1.0/resource-pool" => some ⟨.mutation, .mutateResourcePool⟩
  | .post, "/1.0/instances" => some mutationRoute
  | method, path => resourceRoute method path

end HostApi

/-! ### Files of a request -/

/-- What the file system answers: the canonical path of a file that exists, and whether a
path is a regular file. -/
structure FileView where
  canonicalize : String → Option PathBuf
  isFile : PathBuf → Option Bool

/-- Canonical roots from which kernel and initrd files may be loaded. -/
structure ImagePolicy where
  roots : List PathBuf
  deriving DecidableEq, Repr

/-- Components of a path. -/
def components (path : PathBuf) : List (List UInt8) :=
  (path.bytes.splitOn 47).filter fun component => !component.isEmpty

/-- The path begins with all components of the root. -/
def startsWith (path root : PathBuf) : Bool :=
  (components root).isPrefixOf (components path)

/-- Resolves a regular file contained by an allowed canonical root. -/
def ImagePolicy.resolve (policy : ImagePolicy) (files : FileView) (path : String) :
    Except ApiError PathBuf :=
  if (stripPrefix "/" path).isNone then .error (HostApi.invalid "image path must be absolute")
  else
    match files.canonicalize path with
    | none => .error (HostApi.invalid "image file is unavailable")
    | some canonical =>
        if !policy.roots.any (startsWith canonical) then
          .error (HostApi.error .forbidden "image path is outside configured roots" false)
        else
          match files.isFile canonical with
          | none => .error (HostApi.invalid "image file is unavailable")
          | some false => .error (HostApi.invalid "image path is not a regular file")
          | some true => .ok canonical

namespace HostApi

def maxCommandLineBytes : ℕ := 4096

def validateCommandLine (commandLine : Option String) : Except ApiError Unit :=
  if commandLine.any fun line =>
      decide ((utf8Bytes line).length > maxCommandLineBytes) || line.toList.contains '\x00' then
    .error (invalid "kernel command line is invalid")
  else .ok ()

/-! ### Dispatch -/

/-- Readers of the JSON bodies of requests. -/
structure RequestJson where
  resourcePool : List UInt8 → Option ResourcePoolMutation
  createInstance : List UInt8 → Option CreateInstanceMutation
  updateInstance : List UInt8 → Option UpdateInstanceMutation
  loadInstance : List UInt8 → Option LoadInstanceMutation
  loadManagedImage : List UInt8 → Option LoadManagedImageMutation
  importImage : List UInt8 → Option ImportImageMutation
  importOsImage : List UInt8 → Option ImportOsImageMutation
  instanceLifecycle : List UInt8 → Option InstanceLifecycleMutation
  stopInstance : List UInt8 → Option StopInstanceMutation

def decode {α : Type} (parse : List UInt8 → Option α) (body : List UInt8) : Except ApiError α :=
  match parse body with
  | some value => .ok value
  | none => .error (invalid "request JSON is invalid")

/-- A mutation that the host API submits to its scheduler. -/
inductive Mutation
  | lifecycle (request : LifecycleRequest) (kind : OperationKind)
      (expectedGeneration : Generation) (instanceId : InstanceId)
  | resourcePool (mutation : ResourcePoolMutation)
  | imageImport (mutation : ImportImageMutation)
  | osImageImport (mutation : ImportOsImageMutation)
  | managedLoad (request : ManagedLoadRequest)

/-- A handler of the host API and what it is called with. -/
inductive HandlerCall
  | snapshot
  | compatibility
  | resourcePool
  | instances
  | images
  | osImages
  | storageDevices
  | operations
  | events (query : Option String)
  | operation (id : OperationId)
  | image (kind : ArtifactKind) (id : ArtifactId)
  | osImage (id : ArtifactId)
  | «instance» (id : InstanceId)
  | cancel (id : OperationId)
  | submit (mutation : Mutation) (peer : PeerIdentity) (auditId : Option String)

/-- Where a request ends up. -/
inductive Dispatched
  /-- The fallback: not found. -/
  | unrouted
  /-- The route finds an error in the request. -/
  | rejected (error : ApiError)
  | handler (call : HandlerCall)

/-- What a dispatcher knows besides the request. -/
structure Dispatcher where
  json : RequestJson
  files : FileView
  imagePolicy : ImagePolicy

namespace Dispatcher

/-- A mutation is submitted for the peer unless the route finds an error. -/
def submit (request : LocalRequest) (peer : PeerIdentity) (mutation : Except ApiError Mutation) :
    Dispatched :=
  match mutation with
  | .ok mutation => .handler (.submit mutation peer request.requestId)
  | .error error => .rejected error

def instanceRequest (expectedGeneration : Generation) (id : InstanceId) : InstanceRequest where
  expectedGeneration := expectedGeneration
  id := id

def dispatchInstanceLoad (api : Dispatcher) (body : List UInt8) (instanceId : InstanceId) :
    Except ApiError Mutation := do
  let mutation ← decode api.json.loadInstance body
  let kernel ← api.imagePolicy.resolve api.files mutation.kernelPath
  let initrd ← mutation.initrdPath.mapM (api.imagePolicy.resolve api.files)
  validateCommandLine mutation.commandLine
  return .lifecycle
    (.load {
      inst := instanceRequest mutation.expectedGeneration instanceId
      kernel := kernel
      initrd := initrd
      cmdline := mutation.commandLine })
    .loadInstance mutation.expectedGeneration instanceId

def dispatchInstanceLoadImage (api : Dispatcher) (body : List UInt8) (instanceId : InstanceId) :
    Except ApiError Mutation := do
  let mutation ← decode api.json.loadManagedImage body
  validateCommandLine mutation.commandLine
  let kernelId ← (ArtifactId.parse mutation.kernelId).mapError imageStoreApiError
  let initrdId ← (mutation.initrdId.mapM ArtifactId.parse).mapError imageStoreApiError
  return .managedLoad {
    instanceId := instanceId
    expectedGeneration := mutation.expectedGeneration
    kernelId := kernelId
    initrdId := initrdId
    commandLine := mutation.commandLine }

def dispatchInstance (api : Dispatcher) (request : LocalRequest) (peer : PeerIdentity)
    (instanceId : InstanceId) (action : Option InstanceAction) : Dispatched :=
  match request.method, action with
  | .get, none => .handler (.instance instanceId)
  | .patch, none => submit request peer do
      let mutation ← decode api.json.updateInstance request.body
      return .lifecycle
        (.update {
          inst := instanceRequest mutation.expectedGeneration instanceId
          cpuHardwareIds := mutation.cpuHardwareIds
          memoryBytes := mutation.memoryBytes
          deviceIds := mutation.deviceIds
          dryRun := mutation.dryRun })
        .updateInstance mutation.expectedGeneration instanceId
  | .delete, none => submit request peer do
      let mutation ← decode api.json.instanceLifecycle request.body
      return .lifecycle (.delete (instanceRequest mutation.expectedGeneration instanceId))
        .deleteInstance mutation.expectedGeneration instanceId
  | .post, some .load => submit request peer (api.dispatchInstanceLoad request.body instanceId)
  | .post, some .loadImage =>
      submit request peer (api.dispatchInstanceLoadImage request.body instanceId)
  | .post, some .start => submit request peer do
      let mutation ← decode api.json.instanceLifecycle request.body
      return .lifecycle (.start (instanceRequest mutation.expectedGeneration instanceId))
        .startInstance mutation.expectedGeneration instanceId
  | .post, some .stop => submit request peer do
      let mutation ← decode api.json.stopInstance request.body
      return .lifecycle
        (.stop {
          inst := instanceRequest mutation.expectedGeneration instanceId
          force := mutation.force })
        .stopInstance mutation.expectedGeneration instanceId
  | .post, some .unload => submit request peer do
      let mutation ← decode api.json.instanceLifecycle request.body
      return .lifecycle (.unload (instanceRequest mutation.expectedGeneration instanceId))
        .unloadInstance mutation.expectedGeneration instanceId
  | _, _ => .unrouted

def dispatchResource (api : Dispatcher) (request : LocalRequest) (peer : PeerIdentity) :
    Dispatched :=
  match operationIdFromPath request.path with
  | some id =>
      match request.method with
      | .get => .handler (.operation id)
      | .delete => .handler (.cancel id)
      | _ => .unrouted
  | none =>
      match imageResource request.path with
      | some (kind, id) =>
          match request.method with
          | .get => .handler (.image kind id)
          | _ => .unrouted
      | none =>
          match osImageResource request.path with
          | some id =>
              match request.method with
              | .get => .handler (.osImage id)
              | _ => .unrouted
          | none =>
              match instanceResource request.path with
              | none => .unrouted
              | some (instanceId, action) => api.dispatchInstance request peer instanceId action

def dispatch (api : Dispatcher) (request : LocalRequest) (peer : PeerIdentity) : Dispatched :=
  match request.method, request.path with
  | .get, "/1.0" => .handler .snapshot
  | .get, "/1.0/compatibility" => .handler .compatibility
  | .get, "/1.0/resource-pool" => .handler .resourcePool
  | .get, "/1.0/instances" => .handler .instances
  | .get, "/1.0/images" => .handler .images
  | .get, "/1.0/os-images" => .handler .osImages
  | .get, "/1.0/storage-devices" => .handler .storageDevices
  | .get, "/1.0/operations" => .handler .operations
  | .get, "/1.0/events" => .handler (.events request.query)
  | .put, "/1.0/resource-pool" => submit request peer do
      return .resourcePool (← decode api.json.resourcePool request.body)
  | .post, "/1.0/instances" => submit request peer do
      let mutation ← decode api.json.createInstance request.body
      return .lifecycle
        (.create {
          expectedGeneration := mutation.expectedGeneration
          id := mutation.id
          name := mutation.name
          cpuHardwareIds := mutation.cpuHardwareIds
          memoryBytes := mutation.memoryBytes })
        .createInstance mutation.expectedGeneration mutation.id
  | .post, "/1.0/images" => submit request peer do
      return .imageImport (← decode api.json.importImage request.body)
  | .post, "/1.0/os-images" => submit request peer do
      return .osImageImport (← decode api.json.importOsImage request.body)
  | _, _ => api.dispatchResource request peer

end Dispatcher

/-- Prepares the console of an active instance. The value is the instance whose console is
attached, after the permit for it. -/
def prepareUpgrade {ε : Type} (refreshed : Except ε HostSnapshot) (limiter : ServiceLimiter)
    (request : LocalRequest) : Except ApiError InstanceId :=
  match instanceResource request.path with
  | some (instanceId, some .console) =>
      if request.method ≠ .post then .error notFound
      else
        match refreshed with
        | .error _ => .error (backend "host inventory is unavailable")
        | .ok snapshot =>
            if snapshot.instances.any fun inst => inst.id = instanceId ∧ inst.state = .active then
              (limiter.acquire .console).map fun _ => instanceId
            else
              .error (error .conflict "instance must be active before attaching its console" false)
  | _ => .error notFound

end HostApi

end Kernmux.Daemon
