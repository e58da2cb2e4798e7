import Kernmux.Cli.Commands
import Kernmux.Daemon.RouterPaths

/-!
# Kernmux.Cli.CommandRequests

**What a command asks for, and how the daemon reads it.** A `Command` is what is meant by
a command line: a resource, an action, and the values that were given. It is sent as a
method, a path, a query and a body. On the other side the routers of the daemon have
only these to go by: the authorization router gives the request the class of the
command (`routeFor_command`), and the dispatcher reaches its handler
(`dispatch_command`).
-/

namespace Kernmux.Cli

open Api.V1 Daemon Daemon.HostApi Library Dispatcher

/-! ### Commands -/

/-- A word that may stand for an operation. -/
structure Token where
  value : String
  valid : isToken value = true

/-- What a command line asks for. -/
inductive Command
  | host
  | preflight
  | pool
  | instances
  | «instance» (id : InstanceId)
  | images
  | image (kind : ArtifactKind) (boot : kind ≠ .osImage) (id : ArtifactId)
  | osImages
  | osImage (id : ArtifactId)
  | storage
  | operations
  | operation (id : Token)
  | events (after : EventSequence)
  | cancel (id : Token)
  | setPool (mutation : ResourcePoolMutation)
  | create (mutation : CreateInstanceMutation)
  | update (id : InstanceId) (mutation : UpdateInstanceMutation)
  | load (id : InstanceId) (mutation : LoadInstanceMutation)
  | loadImage (id : InstanceId) (mutation : LoadManagedImageMutation)
  | start (id : InstanceId) (mutation : InstanceLifecycleMutation)
  | stop (id : InstanceId) (mutation : StopInstanceMutation)
  | unload (id : InstanceId) (mutation : InstanceLifecycleMutation)
  | delete (id : InstanceId) (mutation : InstanceLifecycleMutation)
  | importImage (mutation : ImportImageMutation)
  | importOsImage (mutation : ImportOsImageMutation)

namespace Command

def method : Command → String
  | cancel _ | delete _ _ => "DELETE"
  | setPool _ => "PUT"
  | update _ _ => "PATCH"
  | create _ | load _ _ | loadImage _ _ | start _ _ | stop _ _ | unload _ _ | importImage _
  | importOsImage _ => "POST"
  | _ => "GET"

def path : Command → String
  | host => "/1.0"
  | preflight => "/1.0/compatibility"
  | pool | setPool _ => "/1.0/resource-pool"
  | instances | create _ => "/1.0/instances"
  | «instance» id | update id _ | delete id _ => instancePath id.val ""
  | load id _ => instancePath id.val "/load"
  | loadImage id _ => instancePath id.val "/load-image"
  | start id _ => instancePath id.val "/start"
  | stop id _ => instancePath id.val "/stop"
  | unload id _ => instancePath id.val "/unload"
  | images | importImage _ => "/1.0/images"
  | image kind _ id => "/1.0/images/" ++ kind.directory ++ "/" ++ id.value
  | osImages | importOsImage _ => "/1.0/os-images"
  | osImage id => "/1.0/os-images/" ++ id.value
  | storage => "/1.0/storage-devices"
  | operations => "/1.0/operations"
  | operation id | cancel id => "/1.0/operations/" ++ id.value
  | events _ => "/1.0/events"

def query : Command → Option String
  | events after => some ("after=" ++ toString after.val.toNat)
  | _ => none

/-- Path and query as they are sent. -/
def target (command : Command) : String :=
  match command.query with
  | none => command.path
  | some query => command.path ++ "?" ++ query

/-- The body that is sent, unless it cannot be written. -/
def body (bodies : RequestBodies) : Command → Option (List UInt8)
  | setPool mutation => bodies.resourcePool mutation
  | create mutation => bodies.createInstance mutation
  | update _ mutation => bodies.updateInstance mutation
  | load _ mutation => bodies.loadInstance mutation
  | loadImage _ mutation => bodies.loadManagedImage mutation
  | start _ mutation | unload _ mutation | delete _ mutation => bodies.instanceLifecycle mutation
  | stop _ mutation => bodies.stopInstance mutation
  | importImage mutation => bodies.importImage mutation
  | importOsImage mutation => bodies.importOsImage mutation
  | _ => some []

def request (bodies : RequestBodies) (command : Command) : Option ApiRequest :=
  (command.body bodies).map fun body => ⟨command.method, command.target, body⟩

/-- The instance and the action in the path of a command. -/
def place : Command → Option (InstanceId × Option InstanceAction)
  | «instance» id | update id _ | delete id _ => some (id, none)
  | load id _ => some (id, some .load)
  | loadImage id _ => some (id, some .loadImage)
  | start id _ => some (id, some .start)
  | stop id _ => some (id, some .stop)
  | unload id _ => some (id, some .unload)
  | _ => none

/-- The instance that a command is about. -/
def instanceId : Command → Option InstanceId
  | create mutation => some mutation.id
  | command => command.place.map Prod.fst

/-! ### The daemon's side -/

/-- The route that a command needs. -/
def route : Command → RouteSecurity
  | cancel _ => ⟨.mutation, .cancelOperation⟩
  | setPool _ => ⟨.mutation, .mutateResourcePool⟩
  | importImage _ | importOsImage _ => ⟨.administration, .manageImages⟩
  | create _ | update _ _ | load _ _ | loadImage _ _ | start _ _ | stop _ _ | unload _ _
  | delete _ _ => mutationRoute
  | _ => readRoute

/-- The daemon reads the mutation of the command from the body. -/
def Decodes (json : RequestJson) (body : List UInt8) : Command → Prop
  | setPool mutation => decode json.resourcePool body = .ok mutation
  | create mutation => decode json.createInstance body = .ok mutation
  | update _ mutation => decode json.updateInstance body = .ok mutation
  | load _ mutation => decode json.loadInstance body = .ok mutation
  | loadImage _ mutation => decode json.loadManagedImage body = .ok mutation
  | start _ mutation | unload _ mutation | delete _ mutation =>
      decode json.instanceLifecycle body = .ok mutation
  | stop _ mutation => decode json.stopInstance body = .ok mutation
  | importImage mutation => decode json.importImage body = .ok mutation
  | importOsImage mutation => decode json.importOsImage body = .ok mutation
  | _ => body = []

/-- The daemon reads the position in the event stream from the query; other commands have
no query. -/
def Positions (query : Option String) : Command → Prop
  | events after => query.isSome ∧ parseCursor query = .ok after
  | _ => query = none

/-- The handler of the resource and action. What is loaded is resolved by handlers of their
own, which may refuse it. -/
def handler (api : Dispatcher) (request : LocalRequest) (peer : PeerIdentity) : Command → Dispatched
  | host => .handler .snapshot
  | preflight => .handler .compatibility
  | pool => .handler .resourcePool
  | instances => .handler .instances
  | «instance» id => .handler (.instance id)
  | images => .handler .images
  | image kind _ id => .handler (.image kind id)
  | osImages => .handler .osImages
  | osImage id => .handler (.osImage id)
  | storage => .handler .storageDevices
  | operations => .handler .operations
  | operation id => .handler (.operation ⟨id.value⟩)
  | events _ => .handler (.events request.query)
  | cancel id => .handler (.cancel ⟨id.value⟩)
  | setPool mutation => .handler (.submit (.resourcePool mutation) peer request.requestId)
  | create mutation =>
      .handler (.submit (.lifecycle (.create {
            expectedGeneration := mutation.expectedGeneration
            id := mutation.id
            name := mutation.name
            cpuHardwareIds := mutation.cpuHardwareIds
            memoryBytes := mutation.memoryBytes })
          .createInstance mutation.expectedGeneration mutation.id) peer request.requestId)
  | update id mutation =>
      .handler (.submit (.lifecycle (.update {
            inst := instanceRequest mutation.expectedGeneration id
            cpuHardwareIds := mutation.cpuHardwareIds
            memoryBytes := mutation.memoryBytes
            deviceIds := mutation.deviceIds
            dryRun := mutation.dryRun })
          .updateInstance mutation.expectedGeneration id) peer request.requestId)
  | load id _ => submit request peer (api.dispatchInstanceLoad request.body id)
  | loadImage id _ => submit request peer (api.dispatchInstanceLoadImage request.body id)
  | start id mutation =>
      .handler (.submit (.lifecycle (.start (instanceRequest mutation.expectedGeneration id))
          .startInstance mutation.expectedGeneration id) peer request.requestId)
  | stop id mutation =>
      .handler (.submit (.lifecycle (.stop {
            inst := instanceRequest mutation.expectedGeneration id
            force := mutation.force })
          .stopInstance mutation.expectedGeneration id) peer request.requestId)
  | unload id mutation =>
      .handler (.submit (.lifecycle (.unload (instanceRequest mutation.expectedGeneration id))
          .unloadInstance mutation.expectedGeneration id) peer request.requestId)
  | delete id mutation =>
      .handler (.submit (.lifecycle (.delete (instanceRequest mutation.expectedGeneration id))
          .deleteInstance mutation.expectedGeneration id) peer request.requestId)
  | importImage mutation => .handler (.submit (.imageImport mutation) peer request.requestId)
  | importOsImage mutation => .handler (.submit (.osImageImport mutation) peer request.requestId)

end Command

/-! ### Paths -/

/-- A character that is not one of a token is not in it. -/
theorem Token.not_mem (id : Token) {char : Char} (hascii : char.val.toNat ≤ 127)
    (hother : isTokenByte (UInt8.ofNat char.val.toNat) = false) : char ∉ id.value.toList := by
  intro hmem
  have hvalid := id.valid
  simp only [isToken, Bool.and_eq_true] at hvalid
  have htoken := List.all_eq_true.mp hvalid.2 _ (mem_utf8Bytes_of_mem hascii hmem)
  rw [hother] at htoken
  cases htoken

theorem Token.ne_empty (id : Token) : id.value ≠ "" := by
  intro hempty
  have hvalid := id.valid
  rw [hempty] at hvalid
  exact absurd hvalid (by decide)

theorem Token.operationIdFromPath_eq (id : Token) :
    operationIdFromPath ("/1.0/operations/" ++ id.value) = some ⟨id.value⟩ :=
  operationIdFromPath_append id.ne_empty (id.not_mem (by decide) (by decide))

/-- The daemon finds the instance and the action in the path. -/
theorem Command.instanceResource_path {command : Command}
    {place : InstanceId × Option InstanceAction} (h : command.place = some place) :
    instanceResource command.path = some place := by
  cases command <;> cases h
  case load id _ => exact instanceResource_action id "load" rfl (by decide) rfl
  case loadImage id _ => exact instanceResource_action id "load-image" rfl (by decide) rfl
  case start id _ => exact instanceResource_action id "start" rfl (by decide) rfl
  case stop id _ => exact instanceResource_action id "stop" rfl (by decide) rfl
  case unload id _ => exact instanceResource_action id "unload" rfl (by decide) rfl
  case «instance» id | update id _ | delete id _ =>
    show instanceResource ("/1.0/instances/" ++ toString id.val.toNat ++ "") = _
    rw [String.append_empty]
    exact instanceResource_append id

theorem question_not_mem_instancePath (id : UInt32) {suffix : String}
    (h : '?' ∉ suffix.toList) : '?' ∉ (instancePath id suffix).toList := by
  have hnumber : '?' ∉ (toString id.toNat).toList :=
    fun hmem => absurd (isDigit_of_mem_toString hmem) (by decide)
  show '?' ∉ ("/1.0/instances/" ++ toString id.toNat ++ suffix).toList
  simp only [String.toList_append, List.mem_append, not_or]
  exact ⟨⟨by decide, hnumber⟩, h⟩

/-- No path has a question mark, so that the first one ends it. -/
theorem Command.question_not_mem_path (command : Command) : '?' ∉ command.path.toList := by
  have hartifact : ∀ id : ArtifactId, '?' ∉ id.value.toList :=
    fun id => id.not_mem_value (by decide) (by decide)
  have hfixed : ∀ path ∈ fixedPaths, '?' ∉ path.toList := by decide
  cases command with
  | host | preflight | pool | setPool | instances | create | images | importImage | osImages
  | importOsImage | storage | operations | events =>
      exact hfixed _ (of_decide_eq_true rfl)
  | «instance» | update | delete | load | loadImage | start | stop | unload =>
      exact question_not_mem_instancePath _ (by decide)
  | image kind boot id =>
      have hword : '?' ∉ kind.directory.toList := by cases kind <;> decide
      show '?' ∉ ("/1.0/images/" ++ kind.directory ++ "/" ++ id.value).toList
      simp [hword, hartifact id]
  | osImage id =>
      show '?' ∉ ("/1.0/os-images/" ++ id.value).toList
      simp [hartifact id]
  | operation id | cancel id =>
      have htoken : '?' ∉ id.value.toList := id.not_mem (by decide) (by decide)
      show '?' ∉ ("/1.0/operations/" ++ id.value).toList
      simp [htoken]

/-- The target is taken apart where it was put together. -/
theorem Command.requestTarget_target (command : Command) :
    requestTarget command.target = (command.path, command.query) := by
  have hpath := command.question_not_mem_path
  unfold target
  cases command.query with
  | none => rw [requestTarget, splitOnce_of_not_mem hpath]
  | some query =>
      have hsplit : splitOnce '?' (command.path ++ String.singleton '?' ++ query) =
          some (command.path, query) := splitOnce_append hpath
      rw [requestTarget, show "?" = String.singleton '?' from rfl, hsplit]

/-! ### Routes -/

theorem routeFor_place {command : Command} {id : InstanceId} {action : Option InstanceAction}
    (hplace : command.place = some (id, action)) :
    routeFor (.ofName command.method) command.path =
      instanceRoute (.ofName command.method) action :=
  routeFor_instance _ (Command.instanceResource_path hplace)

/-- The authorization router gives a command its route. -/
theorem routeFor_command (command : Command) :
    routeFor (.ofName command.method) command.path = some command.route := by
  cases command with
  | operation id | cancel id => exact routeFor_operation _ id.operationIdFromPath_eq
  | image kind boot id => exact routeFor_image _ (imageResource_append boot id)
  | osImage id => exact routeFor_osImage _ (osImageResource_append id)
  | «instance» | update | delete | load | loadImage | start | stop | unload =>
      exact (routeFor_place rfl).trans rfl
  | _ => rfl

/-! ### Queries and bodies -/

/-- The position is read back. -/
theorem Command.positions_query (command : Command) : command.Positions command.query := by
  cases command with
  | events after =>
      refine ⟨rfl, ?_⟩
      have hdigits : ∀ char ∈ (toString after.val.toNat).toList, char.isDigit = true :=
        fun char => isDigit_of_mem_toString
      have hread := parseUnsigned_toString after.val.toNat_lt
      have hvalid : toString after.val.toNat ≠ "" ∧ '&' ∉ (toString after.val.toNat).toList :=
        ⟨(mem_of_parseUnsigned hread).1, fun hmem => absurd (hdigits _ hmem) (by decide)⟩
      refine bind_eq_ok.mpr ⟨toString after.val.toNat, okOr_eq_ok.mpr ?_, ?_⟩
      · rw [stripPrefix_append, Option.filter_some, if_pos (decide_eq_true hvalid)]
      · refine bind_eq_ok.mpr ⟨_, okOr_eq_ok.mpr hread, pure_eq_ok.mpr ?_⟩
        rw [UInt64.ofNat_toNat]
  | _ => rfl

/-- Every value that can be written is read back from what is written. -/
def ReadBack {α : Type} (write : α → Option (List UInt8)) (read : List UInt8 → Option α) : Prop :=
  ∀ value body, write value = some body → read body = some value

/-- The daemon reads back the bodies that the command line writes. -/
structure RoundTrips (bodies : RequestBodies) (json : RequestJson) : Prop where
  resourcePool : ReadBack bodies.resourcePool json.resourcePool
  createInstance : ReadBack bodies.createInstance json.createInstance
  updateInstance : ReadBack bodies.updateInstance json.updateInstance
  loadInstance : ReadBack bodies.loadInstance json.loadInstance
  loadManagedImage : ReadBack bodies.loadManagedImage json.loadManagedImage
  importImage : ReadBack bodies.importImage json.importImage
  importOsImage : ReadBack bodies.importOsImage json.importOsImage
  instanceLifecycle : ReadBack bodies.instanceLifecycle json.instanceLifecycle
  stopInstance : ReadBack bodies.stopInstance json.stopInstance

theorem ReadBack.decode_eq {α : Type} {write : α → Option (List UInt8)}
    {read : List UInt8 → Option α} {value : α} {body : List UInt8} (h : ReadBack write read)
    (hbody : write value = some body) : decode read body = .ok value := by
  rw [decode, h value body hbody]

/-- The mutation of a command is read back. -/
theorem Command.decodes_body {command : Command} {bodies : RequestBodies} {json : RequestJson}
    {body : List UInt8} (hjson : RoundTrips bodies json) (h : command.body bodies = some body) :
    command.Decodes json body := by
  cases command with
  | setPool => exact hjson.resourcePool.decode_eq h
  | create => exact hjson.createInstance.decode_eq h
  | update => exact hjson.updateInstance.decode_eq h
  | load => exact hjson.loadInstance.decode_eq h
  | loadImage => exact hjson.loadManagedImage.decode_eq h
  | start | unload | delete => exact hjson.instanceLifecycle.decode_eq h
  | stop => exact hjson.stopInstance.decode_eq h
  | importImage => exact hjson.importImage.decode_eq h
  | importOsImage => exact hjson.importOsImage.decode_eq h
  | _ => exact (Option.some.inj h).symm

/-! ### Handlers -/

section Dispatch

variable {request : LocalRequest} {api : Dispatcher} (peer : PeerIdentity)

/-- What is decoded is submitted. -/
theorem submit_decoded {α : Type} {parse : List UInt8 → Option α} {mutation : α}
    (h : decode parse request.body = .ok mutation) (build : α → Mutation) :
    submit request peer (decode parse request.body >>= fun value => pure (build value)) =
      .handler (.submit (build mutation) peer request.requestId) := by
  rw [h]
  rfl

/-- A command on an instance is dispatched by its method and action. -/
theorem dispatch_place {command : Command} {id : InstanceId} {action : Option InstanceAction}
    (hmethod : request.method = .ofName command.method) (hpath : request.path = command.path)
    (hplace : command.place = some (id, action)) :
    api.dispatch request peer =
      api.dispatchInstance { request with method := .ofName command.method } peer id action := by
  rw [← hmethod]
  refine dispatch_instance api peer ?_
  rw [hpath]
  exact Command.instanceResource_path hplace

/-- The dispatcher reaches the handler of a command. -/
theorem dispatch_command {command : Command} (hmethod : request.method = .ofName command.method)
    (hpath : request.path = command.path) (hbody : command.Decodes api.json request.body) :
    api.dispatch request peer = command.handler api request peer := by
  cases command with
  | operation id | cancel id =>
      have hid : operationIdFromPath request.path = some ⟨id.value⟩ := by
        rw [hpath]
        exact id.operationIdFromPath_eq
      rw [dispatch_operation api peer hid, hmethod]
      rfl
  | image kind boot id =>
      have hid : imageResource request.path = some (kind, id) := by
        rw [hpath]
        exact imageResource_append boot id
      rw [dispatch_image api peer hid, hmethod]
      rfl
  | osImage id =>
      have hid : osImageResource request.path = some id := by
        rw [hpath]
        exact osImageResource_append id
      rw [dispatch_osImage api peer hid, hmethod]
      rfl
  | «instance» | load | loadImage => exact dispatch_place peer hmethod hpath rfl
  | update | delete | start | stop | unload =>
      exact (dispatch_place peer hmethod hpath rfl).trans (submit_decoded peer hbody _)
  | setPool | create | importImage | importOsImage =>
      unfold dispatch
      rw [hmethod, hpath]
      exact submit_decoded peer hbody _
  | _ =>
      unfold dispatch
      rw [hmethod, hpath]
      rfl

end Dispatch

end Kernmux.Cli
