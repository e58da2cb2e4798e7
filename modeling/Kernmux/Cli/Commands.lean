import Kernmux.Api.V1
import Kernmux.Library.Ordered
import Kernmux.Library.Result
import Kernmux.Library.Text

/-!
# Kernmux.Cli.Commands

The command line of `kernmuxctl`: global options, a resource, an action and its
options. A command line that is accepted becomes one request to the daemon.
Bodies are written by a serializer (`RequestBodies`) that may fail.
-/

namespace Kernmux.Cli

open Api.V1 Library

/-! ### Errors -/

/-- Stable process exit categories for scripts. -/
inductive ExitCode
  | success
  | usage
  | transport
  | protocol
  | requestRejected
  | authorization
  | service
  deriving DecidableEq, Repr

structure CliError where
  code : ExitCode
  message : String
  deriving DecidableEq, Repr

def defaultSocket : String := "/run/kernmux/kernmuxd.sock"

def usage : String :=
  "\n".intercalate [
    "Kernmux automation client",
    "",
    "Usage: kernmuxctl [--socket PATH] [--pretty] [--request-id ID] RESOURCE ACTION [OPTIONS]",
    "",
    "Resources:",
    "  host show",
    "  host preflight",
    "  host diagnose",
    "  pool show",
    "  pool set --generation N --cpus LIST --memory SIZE",
    "  pool release --generation N",
    "  instance list",
    "  instance show ID",
    "  instance create --generation N --id ID --name NAME --cpus LIST --memory SIZE",
    "  instance update ID --generation N [--cpus LIST] [--memory SIZE] [--devices BDF[,BDF]] [--dry-run]",
    "  instance load ID --generation N --kernel PATH [--initrd PATH] [--cmdline TEXT]",
    "  instance load-image ID --generation N --kernel ID [--initrd ID] [--cmdline TEXT]",
    "  instance start ID --generation N",
    "  instance stop ID --generation N [--force]",
    "  instance unload ID --generation N",
    "  instance delete ID --generation N",
    "  image list",
    "  image show KIND ID",
    "  image import --generation N --kind KIND --source PATH [--expected-id ID]",
    "  os-image list",
    "  os-image show ID",
    "  os-image import --generation N --source PATH --label NAME [--architecture ARCH] [--expected-id ID]",
    "  storage list",
    "  operation list",
    "  operation show ID",
    "  operation cancel ID",
    "  events [--after SEQUENCE]",
    "",
    "All mutations require --generation. Memory accepts bytes, KiB, MiB, GiB, or TiB.",
    "",
    "Exit status:",
    "  0 success                 2 invalid command",
    "  3 transport failure       4 protocol failure",
    "  5 request rejected        6 authorization failure",
    "  7 service failure",
    "",
    "API error envelopes are written to stdout unchanged. Local errors are written to stderr.",
    "Default socket: " ++ defaultSocket]

namespace CliError

def usage (message : String) : CliError := ⟨.usage, message ++ "\n\n" ++ Cli.usage⟩

def protocol (message : String) : CliError := ⟨.protocol, message⟩

end CliError

/-- Fallible steps of reading a command line. -/
abbrev CliM := Except CliError

/-- A command line that is not understood. -/
def refuse {α : Type} (message : String) : CliM α := .error (.usage message)

/-! ### Options -/

/-- The arguments of an action, by the kind of each. -/
structure Options where
  positionals : List String
  values : List (String × String)
  flags : List String
  deriving DecidableEq, Repr

namespace Options

def value (options : Options) (name : String) : Option String := options.values.lookup name

def required (options : Options) (name : String) : CliM String :=
  okOr (options.value name) (.usage ("--" ++ name ++ " is required"))

def flag (options : Options) (name : String) : Bool := name ∈ options.flags

def noPositionals (options : Options) : CliM Unit :=
  rejectIf (options.positionals ≠ []) (.usage "unexpected positional argument")

def onePositional (options : Options) (label : String) : CliM String :=
  match options.positionals with
  | [positional] => .ok positional
  | _ => refuse ("exactly one " ++ label ++ " is required")

/-- The loop over the arguments. -/
def parseFrom (valueNames flagNames : List String) (result : Options) : List String → CliM Options
  | [] => .ok result
  | argument :: rest =>
      match stripPrefix "--" argument with
      | none =>
          parseFrom valueNames flagNames
            { result with positionals := result.positionals ++ [argument] } rest
      | some name =>
          if name ∈ valueNames then
            match rest with
            | [] => refuse ("--" ++ name ++ " requires a value")
            | value :: rest =>
                if value = "" then refuse ("--" ++ name ++ " requires a value")
                else if (result.value name).isSome then
                  refuse ("--" ++ name ++ " was specified more than once")
                else
                  parseFrom valueNames flagNames
                    { result with values := result.values ++ [(name, value)] } rest
          else if name ∈ flagNames then
            if result.flag name then refuse ("--" ++ name ++ " was specified more than once")
            else
              parseFrom valueNames flagNames { result with flags := result.flags ++ [name] } rest
          else refuse ("unknown option --" ++ name)

def parse (args valueNames flagNames : List String) : CliM Options :=
  parseFrom valueNames flagNames ⟨[], [], []⟩ args

end Options

/-! ### Values -/

def numberU64 (value label : String) : CliM UInt64 := do
  let number ← okOr (parseUnsigned (2 ^ 64) value) (.usage (label ++ " must be an unsigned integer"))
  return .ofNat number

def number (value label : String) : CliM UInt32 := do
  let number ← okOr ((parseUnsigned (2 ^ 32) value).filter fun number => number > 0)
    (.usage (label ++ " must be a positive integer"))
  return .ofNat number

def generation (value : String) : CliM Generation := do
  return ⟨← numberU64 value "generation"⟩

/-- A byte of a token that is safe in a log. -/
def isTokenByte (byte : UInt8) : Bool :=
  isAsciiAlphanumeric byte || byte == 46 || byte == 95 || byte == 45

/-- A token of 1 to 128 bytes. -/
def isToken (value : String) : Bool :=
  let bytes := utf8Bytes value
  !bytes.isEmpty && bytes.length ≤ 128 && bytes.all isTokenByte

def onlyToken (args : List String) (label : String) : CliM String :=
  match args with
  | [token] =>
      if isToken token then .ok token else refuse ("exactly one valid " ++ label ++ " is required")
  | _ => refuse ("exactly one valid " ++ label ++ " is required")

def onlyId (args : List String) : CliM UInt32 := do
  number (← onlyToken args "instance ID") "instance ID"

/-- One CPU joins the set. -/
def insertCpu (cpus : List UInt32) (cpu : ℕ) : CliM (List UInt32) := do
  rejectIf (2 ^ 32 ≤ cpu) (.usage "CPU ID exceeds u32")
  rejectIf (UInt32.ofNat cpu ∈ cpus) (.usage "CPU list contains duplicates")
  return cpus ++ [.ofNat cpu]

/-- One CPU or one range of CPUs joins the set. -/
def insertCpuRange (cpus : List UInt32) (part : String) : CliM (List UInt32) := do
  let bounds := (splitOnce '-' part).getD (part, part)
  let first ← numberU64 bounds.1 "CPU ID"
  let last ← numberU64 bounds.2 "CPU ID"
  rejectIf (first.toNat > 2 ^ 32 - 1 ∨ last.toNat > 2 ^ 32 - 1 ∨ first > last ∨
    (last - first).toNat > 4096) (.usage "CPU range is invalid or too large")
  (List.range' first.toNat (last.toNat - first.toNat + 1)).foldlM insertCpu cpus

/-- The CPUs of a list in ascending order. -/
def cpuList (value : String) : CliM (List UInt32) := do
  rejectIf (value = "") (.usage "CPU list must not be empty")
  let cpus ← (splitText ',' value).foldlM insertCpuRange []
  return elements cpus

def stringItem (item : String) : CliM String := do
  rejectIf (trimText item = "") (.usage "device list contains an empty item")
  return trimText item

def stringList (value : String) : CliM (List String) := do
  rejectIf (value = "") (.usage "device list must not be empty")
  collectEach (splitText ',' value) stringItem

/-- Suffixes of sizes and what they stand for. -/
def sizeUnits : List (String × ℕ) :=
  [("KiB", 1024), ("MiB", 1024 ^ 2), ("GiB", 1024 ^ 3), ("TiB", 1024 ^ 4)]

def byteSize (value : String) : CliM UInt64 := do
  let (digits, multiplier) := (sizeUnits.findSome? fun (suffix, multiplier) =>
    (stripSuffix suffix value).map fun digits => (digits, multiplier)).getD (value, 1)
  let number ← numberU64 digits "memory size"
  rejectIf (2 ^ 64 ≤ number.toNat * multiplier) (.usage "memory size overflows u64")
  rejectIf (number.toNat * multiplier = 0) (.usage "memory size must be greater than zero")
  return .ofNat (number.toNat * multiplier)

def imageKind (value : String) : CliM (ImageKind × String) :=
  match value with
  | "kernel" => .ok (.kernel, "kernel")
  | "initrd" => .ok (.initrd, "initrd")
  | _ => refuse "image kind must be kernel or initrd"

/-- A byte of a lowercase hexadecimal digest. -/
def isDigestByte (byte : UInt8) : Bool := isAsciiDigit byte || (97 ≤ byte && byte ≤ 102)

def artifactId (value : String) : CliM String :=
  let valid := (stripPrefix "sha256:" value).any fun digest =>
    (utf8Bytes digest).length == 64 && (utf8Bytes digest).all isDigestByte
  if valid then .ok value
  else refuse "image ID must be canonical sha256:<64 lowercase hex digits>"

/-! ### Requests -/

structure ApiRequest where
  method : String
  path : String
  body : List UInt8
  deriving DecidableEq, Repr

/-- The serializer of the bodies of requests. -/
structure RequestBodies where
  resourcePool : ResourcePoolMutation → Option (List UInt8)
  createInstance : CreateInstanceMutation → Option (List UInt8)
  updateInstance : UpdateInstanceMutation → Option (List UInt8)
  loadInstance : LoadInstanceMutation → Option (List UInt8)
  loadManagedImage : LoadManagedImageMutation → Option (List UInt8)
  importImage : ImportImageMutation → Option (List UInt8)
  importOsImage : ImportOsImageMutation → Option (List UInt8)
  instanceLifecycle : InstanceLifecycleMutation → Option (List UInt8)
  stopInstance : StopInstanceMutation → Option (List UInt8)

def get (path : String) : ApiRequest := ⟨"GET", path, []⟩

def jsonRequest (method path : String) (body : Option (List UInt8)) : CliM ApiRequest := do
  let body ← okOr body (.protocol "request serialization failed")
  return ⟨method, path, body⟩

/-- The path of an instance, or of an action on it. -/
def instancePath (id : UInt32) (suffix : String) : String :=
  "/1.0/instances/" ++ toString id.toNat ++ suffix

/-! ### Commands -/

section Commands

variable (bodies : RequestBodies)

def parseHost : List String → CliM ApiRequest
  | ["show"] => .ok (get "/1.0")
  | ["preflight"] => .ok (get "/1.0/compatibility")
  | _ => refuse "host action must be show or preflight"

def setPool (tail : List String) : CliM ResourcePoolMutation := do
  let options ← Options.parse tail ["generation", "cpus", "memory"] []
  options.noPositionals
  let expectedGeneration ← generation (← options.required "generation")
  let cpuHardwareIds ← cpuList (← options.required "cpus")
  let memoryBytes ← byteSize (← options.required "memory")
  return ⟨expectedGeneration, cpuHardwareIds, memoryBytes⟩

def releasePool (tail : List String) : CliM ResourcePoolMutation := do
  let options ← Options.parse tail ["generation"] []
  options.noPositionals
  let expectedGeneration ← generation (← options.required "generation")
  return ⟨expectedGeneration, [], 0⟩

def parsePool : List String → CliM ApiRequest
  | [] => refuse "pool action is required"
  | ["show"] => .ok (get "/1.0/resource-pool")
  | "set" :: tail => do
      jsonRequest "PUT" "/1.0/resource-pool" (bodies.resourcePool (← setPool tail))
  | "release" :: tail => do
      jsonRequest "PUT" "/1.0/resource-pool" (bodies.resourcePool (← releasePool tail))
  | _ => refuse "unknown pool action"

def createInstance (tail : List String) : CliM CreateInstanceMutation := do
  let options ← Options.parse tail ["generation", "id", "name", "cpus", "memory"] []
  options.noPositionals
  let expectedGeneration ← generation (← options.required "generation")
  let id ← number (← options.required "id") "instance ID"
  let name ← options.required "name"
  let cpuHardwareIds ← cpuList (← options.required "cpus")
  let memoryBytes ← byteSize (← options.required "memory")
  return ⟨expectedGeneration, ⟨id⟩, name, cpuHardwareIds, memoryBytes⟩

def updateInstance (tail : List String) : CliM (UInt32 × UpdateInstanceMutation) := do
  let options ← Options.parse tail ["generation", "cpus", "memory", "devices"] ["dry-run"]
  let id ← options.onePositional "instance ID"
  let cpus ← (options.value "cpus").mapM cpuList
  let memory ← (options.value "memory").mapM byteSize
  let devices ← (options.value "devices").mapM stringList
  rejectIf (cpus = none ∧ memory = none ∧ devices = none)
    (.usage "instance update requires --cpus, --memory, or --devices")
  let id ← number id "instance ID"
  let expectedGeneration ← generation (← options.required "generation")
  return (id, ⟨expectedGeneration, cpus, memory, devices, options.flag "dry-run"⟩)

def loadInstance (tail : List String) : CliM (UInt32 × LoadInstanceMutation) := do
  let options ← Options.parse tail ["generation", "kernel", "initrd", "cmdline"] []
  let id ← number (← options.onePositional "instance ID") "instance ID"
  let expectedGeneration ← generation (← options.required "generation")
  let kernelPath ← options.required "kernel"
  return (id, ⟨expectedGeneration, kernelPath, options.value "initrd", options.value "cmdline"⟩)

def loadImage (tail : List String) : CliM (UInt32 × LoadManagedImageMutation) := do
  let options ← Options.parse tail ["generation", "kernel", "initrd", "cmdline"] []
  let id ← number (← options.onePositional "instance ID") "instance ID"
  let expectedGeneration ← generation (← options.required "generation")
  let kernelId ← artifactId (← options.required "kernel")
  let initrdId ← (options.value "initrd").mapM artifactId
  return (id, ⟨expectedGeneration, kernelId, initrdId, options.value "cmdline"⟩)

/-- The arguments of `start`, `unload` and `delete`. -/
def changeInstance (tail : List String) : CliM (UInt32 × InstanceLifecycleMutation) := do
  let options ← Options.parse tail ["generation"] []
  let id ← number (← options.onePositional "instance ID") "instance ID"
  let expectedGeneration ← generation (← options.required "generation")
  return (id, ⟨expectedGeneration⟩)

def stopInstance (tail : List String) : CliM (UInt32 × StopInstanceMutation) := do
  let options ← Options.parse tail ["generation"] ["force"]
  let id ← number (← options.onePositional "instance ID") "instance ID"
  let expectedGeneration ← generation (← options.required "generation")
  return (id, ⟨expectedGeneration, options.flag "force"⟩)

def parseInstance : List String → CliM ApiRequest
  | [] => refuse "instance action is required"
  | ["list"] => .ok (get "/1.0/instances")
  | "show" :: tail => do
      let id ← onlyId tail
      return get (instancePath id "")
  | "create" :: tail => do
      jsonRequest "POST" "/1.0/instances" (bodies.createInstance (← createInstance tail))
  | "update" :: tail => do
      let (id, mutation) ← updateInstance tail
      jsonRequest "PATCH" (instancePath id "") (bodies.updateInstance mutation)
  | "load" :: tail => do
      let (id, mutation) ← loadInstance tail
      jsonRequest "POST" (instancePath id "/load") (bodies.loadInstance mutation)
  | "load-image" :: tail => do
      let (id, mutation) ← loadImage tail
      jsonRequest "POST" (instancePath id "/load-image") (bodies.loadManagedImage mutation)
  | "start" :: tail => do
      let (id, mutation) ← changeInstance tail
      jsonRequest "POST" (instancePath id "/start") (bodies.instanceLifecycle mutation)
  | "unload" :: tail => do
      let (id, mutation) ← changeInstance tail
      jsonRequest "POST" (instancePath id "/unload") (bodies.instanceLifecycle mutation)
  | "delete" :: tail => do
      let (id, mutation) ← changeInstance tail
      jsonRequest "DELETE" (instancePath id "") (bodies.instanceLifecycle mutation)
  | "stop" :: tail => do
      let (id, mutation) ← stopInstance tail
      jsonRequest "POST" (instancePath id "/stop") (bodies.stopInstance mutation)
  | _ => refuse "unknown instance action"

def importImage (tail : List String) : CliM ImportImageMutation := do
  let options ← Options.parse tail ["generation", "kind", "source", "expected-id"] []
  options.noPositionals
  let (kind, _) ← imageKind (← options.required "kind")
  let expectedId ← (options.value "expected-id").mapM artifactId
  let expectedGeneration ← generation (← options.required "generation")
  let sourcePath ← options.required "source"
  return ⟨expectedGeneration, kind, sourcePath, expectedId⟩

def parseImage : List String → CliM ApiRequest
  | [] => refuse "image action is required"
  | ["list"] => .ok (get "/1.0/images")
  | ["show", kind, id] => do
      let (_, kindPath) ← imageKind kind
      let id ← artifactId id
      return get ("/1.0/images/" ++ kindPath ++ "/" ++ id)
  | "show" :: _ => refuse "image show requires KIND and ID"
  | "import" :: tail => do
      jsonRequest "POST" "/1.0/images" (bodies.importImage (← importImage tail))
  | _ => refuse "unknown image action"

def importOsImage (tail : List String) : CliM ImportOsImageMutation := do
  let options ← Options.parse tail ["generation", "source", "label", "architecture", "expected-id"] []
  options.noPositionals
  let expectedGeneration ← generation (← options.required "generation")
  let sourcePath ← options.required "source"
  let label ← options.required "label"
  let expectedId ← (options.value "expected-id").mapM artifactId
  return ⟨expectedGeneration, sourcePath, label, options.value "architecture", expectedId⟩

def parseOsImage : List String → CliM ApiRequest
  | [] => refuse "os-image action is required"
  | ["list"] => .ok (get "/1.0/os-images")
  | ["show", id] => do
      let id ← artifactId id
      return get ("/1.0/os-images/" ++ id)
  | "show" :: _ => refuse "exactly one OS image ID is required"
  | "import" :: tail => do
      jsonRequest "POST" "/1.0/os-images" (bodies.importOsImage (← importOsImage tail))
  | _ => refuse "unknown os-image action"

def parseStorage : List String → CliM ApiRequest
  | ["list"] => .ok (get "/1.0/storage-devices")
  | _ => refuse "storage list is required"

def parseOperation : List String → CliM ApiRequest
  | [] => refuse "operation action is required"
  | ["list"] => .ok (get "/1.0/operations")
  | "show" :: tail => do
      let id ← onlyToken tail "operation ID"
      return get ("/1.0/operations/" ++ id)
  | "cancel" :: tail => do
      let id ← onlyToken tail "operation ID"
      return ⟨"DELETE", "/1.0/operations/" ++ id, []⟩
  | _ => refuse "unknown operation action"

def parseEvents (args : List String) : CliM ApiRequest := do
  let options ← Options.parse args ["after"] []
  options.noPositionals
  let after ← match options.value "after" with
    | none => pure 0
    | some value => numberU64 value "event cursor"
  return get ("/1.0/events?after=" ++ toString after.toNat)

def parseCommand : List String → CliM ApiRequest
  | [] => refuse "a command is required"
  | "host" :: tail => parseHost tail
  | "pool" :: tail => parsePool bodies tail
  | "instance" :: tail => parseInstance bodies tail
  | "image" :: tail => parseImage bodies tail
  | "os-image" :: tail => parseOsImage bodies tail
  | "storage" :: tail => parseStorage tail
  | "operation" :: tail => parseOperation tail
  | "events" :: tail => parseEvents tail
  | resource :: _ => refuse ("unknown resource " ++ resource)

end Commands

/-! ### Invocations -/

def validateRequestId (value : String) : CliM Unit :=
  rejectIf (isToken value = false) (.usage "request ID must be a 1-128 byte log-safe token")

/-- What a process numbers its requests with. -/
structure Process where
  id : UInt32
  requestSequence : UInt64
  deriving DecidableEq, Repr

/-- The next request id of a process; the sequence goes round. -/
def generatedRequestId (process : Process) : String × Process :=
  ("kernmuxctl-" ++ toString process.id.toNat ++ "-" ++ toString process.requestSequence.toNat,
    { process with requestSequence := process.requestSequence + 1 })

/-- Options in front of the resource. -/
structure Globals where
  socket : String
  pretty : Bool
  requestId : Option String
  deriving DecidableEq, Repr

/-- The loop over the global options; it ends at the first argument that is no option. -/
def parseGlobals (globals : Globals) : List String → CliM (Globals × List String)
  | [] => .ok (globals, [])
  | "--socket" :: rest =>
      match rest with
      | [] => refuse "--socket requires a path"
      | value :: rest =>
          if value = "" then refuse "--socket requires a path"
          else parseGlobals { globals with socket := value } rest
  | "--pretty" :: rest => parseGlobals { globals with pretty := true } rest
  | "--request-id" :: rest =>
      match rest with
      | [] => refuse "--request-id requires a value"
      | value :: rest => do
          validateRequestId value
          parseGlobals { globals with requestId := some value } rest
  | argument :: rest =>
      if (stripPrefix "-" argument).isSome then refuse ("unknown global option " ++ argument)
      else .ok (globals, argument :: rest)

structure Invocation where
  socket : String
  pretty : Bool
  requestId : String
  request : ApiRequest
  deriving DecidableEq, Repr

def parseInvocation (bodies : RequestBodies) (process : Process) (args : List String) :
    CliM (Invocation × Process) := do
  let (globals, command) ← parseGlobals ⟨defaultSocket, false, none⟩ args
  let request ← parseCommand bodies command
  match globals.requestId with
  | some requestId => return (⟨globals.socket, globals.pretty, requestId, request⟩, process)
  | none =>
      let (requestId, process) := generatedRequestId process
      return (⟨globals.socket, globals.pretty, requestId, request⟩, process)

end Kernmux.Cli
