import Kernmux.Gateway.Authentication
import Mathlib.Data.List.Infix

/-!
# Kernmux.Gateway.Requests

**What the gateway does with a request.** A request is for the health check, for
a console, for the API or for a file. Each of the first three has checks of its
own, in its own order. A request of the API goes on to the daemon when its path
is on a list (`daemonPath`); consoles and uploads have ways of their own.
-/

namespace Kernmux.Gateway

open Daemon Library

/-! ### Requests -/

/-- Path and query of a request; the path ends where the query begins. -/
structure Uri where
  path : String
  query : Option String
  noQuery : '?' ∉ path.toList
  deriving DecidableEq

/-- Names, in lower case, and values. -/
abbrev HeaderMap := List (String × List UInt8)

namespace HeaderMap

def getAll (headers : HeaderMap) (name : String) : List (List UInt8) :=
  (headers.filter fun header => header.1 = name).map Prod.snd

/-- The first value under a name. -/
def get (headers : HeaderMap) (name : String) : Option (List UInt8) := (headers.getAll name).head?

/-- The first value under a name, when it is text. -/
def text (headers : HeaderMap) (name : String) : Option String :=
  (headers.get name).bind headerText

end HeaderMap

structure HttpRequest where
  method : Method
  uri : Uri
  headers : HeaderMap
  /-- The body, unless it cannot be read. -/
  body : Option (List UInt8)

/-- One HTTP request to the local management API. -/
structure Request where
  method : String
  path : String
  body : List UInt8
  deriving DecidableEq, Repr

/-- The answer to a request that goes no further. -/
structure Rejection where
  status : ℕ
  code : String
  deriving DecidableEq, Repr

/-- Where a request goes on. -/
inductive Accepted
  | health
  | static
  /-- A console of the daemon is opened. -/
  | console (instanceId : UInt32) (requestId : String)
  /-- The body is an OS image. -/
  | upload
  | forwarded (requestId : String) (request : Request)
  deriving DecidableEq, Repr

/-! ### Tokens -/

def validNumber (value : String) : Bool :=
  let bytes := utf8Bytes value
  !bytes.isEmpty && bytes.length ≤ 10 && bytes.all isAsciiDigit

def isTokenByte (byte : UInt8) : Bool :=
  isAsciiAlphanumeric byte || byte == 46 || byte == 95 || byte == 45 || byte == 58

def validToken (value : String) (max : ℕ) : Bool :=
  let bytes := utf8Bytes value
  !bytes.isEmpty && bytes.length ≤ max && bytes.all isTokenByte

def validRequestId (value : String) : Bool := validToken value 128

/-- What a process numbers its requests with. -/
structure Process where
  id : UInt32
  requestSequence : UInt64
  deriving DecidableEq, Repr

/-- The next request id of a process; the sequence goes round. -/
def generatedRequestId (process : Process) : String × Process :=
  ("gateway-" ++ toString process.id.toNat ++ "-" ++ toString process.requestSequence.toNat,
    { process with requestSequence := process.requestSequence + 1 })

/-- The id of the client is forwarded when it is valid. -/
def requestId (headers : HeaderMap) (process : Process) : String :=
  ((headers.text "x-request-id").filter validRequestId).getD (generatedRequestId process).1

/-! ### Paths -/

def methodName : Method → Option String
  | .get => some "GET"
  | .post => some "POST"
  | .put => some "PUT"
  | .patch => some "PATCH"
  | .delete => some "DELETE"
  | .other _ => none

/-- The parts of a path that are passed on with a method. -/
def allowed (method : Method) : List String → Bool
  | ["1.0"] | ["1.0", "compatibility"] | ["1.0", "operations"] | ["1.0", "events"]
  | ["1.0", "storage-devices"] => method = .get
  | ["1.0", "resource-pool"] => method = .get || method = .put
  | ["1.0", "instances"] => method = .get || method = .post
  | ["1.0", "instances", id] =>
      validNumber id && (method = .get || method = .patch || method = .delete)
  | ["1.0", "instances", id, action] =>
      validNumber id && method = .post &&
        ["load", "load-image", "start", "stop", "unload"].contains action
  | ["1.0", "images"] => method = .get || method = .post
  | ["1.0", "images", kind, id] =>
      method = .get && ["kernel", "initrd"].contains kind && validToken id 128
  | ["1.0", "os-images"] => method = .get || method = .post
  | ["1.0", "os-images", id] => method = .get && validToken id 128
  | ["1.0", "operations", id] => validToken id 128 && (method = .get || method = .delete)
  | _ => false

/-- The only query is the position in the event stream. -/
def queryAllowed (path query : String) : Bool :=
  path = "/1.0/events" && (stripPrefix "after=" query).any fun value =>
    value ≠ "" && (utf8Bytes value).all isAsciiDigit

def daemonPath (method : Method) (uri : Uri) : Option String := do
  let path ← stripPrefix "/api" uri.path
  if (stripPrefix "/1.0" path).isNone ∨ "//".toList <:+: path.toList ∨
      "..".toList <:+: path.toList then
    none
  else if uri.query.any fun query => !queryAllowed path query then none
  else if allowed method (splitText '/' (trimStartMatches '/' path)) then
    some (uri.query.elim path fun query => path ++ "?" ++ query)
  else none

/-- The instance whose console a browser opens. -/
def consoleInstance (method : Method) (path : String) : Option UInt32 :=
  if method ≠ .get then none
  else
    match (splitText '/' path).filter (· ≠ "") with
    | ["api", "1.0", "instances", id, "console"] => do
        let id ← parseUnsigned (2 ^ 32) id
        if 1 ≤ id ∧ id ≤ 511 then some (.ofNat id) else none
    | _ => none

/-! ### Handling a request -/

/-- The checks before a console is opened. -/
def upgrade (request : HttpRequest) (bearerToken : String) (originAllowed : Bool)
    (requestId : String) : Except Rejection Accepted := do
  let instanceId ← okOr (consoleInstance request.method request.uri.path) ⟨404, "route_not_found"⟩
  rejectIf (originAllowed = false) ⟨403, "origin_forbidden"⟩
  let offered ← okOr (request.headers.text "sec-websocket-protocol") ⟨401, "unauthorized"⟩
  rejectIf (validSubprotocols offered bearerToken = false) ⟨401, "unauthorized"⟩
  return .console instanceId requestId

/-- The media type is JSON, whatever its parameters are. -/
def contentTypeIsJson (headers : HeaderMap) : Bool :=
  (headers.text "content-type").any fun value =>
    ((splitText ';' value).head?.any fun media =>
      (utf8Bytes (trimText media)).map lowerAscii == utf8Bytes "application/json")

/-- What `handleApi` checks before it looks at the path. -/
def checkPolicy (config : GatewayConfig) (request : HttpRequest) : Except Rejection Unit := do
  rejectIf (authorized (request.headers.get "authorization") config.bearerToken = false)
    ⟨401, "unauthorized"⟩
  let origin := request.headers.text "origin"
  rejectIf ((origin.any fun value => value ∉ config.allowedOrigins) ∨
      request.method ≠ .get ∧ origin = none)
    ⟨403, "origin_forbidden"⟩
  rejectIf (request.headers.getAll "upgrade" ≠ []) ⟨501, "console_unavailable"⟩

def handleApi (config : GatewayConfig) (uploadPermit : Bool) (process : Process)
    (request : HttpRequest) : Except Rejection Accepted := do
  checkPolicy config request
  if request.uri.path = "/api/1.0/os-images/upload" then
    rejectIf (request.method ≠ .post) ⟨405, "method_not_allowed"⟩
    rejectIf (uploadPermit = false) ⟨503, "upload_busy"⟩
    return .upload
  else
    let path ← okOr (daemonPath request.method request.uri) ⟨404, "route_not_found"⟩
    rejectIf (((request.headers.text "content-length").bind (parseUnsigned (2 ^ 64))).any
        (· > config.maxRequestBytes))
      ⟨413, "request_too_large"⟩
    let body ← okOr (request.body.filter (·.length ≤ config.maxRequestBytes))
      ⟨413, "request_too_large"⟩
    rejectIf (body ≠ [] ∧ request.method = .get) ⟨400, "unexpected_request_body"⟩
    rejectIf (body ≠ [] ∧ contentTypeIsJson request.headers = false) ⟨415, "content_type_required"⟩
    let method ← okOr (methodName request.method) ⟨405, "method_not_allowed"⟩
    return .forwarded (requestId request.headers process) ⟨method, path, body⟩

/-- One request, with what is left of the two kinds of permits. -/
def handle (config : GatewayConfig) (permit uploadPermit : Bool) (process : Process)
    (request : HttpRequest) : Except Rejection Accepted := do
  rejectIf (permit = false) ⟨503, "gateway_busy"⟩
  if request.uri.path = "/healthz" ∧ request.method = .get then return .health
  else if (stripSuffix "/console" request.uri.path).isSome then
    let originAllowed :=
      (request.headers.text "origin").any fun origin => origin ∈ config.allowedOrigins
    upgrade request config.bearerToken originAllowed (requestId request.headers process)
  else if (stripPrefix "/api/" request.uri.path).isSome then
    handleApi config uploadPermit process request
  else return .static

end Kernmux.Gateway
