import Kernmux.Gateway.Requests
import Kernmux.Library.Folder
import Kernmux.Library.PathText

/-!
# Kernmux.Gateway.Upload

**Uploads of OS images.** The body of an upload is a sequence of fields. The
gateway writes the file among them to a staging file of its own (`.part`), gives
it its final name (`.ready`) when all fields have been read, and asks the daemon
to take it from there. The names are made of the id of the process and of its
request counter. The staging file is created only where there is none, but it is
removed and renamed by its name.
-/

namespace Kernmux.Gateway

open Library Faulty

/-! ### The body -/

/-- A field of the body, as it is read: the pieces of its content, whether they end as they should,
and its content as text where it can be read so. -/
structure Field where
  name : Option String
  chunks : List (List UInt8)
  complete : Bool
  text : Option String
  deriving DecidableEq, Repr

/-- The fields of a body, and whether they end as they should. -/
structure Multipart where
  fields : List Field
  complete : Bool
  deriving DecidableEq, Repr

/-- The fields that come with a file. -/
inductive MetadataField
  | label
  | architecture
  | expectedGeneration
  | expectedSha256
  deriving DecidableEq, Repr

namespace MetadataField

def name : MetadataField → String
  | label => "label"
  | architecture => "architecture"
  | expectedGeneration => "expected_generation"
  | expectedSha256 => "expected_sha256"

def all : List MetadataField := [label, architecture, expectedGeneration, expectedSha256]

def ofName (name : String) : Option MetadataField := all.find? (·.name = name)

end MetadataField

/-- What has been read so far. -/
structure Received where
  texts : MetadataField → Option String
  uploaded : Bool

def Received.none : Received := ⟨fun _ => .none, false⟩

/-- The staging of uploads. -/
abbrev Staging (ε α : Type) := Faulty (Folder OsString) ε α

def storageUnavailable : String := "upload_storage_unavailable"

/-- Write the pieces of a file, as long as they are not too many. -/
def receiveChunks (max : UInt64) (part : OsString) : ℕ → List (List UInt8) → Staging String ℕ
  | written, [] => pure written
  | written, chunk :: chunks => do
      let written := written + chunk.length
      ofExcept (rejectIf (2 ^ 64 ≤ written) "upload_too_large")
      ofExcept (rejectIf (max.toNat < written) "upload_too_large")
      mapError (fun _ => storageUnavailable) (Folder.append part chunk)
      receiveChunks max part written chunks

def receiveFile (max : UInt64) (part : OsString) (field : Field) : Staging String Unit := do
  mapError (fun _ => storageUnavailable) (Folder.createNew part)
  let written ← receiveChunks max part 0 field.chunks
  ofExcept (rejectIf (field.complete = false) "invalid_multipart")
  ofExcept (rejectIf (written = 0) "empty_upload")
  mapError (fun _ => storageUnavailable) Folder.sync

def receiveText (received : Received) (slot : MetadataField) (field : Field) :
    Except String Received := do
  rejectIf ((received.texts slot).isSome) "duplicate_field"
  let text ← okOr field.text "invalid_multipart"
  return { received with texts := Function.update received.texts slot (some text) }

def receiveField (max : UInt64) (part : OsString) (received : Received) (field : Field) :
    Staging String Received :=
  match field.name with
  | none => fail "invalid_multipart"
  | some name =>
      if name = "file" then do
        ofExcept (rejectIf (received.uploaded = true) "duplicate_field")
        receiveFile max part field
        return { received with uploaded := true }
      else
        match MetadataField.ofName name with
        | none => fail "duplicate_field"
        | some slot => ofExcept (receiveText received slot field)

def receiveFields (max : UInt64) (part : OsString) : Received → List Field → Staging String Received
  | received, [] => pure received
  | received, field :: fields => do
      let received ← receiveField max part received field
      receiveFields max part received fields

def receive (max : UInt64) (part : OsString) (body : Multipart) : Staging String Received := do
  let received ← receiveFields max part .none body.fields
  ofExcept (rejectIf (body.complete = false) "invalid_multipart")
  return received

/-! ### The request to the daemon -/

structure UploadImportMutation where
  expectedGeneration : UInt64
  sourcePath : String
  label : String
  architecture : Option String
  expectedId : Option String
  deriving DecidableEq, Repr

/-- What comes back from the daemon: a status with the id of the operation, if there is one, and the
states it is found in later on; or nothing. -/
inductive DaemonReply
  | answered (status : ℕ) (operation : Option String) (polls : List (Option String))
  | unavailable
  | crashed
  deriving DecidableEq, Repr

/-- An upload: the headers, the body by its boundary, and how the daemon replies. -/
structure UploadCall where
  headers : HeaderMap
  parseBoundary : String → Option String
  multipart : String → Multipart
  toVec : UploadImportMutation → Option (List UInt8)
  execute : String → Request → DaemonReply

/-- A request that was sent, with the files as they were then, and the answer to the client. -/
structure Forwarded where
  requestId : String
  request : Request
  mutation : UploadImportMutation
  files : OsString → Option (List UInt8)
  status : ℕ
  code : Option String

def partPath (uploadDir : OsString) (uploadId : String) : OsString :=
  uploadDir.join (.ofString (uploadId ++ ".part"))

def readyPath (uploadDir : OsString) (uploadId : String) : OsString :=
  uploadDir.join (.ofString (uploadId ++ ".ready"))

/-- The operation has ended, as far as its state can be understood. -/
def isTerminal (state : Option String) : Bool :=
  state.any fun state =>
    ["succeeded", "failed", "cancelled", "indeterminate", "unknown"].contains state

/-- The file is removed when one of the next looks finds the operation at its end. -/
def cleanupAfterOperation {ε : Type} (ready : OsString) (operation : Option String)
    (polls : List (Option String)) : Staging ε Unit :=
  if operation.isSome && (polls.take 120).any isTerminal then Folder.remove ready else pure ()

/-- Remove a file and end with an answer. -/
def discard {α : Type} (path : OsString) (rejection : Rejection) : Staging Rejection α := do
  Folder.remove path
  fail rejection

/-- The file and what is to be said about it. -/
structure Staged where
  label : String
  expectedGeneration : UInt64
  architecture : Option String
  expectedSha256 : Option String
  deriving DecidableEq, Repr

/-- Give the file its final name, once the fields have been found good. -/
def stage (part ready : OsString) (received : Received) : Staging Rejection Staged :=
  match (received.texts .label).filter fun label => !label.isEmpty with
  | none => discard part ⟨400, "label_required"⟩
  | some label =>
      match (received.texts .expectedGeneration).bind (parseUnsigned (2 ^ 64)) with
      | none => discard part ⟨400, "expected_generation_required"⟩
      | some generation => do
          let renamed ← if received.uploaded then attempt (Folder.rename part ready)
            else pure (.error ())
          match renamed with
          | .error () => discard part ⟨500, storageUnavailable⟩
          | .ok () => return {
              label
              expectedGeneration := UInt64.ofNat generation
              architecture := (received.texts .architecture).filter fun value => !value.isEmpty
              expectedSha256 := (received.texts .expectedSha256).filter fun value => !value.isEmpty }

/-- Read the body, and give its file the final name. -/
def prepare (max : UInt64) (part ready : OsString) (body : Multipart) :
    Staging Rejection Staged := do
  let parsed ← attempt (receive max part body)
  match parsed with
  | .error code => discard part ⟨if code = "upload_too_large" then 413 else 400, code⟩
  | .ok received => stage part ready received

def Staged.mutation (staged : Staged) (ready : OsString) : UploadImportMutation where
  expectedGeneration := staged.expectedGeneration
  sourcePath := ready.toStringLossy
  label := staged.label
  architecture := staged.architecture
  expectedId := staged.expectedSha256.map fun value =>
    if (stripPrefix "sha256:" value).isSome then value else "sha256:" ++ value

def submit (call : UploadCall) (uploadId : String) (ready : OsString) (staged : Staged) :
    Staging Rejection Forwarded :=
  match call.toVec (staged.mutation ready) with
  | none => discard ready ⟨500, "gateway_failure"⟩
  | some body => do
      let request : Request := ⟨"POST", "/1.0/os-images", body⟩
      let folder ← get
      let forwarded := Forwarded.mk uploadId request (staged.mutation ready) folder.files
      match call.execute uploadId request with
      | .answered status operation polls => do
          if status = 202 then cleanupAfterOperation ready operation polls
          else Folder.remove ready
          return forwarded status none
      | .unavailable => do
          Folder.remove ready
          return forwarded 502 (some "daemon_unavailable")
      | .crashed => do
          Folder.remove ready
          return forwarded 502 (some "gateway_failure")

/-- The checks before anything is read, with the boundary they find. -/
def uploadBoundary (config : GatewayConfig) (call : UploadCall) : Except Rejection String := do
  let contentLength ← okOr ((call.headers.text "content-length").bind (parseUnsigned (2 ^ 64)))
    ⟨411, "content_length_required"⟩
  let multipartLimit := min (config.maxUploadBytes.toNat + 64 * 1024) (2 ^ 64 - 1)
  rejectIf (contentLength = 0 ∨ multipartLimit < contentLength) ⟨413, "upload_too_large"⟩
  okOr ((call.headers.text "content-type").bind call.parseBoundary) ⟨415, "multipart_required"⟩

/-- An upload ends with an answer to the client (`error`), or with a request to the daemon. -/
def handleOsImageUpload (config : GatewayConfig) (process : Process) (call : UploadCall) :
    Staging Rejection Forwarded := do
  let boundary ← ofExcept (uploadBoundary config call)
  -- the directory is created when it is missing
  mapError (fun _ => ⟨500, storageUnavailable⟩) Folder.sync
  let uploadId := (generatedRequestId process).1
  let part := partPath config.uploadDir uploadId
  let ready := readyPath config.uploadDir uploadId
  let staged ← prepare config.maxUploadBytes part ready (call.multipart boundary)
  submit call uploadId ready staged

end Kernmux.Gateway
