import Kernmux.Api.V1
import Kernmux.Library.Stream

/-!
# Kernmux.Daemon.Console

The console proxy: an exclusive session on an instance's MKTTY device, and the
framed protocol that a client speaks over its stream. The device and the
client's stream answer as they like (`ByteStream`). Everything the two see is
written down in the log of a `ConsoleIo`: what the device took and gave, the
frames that arrived and the frames that were sent completely, and the closing
of the session.
-/

namespace Kernmux.Daemon

open Api.V1 Library Faulty

/-! ### Constants -/

/-- Largest binary payload accepted in one management-protocol frame. -/
def defaultMaxConsoleFrameBytes : ℕ := 64 * 1024

def maxConsoleControlFrameBytes : ℕ := 4 * 1024

def maxInstanceId : UInt32 := 511

def frameAttachment : UInt8 := 0x01
def frameInput : UInt8 := 0x10
def frameRead : UInt8 := 0x11
def frameDetach : UInt8 := 0x12
def frameResize : UInt8 := 0x13
def frameOutput : UInt8 := 0x20
def frameAck : UInt8 := 0x21
def frameClosed : UInt8 := 0x22
def frameError : UInt8 := 0x7f

/-! ### Errors -/

/-- Stable category for console failures. -/
inductive ConsoleErrorKind
  | invalidInstance
  | alreadyAttached
  | frameTooLarge
  | resizeUnsupported
  | closed (reason : ConsoleCloseReason)
  | deviceUnavailable
  | deviceIo
  deriving DecidableEq, Repr

/-- Console failure with a stable public category and optional private source. -/
structure ConsoleError where
  kind : ConsoleErrorKind
  source : Option IoError
  deriving DecidableEq, Repr

namespace ConsoleError

def stable (kind : ConsoleErrorKind) : ConsoleError := ⟨kind, none⟩

def device (error : IoError) : ConsoleError where
  kind := if error.kind = .notFound ∨ error.rawOsError = some 19 then .deviceUnavailable
    else .deviceIo
  source := some error

/-- Redacted error suitable for the management API. -/
def apiError (error : ConsoleError) : ApiError :=
  let (code, message, retryable) : ErrorCode × String × Bool :=
    match error.kind with
    | .invalidInstance => (.invalidRequest, "invalid console instance", false)
    | .alreadyAttached => (.conflict, "instance console already has an attached client", true)
    | .frameTooLarge => (.invalidRequest, "console frame exceeds its limit", false)
    | .resizeUnsupported =>
        (.unsupported, "console resize is not supported by this host transport", false)
    | .closed _ => (.conflict, "console session is closed", false)
    | .deviceUnavailable => (.backendUnavailable, "console device is unavailable", true)
    | .deviceIo => (.backendUnavailable, "console device operation failed", true)
  { code := code, message := message, retryable := retryable, currentGeneration := none,
    diagnostics := [] }

end ConsoleError

/-- Failure while exchanging bounded console protocol frames. -/
inductive ConsoleProtocolError
  | io (error : IoError)
  | console (error : ConsoleError)
  | invalidFrame
  deriving DecidableEq, Repr

def closeReasonForIo (error : IoError) : ConsoleCloseReason :=
  if error.kind ∈ [.brokenPipe, .connectionAborted, .connectionReset, .unexpectedEof] ∨
      error.rawOsError ∈ [some 19, some 107] then
    .instanceStopped
  else if error.kind = .notFound then .deviceUnavailable
  else .transportError

/-! ### Writing -/

/-- What a stream has taken of some data, how the call ended, and what the stream is going
to answer next. -/
structure Written where
  accepted : List UInt8
  ended : Ended IoError Unit
  left : List WriteReply

def writeAllRetry : List WriteReply → List UInt8 → Written
  | writes, [] => ⟨[], .ok (), writes⟩
  | [], _ :: _ => ⟨[], .stopped, []⟩
  | .failed error :: writes, data =>
      if error.kind = .interrupted then writeAllRetry writes data
      else ⟨[], .error error, writes⟩
  | .accepts limit :: writes, data =>
      if limit = 0 then ⟨[], .error (.ofKind .writeZero), writes⟩
      else
        let later := writeAllRetry writes (data.drop limit)
        { later with accepted := data.take limit ++ later.accepted }

/-- The selector of an instance is accepted in one piece or not at all. -/
def writeSelector : List WriteReply → List UInt8 → Ended IoError Unit × List WriteReply
  | [], _ => (.stopped, [])
  | .failed error :: writes, data =>
      if error.kind = .interrupted then writeSelector writes data else (.error error, writes)
  | .accepts limit :: writes, data =>
      if min limit data.length = data.length then (.ok (), writes)
      else (.error (.ofKind .writeZero), writes)

/-- Read from the device until a read is not interrupted. -/
def readRetry (limit : ℕ) : List ReadReply → Ended IoError (List UInt8) × List ReadReply
  | .failed error :: rest =>
      if error.kind = .interrupted then readRetry limit rest else (.error error, rest)
  | replies => readSome limit replies

/-! ### Sessions -/

/-- One bounded read from a console stream. -/
inductive ConsoleRead
  | data (bytes : List UInt8)
  | pending
  | closed (reason : ConsoleCloseReason)
  deriving DecidableEq, Repr

/-- Exclusive binary console session on a device `δ`. The lease holds the instance's place
among the attached ones. -/
structure ConsoleSession (δ : Type) where
  attachment : ConsoleAttachment
  device : Option δ
  lease : Option InstanceId
  closed : Option ConsoleCloseReason

namespace ConsoleSession

variable {δ : Type}

/-- The session that a successful attachment begins with. -/
def attached (instanceId : InstanceId) (maxFrameBytes : UInt32) (device : δ) :
    ConsoleSession δ where
  attachment := {
    instanceId := instanceId
    capabilities := { binary := true, resize := false }
    maxFrameBytes := maxFrameBytes }
  device := some device
  lease := some instanceId
  closed := none

/-- Closes the session once; the first reason stays. -/
def close (session : ConsoleSession δ) (reason : ConsoleCloseReason) :
    ConsoleCloseReason × ConsoleSession δ :=
  match session.closed with
  | some existing => (existing, session)
  | none => (reason, { session with device := none, lease := none, closed := some reason })

/-- Closes the stream after authoritative inventory observes instance stop. -/
def instanceStopped (session : ConsoleSession δ) : ConsoleCloseReason × ConsoleSession δ :=
  session.close .instanceStopped

/-- Detaches the client and closes the privileged device. -/
def detach (session : ConsoleSession δ) : ConsoleCloseReason × ConsoleSession δ :=
  session.close .clientDetached

/-- Reports that resize is unavailable on the MKTTY transport. -/
def resize (_session : ConsoleSession δ) (_size : ConsoleSize) : Except ConsoleError Unit :=
  .error (.stable .resizeUnsupported)

end ConsoleSession

/-! ### The log of a session -/

/-- Something that happened at the device or at the client's stream. -/
inductive ConsoleEvent
  /-- The device took these bytes. -/
  | deviceWrote (bytes : List UInt8)
  /-- The device gave these bytes. -/
  | deviceRead (bytes : List UInt8)
  /-- A whole frame arrived from the client. -/
  | received (kind : UInt8) (payload : List UInt8)
  /-- A whole frame was written to the client. -/
  | sent (kind : UInt8) (payload : List UInt8)
  /-- The session was closed. -/
  | closed (reason : ConsoleCloseReason)
  deriving DecidableEq, Repr

/-- A session on a device and the stream of its client. -/
structure ConsoleIo where
  client : ByteStream
  session : ConsoleSession ByteStream
  /-- Bytes that the client's stream has accepted. -/
  wire : List UInt8
  log : List ConsoleEvent

/-- JSON texts of the protocol; a serializer may fail. -/
structure ConsoleJson where
  attachment : ConsoleAttachment → Option (List UInt8)
  apiError : ApiError → Option (List UInt8)
  closeReason : ConsoleCloseReason → Option (List UInt8)
  parseSize : List UInt8 → Option ConsoleSize

/-- A frame on the wire: its kind, the length of its payload, its payload. -/
def wireFrame (kind : UInt8) (payload : List UInt8) : List UInt8 :=
  [kind] ++ toBeBytes payload.length ++ payload

namespace ConsoleIo

/-- Write something down. -/
def note (events : List ConsoleEvent) (io : ConsoleIo) : ConsoleIo :=
  { io with log := io.log ++ events }

/-- Write to the client, retrying interrupted and partial writes. -/
def clientWriteAll (data : List UInt8) : Faulty ConsoleIo IoError Unit := fun io =>
  let written := writeAllRetry io.client.writes data
  (written.ended, { io with
    client := { io.client with writes := written.left }
    wire := io.wire ++ written.accepted })

/-- Read from the client until a read is not interrupted. -/
def clientReadRetry (limit : ℕ) : Faulty ConsoleIo IoError (List UInt8) := fun io =>
  let (ended, reads) := readRetry limit io.client.reads
  (ended, { io with client := { io.client with reads := reads } })

def clientReadExact (count : ℕ) : Faulty ConsoleIo IoError (List UInt8) := fun io =>
  let (ended, reads) := readExact count io.client.reads
  (ended, { io with client := { io.client with reads := reads } })

/-- Write to the device of the session. -/
def deviceWriteAll (device : ByteStream) (data : List UInt8) : Faulty ConsoleIo IoError Unit :=
  fun io =>
    let written := writeAllRetry device.writes data
    (written.ended, note [.deviceWrote written.accepted] { io with
      session := { io.session with device := some { device with writes := written.left } } })

/-- The bytes that a read has given, if it has. -/
def readEvents : Ended IoError (List UInt8) → List ConsoleEvent
  | .ok bytes => if bytes = [] then [] else [.deviceRead bytes]
  | .error _ | .stopped => []

/-- Read from the device of the session. -/
def deviceRead (device : ByteStream) (limit : ℕ) : Faulty ConsoleIo IoError (List UInt8) :=
  fun io =>
    let (ended, reads) := readRetry limit device.reads
    (ended, note (readEvents ended) { io with
      session := { io.session with device := some { device with reads := reads } } })

/-- Close the session. -/
def close {ε : Type} (reason : ConsoleCloseReason) : Faulty ConsoleIo ε ConsoleCloseReason :=
  fun io =>
    let (first, session) := io.session.close reason
    let events := if io.session.closed = none then [.closed first] else []
    (.ok first, note events { io with session := session })

/-! ### Frames of a session -/

/-- Reads one bounded binary frame. -/
def readFrame : Faulty ConsoleIo ConsoleError ConsoleRead := do
  let io ← get
  match io.session.closed, io.session.device with
  | some reason, _ => return .closed reason
  | none, none => fail (.stable (.closed .deviceUnavailable))
  | none, some device =>
      match ← attempt (deviceRead device io.session.attachment.maxFrameBytes.toNat) with
      | .error error =>
          if error.kind = .wouldBlock then return .pending
          else
            let _ ← close (closeReasonForIo error)
            fail (.device error)
      | .ok [] => return .closed (← close .endOfStream)
      | .ok data => return .data data

/-- Writes one binary frame, retrying interrupted and partial writes. -/
def writeFrame (data : List UInt8) : Faulty ConsoleIo ConsoleError Unit := do
  let io ← get
  if data.length > io.session.attachment.maxFrameBytes.toNat then
    fail (.stable .frameTooLarge)
  else
    match io.session.closed, io.session.device with
    | some reason, _ => fail (.stable (.closed reason))
    | none, none => fail (.stable (.closed .deviceUnavailable))
    | none, some device =>
        match ← attempt (deviceWriteAll device data) with
        | .ok () => return ()
        | .error error =>
            let _ ← close (closeReasonForIo error)
            fail (.device error)

/-! ### The protocol -/

def readProtocolFrame (maxPayload : ℕ) :
    Faulty ConsoleIo ConsoleProtocolError (Option (UInt8 × List UInt8)) := do
  match ← mapError .io (clientReadRetry 1) with
  | [] => return none
  | kind :: _ =>
      let length := fromBeBytes (← mapError .io (clientReadExact 4))
      if length > maxPayload then fail .invalidFrame
      else
        let payload ← mapError .io (clientReadExact length)
        modify (note [.received kind payload])
        return some (kind, payload)

def writeProtocolFrame (kind : UInt8) (payload : List UInt8) :
    Faulty ConsoleIo ConsoleProtocolError Unit := do
  if payload.length ≥ 2 ^ 32 then fail .invalidFrame
  else
    mapError .io (clientWriteAll [kind])
    mapError .io (clientWriteAll (toBeBytes payload.length))
    mapError .io (clientWriteAll payload)
    modify (note [.sent kind payload])

/-- A text of the protocol. -/
def serialize (text : Option (List UInt8)) : Faulty ConsoleIo ConsoleProtocolError (List UInt8) :=
  match text with
  | none => fail .invalidFrame
  | some bytes => pure bytes

def writeConsoleError (json : ConsoleJson) (error : ConsoleError) :
    Faulty ConsoleIo ConsoleProtocolError Unit := do
  writeProtocolFrame frameError (← serialize (json.apiError error.apiError))

def writeClose (json : ConsoleJson) (reason : ConsoleCloseReason) :
    Faulty ConsoleIo ConsoleProtocolError Unit := do
  writeProtocolFrame frameClosed (← serialize (json.closeReason reason))

/-- Answer to one frame of the client: the reason when the session has ended with it. -/
def serveFrame (json : ConsoleJson) (kind : UInt8) (payload : List UInt8) :
    Faulty ConsoleIo ConsoleProtocolError (Option ConsoleCloseReason) := do
  if kind = frameInput then
    match ← attempt (writeFrame payload) with
    | .ok () =>
        writeProtocolFrame frameAck []
        return none
    | .error error =>
        writeConsoleError json error
        fail (.console error)
  else if kind = frameRead ∧ payload = [] then
    match ← attempt readFrame with
    | .ok (.data data) =>
        writeProtocolFrame frameOutput data
        return none
    | .ok .pending =>
        writeProtocolFrame frameAck []
        return none
    | .ok (.closed reason) =>
        writeClose json reason
        return some reason
    | .error error =>
        writeConsoleError json error
        fail (.console error)
  else if kind = frameDetach ∧ payload = [] then
    let reason ← close .clientDetached
    writeClose json reason
    return some reason
  else if kind = frameResize then
    match json.parseSize payload with
    | none => fail .invalidFrame
    | some size =>
        let io ← get
        match io.session.resize size with
        | .error error => writeConsoleError json error
        | .ok () => pure ()
        return none
  else fail .invalidFrame

end ConsoleIo

end Kernmux.Daemon
