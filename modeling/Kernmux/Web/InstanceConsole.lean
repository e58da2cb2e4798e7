import Kernmux.Web.ConsoleInput

/-!
# Kernmux.Web.InstanceConsole

The **console window** of the web interface. It keeps one WebSocket to the
gateway, shows what the instance writes and sends what the user types. Output
is not pushed to it: the window asks for output with a read frame, at most one
of which it knows to be outstanding, and asks again some time after an answer.

Event handlers are functions on the state of the window; what they send on the
socket is the second component of their result. A handler runs to its end
before the next event, as handlers of a browser do.
-/

namespace Kernmux.Web

open Api.V1 Daemon Library

/-! ### Frames -/

namespace ConsoleFrame

def attachment : UInt8 := 0x01
def input : UInt8 := 0x10
def read : UInt8 := 0x11
def detach : UInt8 := 0x12
def output : UInt8 := 0x20
def ack : UInt8 := 0x21
def closed : UInt8 := 0x22
def error : UInt8 := 0x7f

end ConsoleFrame

/-- What the browser finds in the texts of the protocol. `JSON.parse` throws with a message of
its own; a closing reason is shown without its quotation marks. -/
structure BrowserJson where
  attachment : List UInt8 → Except String ConsoleAttachment
  detail : List UInt8 → Except String (Option String)
  reason : List UInt8 → String

/-! ### The window -/

/-- The ready state of a WebSocket. -/
inductive SocketState
  | connecting
  | open
  | closing
  | closed
  deriving DecidableEq, Repr

inductive ConsoleStatus
  | connecting
  | negotiating
  | connected
  | closed
  | disconnected
  deriving DecidableEq, Repr

/-- Something that is written to the terminal. -/
inductive TerminalWrite
  | output (bytes : List UInt8)
  | notice (text : String)
  deriving DecidableEq, Repr

structure InstanceConsole where
  instanceId : InstanceId
  socket : SocketState
  attached : Bool
  readOutstanding : Bool
  /-- The delay of the timer that is armed, in milliseconds. -/
  readTimer : Option ℕ
  decoder : ConsoleFrameDecoder
  status : ConsoleStatus
  error : Option String
  terminal : List TerminalWrite
  /-- The window was closed and no longer takes input. -/
  disposed : Bool
  deriving DecidableEq, Repr

/-- What a browser hands to the handler of a message. -/
inductive MessageData
  | binary (bytes : List UInt8)
  | other
  deriving DecidableEq, Repr

namespace InstanceConsole

/-- The window before its socket is open. -/
def new (instanceId : InstanceId) : InstanceConsole where
  instanceId := instanceId
  socket := .connecting
  attached := false
  readOutstanding := false
  readTimer := none
  decoder := .new
  status := .connecting
  error := none
  terminal := []
  disposed := false

/-- Messages that sending a frame gives: none on a socket that is not open, and none when the
encoder throws. -/
def send (console : InstanceConsole) (kind : UInt8) (payload : List UInt8) : List (List UInt8) :=
  if console.socket = .open then (encodeFrame kind payload).toOption.toList else []

/-- Arms the timer of the next read, unless a read is outstanding or the timer is armed. -/
def scheduleRead (console : InstanceConsole) (delay : ℕ) : InstanceConsole :=
  if console.readOutstanding || console.readTimer.isSome then console
  else { console with readTimer := some delay }

/-- The timer of the next read fires. -/
def timerFires (console : InstanceConsole) : InstanceConsole × List (List UInt8) :=
  let console := { console with readTimer := none }
  if console.socket = .open then
    let console := { console with readOutstanding := true }
    (console, console.send ConsoleFrame.read [])
  else (console, [])

def onOpen (console : InstanceConsole) : InstanceConsole :=
  { console with socket := .open, status := .negotiating }

/-- The handler of one frame; an error is what it throws. -/
def onFrame (json : BrowserJson) (console : InstanceConsole) (frame : DecodedFrame) :
    Except String InstanceConsole :=
  if frame.kind = ConsoleFrame.attachment then do
    let attachment ← json.attachment frame.payload
    if attachment.instanceId ≠ console.instanceId ∨ attachment.capabilities.binary = false then
      throw "The console attachment does not match this instance."
    else
      return scheduleRead { console with attached := true, status := .connected } 0
  else if frame.kind = ConsoleFrame.output then
    return scheduleRead { console with
      readOutstanding := false
      terminal := console.terminal ++ [.output frame.payload] } 50
  else if frame.kind = ConsoleFrame.ack then
    -- The acknowledgement of input comes here as well, while a read may be outstanding.
    return scheduleRead { console with readOutstanding := false } 50
  else if frame.kind = ConsoleFrame.closed then
    return { console with
      status := .closed
      terminal := console.terminal ++
        [.notice ("\r\n[console " ++ json.reason frame.payload ++ "]")] }
  else if frame.kind = ConsoleFrame.error then do
    let message ← json.detail frame.payload
    throw (message.getD "The console rejected the request.")
  else return console

/-- Frame after frame until a handler throws. -/
def onFrames (json : BrowserJson) :
    InstanceConsole → List DecodedFrame → InstanceConsole × Option String
  | console, [] => (console, none)
  | console, frame :: frames =>
      match onFrame json console frame with
      | .ok console => onFrames json console frames
      | .error message => (console, some message)

/-- Shows an error and closes the socket. -/
def fail (console : InstanceConsole) (message : String) : InstanceConsole :=
  { console with error := some message, socket := .closing }

def onMessage (json : BrowserJson) (console : InstanceConsole) : MessageData → InstanceConsole
  | .other => console.fail "The gateway returned a non-binary console message."
  | .binary bytes =>
      match console.decoder.push bytes with
      | .error error => console.fail error.message
      | .ok (frames, decoder) =>
          match onFrames json { console with decoder := decoder } frames with
          | (reached, none) => reached
          | (reached, some message) => reached.fail message

def onError (console : InstanceConsole) : InstanceConsole :=
  { console with error := some "Unable to connect to the instance console." }

def onClose (console : InstanceConsole) : InstanceConsole :=
  { console with socket := .closed, status := .disconnected }

/-- The user types. -/
def onData (console : InstanceConsole) (data : List UInt8) : List (List UInt8) :=
  console.send ConsoleFrame.input data

/-- The window is closed. -/
def onCleanup (console : InstanceConsole) : InstanceConsole × List (List UInt8) :=
  let console := { console with readTimer := none, disposed := true }
  let sent := if console.attached then console.send ConsoleFrame.detach [] else []
  ({ console with socket := if console.socket = .closed then .closed else .closing }, sent)

end InstanceConsole

/-! ### What a handler does -/

namespace InstanceConsole

variable {json : BrowserJson} {console : InstanceConsole}

/-- A read is on its way or will be asked for. -/
def Pumps (console : InstanceConsole) : Prop :=
  console.readOutstanding = true ∨ console.readTimer.isSome = true

theorem send_of_open (h : console.socket = .open) {kind : UInt8} {payload : List UInt8}
    (hsize : payload.length ≤ maxConsolePayload) :
    console.send kind payload = [wireFrame kind payload] := by
  simp [send, h, encodeFrame, Nat.not_lt.mpr hsize, wireFrame, Except.toOption]

theorem send_of_long {kind : UInt8} {payload : List UInt8}
    (hsize : maxConsolePayload < payload.length) : console.send kind payload = [] := by
  simp [send, encodeFrame, hsize, Except.toOption]

theorem send_of_not_open (h : console.socket ≠ .open) (kind : UInt8) (payload : List UInt8) :
    console.send kind payload = [] := by
  simp [send, h]

theorem timerFires_of_open (h : console.socket = .open) :
    console.timerFires = ({ console with readTimer := none, readOutstanding := true },
      [wireFrame frameRead []]) := by
  rw [timerFires, if_pos h]
  exact Prod.ext rfl (send_of_open h (Nat.zero_le _))

theorem timerFires_of_not_open (h : console.socket ≠ .open) :
    console.timerFires = ({ console with readTimer := none }, []) := if_neg h

section Schedule

variable (console) (delay : ℕ)

@[simp] theorem scheduleRead_socket : (console.scheduleRead delay).socket = console.socket := by
  unfold scheduleRead; split <;> rfl

@[simp] theorem scheduleRead_decoder : (console.scheduleRead delay).decoder = console.decoder := by
  unfold scheduleRead; split <;> rfl

@[simp] theorem scheduleRead_terminal :
    (console.scheduleRead delay).terminal = console.terminal := by
  unfold scheduleRead; split <;> rfl

@[simp] theorem scheduleRead_attached :
    (console.scheduleRead delay).attached = console.attached := by
  unfold scheduleRead; split <;> rfl

@[simp] theorem scheduleRead_readOutstanding :
    (console.scheduleRead delay).readOutstanding = console.readOutstanding := by
  unfold scheduleRead; split <;> rfl

/-- Scheduling never leaves a window that does nothing. -/
theorem scheduleRead_pumps : (console.scheduleRead delay).Pumps := by
  unfold scheduleRead Pumps
  split
  case isTrue h => simpa using h
  case isFalse => simp

end Schedule

end InstanceConsole

end Kernmux.Web
