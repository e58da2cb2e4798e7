import Kernmux.Library.Stream

/-!
# Kernmux.Gateway.BrowserConsole

The console bridge of the gateway. Its loop waits for the browser and for the
daemon at once, and `bridgeTurn` is one turn of it: what a read from the daemon
returns is sent on as one WebSocket message, until a read returns nothing or
fails, and the payload of a message goes to the daemon as it is.
-/

namespace Kernmux.Gateway

open Library

/-- Largest payload of a WebSocket message: a frame of the console protocol. -/
def maxConsoleWireBytes : ℕ := 64 * 1024 + 5

/-- A message of a WebSocket. -/
inductive WebSocketMessage
  | binary (payload : List UInt8)
  | text
  | ping (payload : List UInt8)
  | pong (payload : List UInt8)
  | close (reason : Option (List UInt8))
  | frame
  deriving DecidableEq, Repr

/-- What the bridge finds after waiting on both sides. -/
inductive BridgeEvent
  /-- The next message of the browser: none when the stream has ended or failed. -/
  | message (arrived : Option WebSocketMessage)
  /-- A read from the daemon into the bridge's buffer. -/
  | read (reply : ReadReply)
  deriving DecidableEq, Repr

/-- What the bridge does in one turn: bytes for the daemon, messages for the browser, and
whether the loop ends. -/
structure BridgeTurn where
  toDaemon : List UInt8
  toBrowser : List WebSocketMessage
  ends : Bool
  deriving DecidableEq, Repr

/-- One turn of the bridge, when what it writes is taken. -/
def bridgeTurn : BridgeEvent → BridgeTurn
  | .message (some (.binary payload)) =>
      if payload.length ≤ maxConsoleWireBytes then ⟨payload, [], false⟩
      else ⟨[], [.close none], true⟩
  | .message (some (.ping payload)) => ⟨[], [.pong payload], false⟩
  | .message (some (.pong _)) => ⟨[], [], false⟩
  | .message (some (.close reason)) => ⟨[], [.close reason], true⟩
  | .message (some .text) | .message (some .frame) | .message none => ⟨[], [.close none], true⟩
  | .read (.data []) | .read (.failed _) => ⟨[], [.close none], true⟩
  | .read (.data (byte :: bytes)) => ⟨[], [.binary (byte :: bytes)], false⟩

theorem bridgeTurn_binary {payload : List UInt8} (h : payload.length ≤ maxConsoleWireBytes) :
    bridgeTurn (.message (some (.binary payload))) = ⟨payload, [], false⟩ := if_pos h

theorem bridgeTurn_read {bytes : List UInt8} (h : bytes ≠ []) :
    bridgeTurn (.read (.data bytes)) = ⟨[], [.binary bytes], false⟩ := by
  cases bytes with
  | nil => exact absurd rfl h
  | cons byte bytes => rfl

end Kernmux.Gateway
