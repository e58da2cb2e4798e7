import Kernmux.Daemon.ConsoleSound
import Kernmux.Gateway.BrowserConsole
import Kernmux.Library.Framing

/-!
# Kernmux.Web.ConsoleProtocol

**Console frames cross all three programs intact.** The daemon writes frames to
its stream, the gateway cuts the stream into messages, and the browser's
decoder takes the frames out of the messages again.

The decoder is the receiver of a framing format (`consoleFraming`). Its buffer
never holds a complete frame, so that a message can be added to it without
passing its limit (`push_of_append`). What it has returned after some messages
are the frames that have arrived completely.
-/

namespace Kernmux.Web

open Daemon Gateway Library

/-! ### The decoder -/

def maxConsolePayload : ℕ := 64 * 1024

structure DecodedFrame where
  kind : UInt8
  payload : List UInt8
  deriving DecidableEq, Repr

/-- Why the decoder gives up. -/
inductive DecodeError
  | bufferLimit
  | frameSize
  deriving DecidableEq, Repr

def DecodeError.message : DecodeError → String
  | .bufferLimit => "Console stream buffer exceeded its limit."
  | .frameSize => "Console frame exceeds 64 KiB."

/-- The frames at the beginning of some bytes, and the bytes that are left. -/
def decodeFrames : List UInt8 → Except DecodeError (List DecodedFrame × List UInt8)
  | kind :: b3 :: b2 :: b1 :: b0 :: rest =>
      let length := fromBeBytes [b3, b2, b1, b0]
      if length > maxConsolePayload then .error .frameSize
      else if rest.length < length then .ok ([], kind :: b3 :: b2 :: b1 :: b0 :: rest)
      else do
        let (frames, left) ← decodeFrames (rest.drop length)
        return (⟨kind, rest.take length⟩ :: frames, left)
  | short => .ok ([], short)
termination_by bytes => bytes.length
decreasing_by simp only [List.length_drop, List.length_cons]; omega

structure ConsoleFrameDecoder where
  buffered : List UInt8
  deriving DecidableEq, Repr

/-- A decoder as the browser makes it for a session. -/
def ConsoleFrameDecoder.new : ConsoleFrameDecoder := ⟨[]⟩

/-- Frames that are complete with this chunk. A decoder that throws is left as it was. -/
def ConsoleFrameDecoder.push (decoder : ConsoleFrameDecoder) (chunk : List UInt8) :
    Except DecodeError (List DecodedFrame × ConsoleFrameDecoder) :=
  if decoder.buffered.length + chunk.length > maxConsolePayload * 2 + 10 then
    .error .bufferLimit
  else do
    let (frames, left) ← decodeFrames (decoder.buffered ++ chunk)
    return (frames, ⟨left⟩)

/-- Frames that the decoder returns for message after message. -/
def receive (decoder : ConsoleFrameDecoder) :
    List (List UInt8) → Except DecodeError (List DecodedFrame × ConsoleFrameDecoder)
  | [] => .ok ([], decoder)
  | message :: messages => do
      let (frames, decoder) ← decoder.push message
      let (more, decoder) ← receive decoder messages
      return (frames ++ more, decoder)

/-! ### The format -/

/-- One frame at the beginning of some bytes. -/
def parseFrame : List UInt8 → Parsed DecodedFrame UInt8
  | kind :: b3 :: b2 :: b1 :: b0 :: rest =>
      let length := fromBeBytes [b3, b2, b1, b0]
      if length > maxConsolePayload then .malformed
      else if rest.length < length then .more
      else .frame ⟨kind, rest.take length⟩ (rest.drop length)
  | _ => .more

theorem parseFrame_wireFrame (kind : UInt8) {length : ℕ} (bytes : List UInt8)
    (h : length ≤ maxConsolePayload) :
    parseFrame ([kind] ++ toBeBytes length ++ bytes) = if bytes.length < length then .more
      else .frame ⟨kind, bytes.take length⟩ (bytes.drop length) := by
  have hlength : fromBeBytes (toBeBytes length) = length :=
    fromBeBytes_toBeBytes (by unfold maxConsolePayload at h; omega)
  show (if fromBeBytes (toBeBytes length) > maxConsolePayload then Parsed.malformed
    else if bytes.length < fromBeBytes (toBeBytes length) then Parsed.more
    else Parsed.frame (DecodedFrame.mk kind (bytes.take (fromBeBytes (toBeBytes length))))
      (bytes.drop (fromBeBytes (toBeBytes length)))) = _
  rw [hlength, if_neg (Nat.not_lt.mpr h)]

section Format

variable {frame : DecodedFrame} {bytes rest missing : List UInt8}

theorem parseFrame_emit (rest : List UInt8) (hvalid : frame.payload.length ≤ maxConsolePayload) :
    parseFrame (wireFrame frame.kind frame.payload ++ rest) = .frame frame rest := by
  rw [wireFrame, List.append_assoc, parseFrame_wireFrame _ _ hvalid, if_neg, List.take_left,
    List.drop_left]
  rw [List.length_append]
  omega

theorem parseFrame_short (hvalid : frame.payload.length ≤ maxConsolePayload) (hne : missing ≠ [])
    (hemit : wireFrame frame.kind frame.payload = bytes ++ missing) :
    parseFrame bytes = .more := by
  have hmissing := List.length_pos_iff.mpr hne
  match bytes with
  | kind :: b3 :: b2 :: b1 :: b0 :: rest =>
      -- the header is complete, so the payload is not
      obtain ⟨rfl, rfl, rfl, rfl, rfl, hpayload⟩ : frame.kind = kind ∧ _ = b3 ∧ _ = b2 ∧
          _ = b1 ∧ _ = b0 ∧ frame.payload = rest ++ missing := by
        simpa only [wireFrame, toBeBytes, List.cons_append, List.nil_append,
          List.cons.injEq] using hemit
      have hshort : rest.length < frame.payload.length := by
        rw [hpayload, List.length_append]
        omega
      exact (parseFrame_wireFrame frame.kind rest hvalid).trans (if_pos hshort)
  | [] | [_] | [_, _] | [_, _, _] | [_, _, _, _] => rfl

theorem parseFrame_shrinks (h : parseFrame bytes = .frame frame rest) :
    rest.length < bytes.length := by
  unfold parseFrame at h
  split at h
  · simp only at h
    split at h
    · cases h
    · split at h
      · cases h
      · obtain ⟨-, rfl⟩ := Parsed.frame.inj h
        simp only [List.length_drop, List.length_cons]
        omega
  · cases h

end Format

/-- The wire format of the console protocol, for payloads up to the limit. -/
def consoleFraming : Framing DecodedFrame UInt8 where
  emit frame := wireFrame frame.kind frame.payload
  parse := parseFrame
  valid frame := frame.payload.length ≤ maxConsolePayload
  parse_nil := rfl
  parse_emit := parseFrame_emit
  parse_short := parseFrame_short
  parse_shrinks := parseFrame_shrinks

/-- A step of the decoder: one frame, and the frames behind it. -/
theorem decodeFrames_step (bytes : List UInt8) : decodeFrames bytes = match parseFrame bytes with
      | .malformed => .error .frameSize
      | .more => .ok ([], bytes)
      | .frame first rest => do
          let (frames, left) ← decodeFrames rest
          return (first :: frames, left) := by
  match bytes with
  | kind :: b3 :: b2 :: b1 :: b0 :: rest =>
      rw [decodeFrames]
      simp only [parseFrame]
      by_cases hlong : fromBeBytes [b3, b2, b1, b0] > maxConsolePayload
      · rw [if_pos hlong, if_pos hlong]
      · rw [if_neg hlong, if_neg hlong]
        by_cases hmore : rest.length < fromBeBytes [b3, b2, b1, b0]
        · rw [if_pos hmore, if_pos hmore]
        · rw [if_neg hmore, if_neg hmore]
  | [] | [_] | [_, _] | [_, _, _] | [_, _, _, _] =>
      unfold decodeFrames
      rfl

/-- The decoder takes the frames of the format. -/
theorem decodeFrames_of_takeFrames {bytes left : List UInt8} {frames : List DecodedFrame}
    (h : consoleFraming.takeFrames bytes = some (frames, left)) :
    decodeFrames bytes = .ok (frames, left) := by
  rw [decodeFrames_step]
  fun_induction Framing.takeFrames consoleFraming bytes generalizing frames with
  | case1 bytes hparse => cases h
  | case2 bytes hparse =>
      obtain ⟨rfl, rfl⟩ := Prod.mk.inj (Option.some.inj h)
      have hmore : parseFrame bytes = .more := hparse
      rw [hmore]
  | case3 bytes first rest hparse ih =>
      obtain ⟨⟨more, last⟩, hrest, hframes⟩ := Option.bind_eq_some_iff.mp h
      cases hframes
      have hfirst : parseFrame bytes = .frame first rest := hparse
      rw [hfirst]
      show (decodeFrames rest >>= fun found => .ok (first :: found.1, found.2)) = _
      rw [decodeFrames_step rest, ih hrest]
      rfl

/-! ### Message after message -/

section Messages

variable {decoder : ConsoleFrameDecoder} {frames : List DecodedFrame} {future : List UInt8}

theorem length_emit (frame : DecodedFrame) :
    (consoleFraming.emit frame).length = frame.payload.length + 5 := by
  show (wireFrame frame.kind frame.payload).length = _
  simp only [wireFrame, toBeBytes, List.length_append, List.length_cons, List.length_nil]
  omega

/-- A buffer that begins a frame and does not complete it has room for a message. -/
theorem Pending.length_le {bytes rest : List UInt8}
    (h : consoleFraming.Pending bytes frames) (hvalid : ∀ frame ∈ frames, consoleFraming.valid frame)
    (hstream : bytes ++ rest = frames.flatMap consoleFraming.emit) :
    bytes.length ≤ maxConsolePayload + 4 := by
  cases frames with
  | nil =>
      obtain ⟨rfl, -⟩ := List.append_eq_nil_iff.mp hstream
      exact Nat.zero_le _
  | cons frame frames =>
      have hless := h frame rfl
      have hpayload : frame.payload.length ≤ maxConsolePayload := hvalid frame List.mem_cons_self
      rw [length_emit] at hless
      omega

/-- A message makes some frames complete, and the decoder returns these. -/
theorem push_of_append {message : List UInt8}
    (hvalid : ∀ frame ∈ frames, consoleFraming.valid frame)
    (hpending : consoleFraming.Pending decoder.buffered frames)
    (hmessage : message.length ≤ maxConsoleWireBytes)
    (hstream : decoder.buffered ++ message ++ future = frames.flatMap consoleFraming.emit) :
    ∃ complete pending left, frames = complete ++ pending ∧
      decoder.push message = .ok (complete, ⟨left⟩) ∧
      decoder.buffered ++ message = complete.flatMap consoleFraming.emit ++ left ∧
      left ++ future = pending.flatMap consoleFraming.emit ∧
      consoleFraming.Pending left pending := by
  obtain ⟨complete, pending, left, hframes, htaken, hbytes, hfuture, hleft⟩ :=
    Framing.takeFrames_of_append hvalid hstream
  refine ⟨complete, pending, left, hframes, ?_, hbytes, hfuture, hleft⟩
  rw [List.append_assoc] at hstream
  have hroom := Pending.length_le hpending hvalid hstream
  unfold ConsoleFrameDecoder.push
  rw [if_neg, decodeFrames_of_takeFrames htaken]
  · rfl
  · unfold maxConsoleWireBytes at hmessage
    unfold maxConsolePayload at hroom ⊢
    omega

/-- After any number of messages the decoder has returned the frames that are complete, and
keeps the beginning of the next one. -/
theorem receive_of_append {messages : List (List UInt8)}
    (hvalid : ∀ frame ∈ frames, consoleFraming.valid frame)
    (hpending : consoleFraming.Pending decoder.buffered frames)
    (hmessages : ∀ message ∈ messages, message.length ≤ maxConsoleWireBytes)
    (hstream : decoder.buffered ++ messages.flatten ++ future =
      frames.flatMap consoleFraming.emit) :
    ∃ complete pending left, frames = complete ++ pending ∧
      receive decoder messages = .ok (complete, ⟨left⟩) ∧
      decoder.buffered ++ messages.flatten = complete.flatMap consoleFraming.emit ++ left ∧
      left ++ future = pending.flatMap consoleFraming.emit ∧
      consoleFraming.Pending left pending := by
  induction messages generalizing decoder frames with
  | nil =>
      refine ⟨[], frames, decoder.buffered, rfl, rfl, List.append_nil _, ?_, hpending⟩
      rwa [List.flatten_nil, List.append_nil] at hstream
  | cons message messages ih =>
      rw [List.flatten_cons, ← List.append_assoc, List.append_assoc _ messages.flatten] at hstream
      obtain ⟨first, later, kept, rfl, hpush, hbytes, hkept, hlater⟩ :=
        push_of_append hvalid hpending (hmessages message List.mem_cons_self) hstream
      rw [← List.append_assoc] at hkept
      obtain ⟨second, pending, left, rfl, hreceive, hlast, hfuture, hleft⟩ :=
        @ih ⟨kept⟩ later (fun frame hframe => hvalid frame (List.mem_append_right _ hframe)) hlater
          (fun other hother => hmessages other (List.mem_cons_of_mem _ hother)) hkept
      refine ⟨first ++ second, pending, left, (List.append_assoc _ _ _).symm, ?_, ?_, hfuture,
        hleft⟩
      · show (decoder.push message >>= fun pushed => receive pushed.2 messages >>= fun more =>
          .ok (pushed.1 ++ more.1, more.2)) = _
        rw [hpush]
        show (receive ⟨kept⟩ messages >>= fun more => .ok (first ++ more.1, more.2)) = _
        rw [hreceive]
        rfl
      · have hlast : kept ++ messages.flatten = second.flatMap consoleFraming.emit ++ left := hlast
        rw [List.flatten_cons, ← List.append_assoc, hbytes, List.append_assoc, hlast,
          List.flatMap_append, List.append_assoc]

end Messages

/-! ### From the daemon to the browser -/

/-- The daemon writes frame after frame. -/
def writeFrames : List DecodedFrame → Faulty ConsoleIo ConsoleProtocolError Unit
  | [] => pure ()
  | frame :: frames => do
      ConsoleIo.writeProtocolFrame frame.kind frame.payload
      writeFrames frames

theorem wp_writeFrames (frames : List DecodedFrame) (io : ConsoleIo) :
    Faulty.wp (writeFrames frames) (fun ended reached => ended.isOk = true →
      reached.wire = io.wire ++ frames.flatMap consoleFraming.emit) io := by
  induction frames generalizing io with
  | nil => exact fun _ => (List.append_nil _).symm
  | cons frame frames ih =>
      refine Faulty.wp_bind (wp_writeProtocolFrame frame.kind frame.payload) ?_
        (fun _ _ _ hok => nomatch hok) (fun _ _ hok => nomatch hok)
      intro _ written h
      refine Faulty.wp_mono (ih written) fun _ reached hreached hok => ?_
      rw [hreached hok, (h.sent rfl).2, List.append_assoc]
      rfl

/-- Frames of at most 64 KiB that the daemon has written reach the browser however the gateway
cuts the stream: after each message the decoder has returned those that are complete, and at
the end it has returned all of them and keeps nothing. -/
theorem receive_of_writeFrames {frames : List DecodedFrame} {io reached : ConsoleIo}
    {messages : List (List UInt8)}
    (hsize : ∀ frame ∈ frames, frame.payload.length ≤ maxConsolePayload)
    (hfresh : io.wire = []) (hwritten : writeFrames frames io = (.ok (), reached))
    (hcut : Cut maxConsoleWireBytes reached.wire messages) :
    (∀ count, ∃ decoder, receive .new (messages.take count) =
      .ok (consoleFraming.within (messages.take count).flatten.length frames, decoder)) ∧
      receive .new messages = .ok (frames, ⟨[]⟩) := by
  have hwire : reached.wire = frames.flatMap consoleFraming.emit := by
    have hwp := wp_writeFrames frames io
    unfold Faulty.wp at hwp
    rw [hwritten, hfresh] at hwp
    exact hwp rfl
  have hpending : consoleFraming.Pending (ConsoleFrameDecoder.new).buffered frames := by
    intro frame _
    rw [length_emit]
    exact Nat.succ_pos _
  have hcount : ∀ count, ∃ complete pending left, frames = complete ++ pending ∧
      receive .new (messages.take count) = .ok (complete, ⟨left⟩) ∧
      (messages.take count).flatten = complete.flatMap consoleFraming.emit ++ left ∧
      left ++ (messages.drop count).flatten = pending.flatMap consoleFraming.emit ∧
      consoleFraming.Pending left pending := by
    intro count
    refine receive_of_append hsize hpending
      (fun message hmessage => hcut.length_le message (List.mem_of_mem_take hmessage)) ?_
    show (messages.take count).flatten ++ (messages.drop count).flatten = _
    rw [← List.flatten_append, List.take_append_drop, hcut.flatten_eq, hwire]
  constructor
  · intro count
    obtain ⟨complete, pending, left, hframes, hreceive, hbytes, -, hleft⟩ := hcount count
    refine ⟨⟨left⟩, ?_⟩
    rw [hreceive, hframes, hbytes, List.length_append, Framing.within_append,
      hleft.within_eq_nil, List.append_nil]
  · obtain ⟨complete, pending, left, hframes, hreceive, -, hfuture, hleft⟩ :=
      hcount messages.length
    rw [List.take_length] at hreceive
    rw [List.drop_length, List.flatten_nil, List.append_nil] at hfuture
    -- what is left would complete the next frame, so there is none
    obtain rfl : pending = [] := by
      cases pending with
      | nil => rfl
      | cons frame pending =>
          have hless := hleft frame rfl
          rw [hfuture, List.flatMap_cons, List.length_append] at hless
          omega
    rw [hreceive, hframes, List.append_nil, hfuture]
    rfl

/-- A frame cut within its header, together with the one before it. -/
theorem receive_of_writeFrames_two : receive .new [[0x21, 0, 0, 0, 0, 0x20, 0], [0, 0, 2, 7], [8]] =
      .ok ([⟨frameAck, []⟩, ⟨frameOutput, [7, 8]⟩], ⟨[]⟩) := by
  obtain ⟨reached, hwritten, hwire⟩ : ∃ reached, writeFrames [⟨frameAck, []⟩, ⟨frameOutput, [7, 8]⟩]
        ⟨⟨[], List.replicate 6 (.accepts 8)⟩, .attached ⟨1⟩ 64 ⟨[], []⟩, [], []⟩ =
        (.ok (), reached) ∧
      reached.wire = [0x21, 0, 0, 0, 0, 0x20, 0, 0, 0, 2, 7, 8] := ⟨_, rfl, rfl⟩
  refine (receive_of_writeFrames ?_ rfl hwritten ⟨?_, ?_, ?_⟩).2
  · decide
  · rw [hwire]
    rfl
  · decide
  · decide

end Kernmux.Web
