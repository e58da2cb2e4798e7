import Kernmux.Web.ConsoleProtocol

/-!
# Kernmux.Web.ConsoleInput

**What the browser writes, the daemon reads.** The browser's `encodeFrame` puts
a kind and a length in front of a payload, and the daemon's `readProtocolFrame`
takes them off again with one read of a single byte and two exact reads. Bytes
may arrive in any pieces and reads may be interrupted at any time (`Delivers`).

For each shape that the beginning of the stream can have there is one lemma
that says how a call ends and what is left to be read: nothing at all, a whole
frame, a frame that is cut off, and a length above the limit.
-/

namespace Kernmux.Web

open Daemon Library ConsoleIo Faulty

/-! ### The encoder -/

/-- The bytes of a frame; the browser refuses payloads above the limit. -/
def encodeFrame (kind : UInt8) (payload : List UInt8) : Except DecodeError (List UInt8) :=
  if payload.length > maxConsolePayload then .error .frameSize
  else .ok ([kind] ++ toBeBytes payload.length ++ payload)

theorem encodeFrame_eq_ok {kind : UInt8} {payload wire : List UInt8} :
    encodeFrame kind payload = .ok wire ↔
      payload.length ≤ maxConsolePayload ∧ wireFrame kind payload = wire := by
  unfold encodeFrame
  split
  · rename_i hlong
    exact iff_of_false (by intro h; cases h) (fun h => Nat.not_le.mpr hlong h.1)
  · rename_i hshort
    rw [and_iff_right (Nat.le_of_not_lt hshort), Except.ok.injEq]
    rfl

/-! ### One call of the daemon -/

/-- A read of one byte takes the next byte, or finds the end. -/
theorem readRetry_of_delivers {bytes : List UInt8} {replies : List ReadReply}
    (h : Delivers bytes replies) :
    ∃ left, readRetry 1 replies = (.ok (bytes.take 1), left) ∧
      (bytes ≠ [] → Delivers (bytes.drop 1) left) := by
  induction h with
  | finished later => exact ⟨later, rfl, fun hne => absurd rfl hne⟩
  | @piece piece bytes replies hpiece h _ =>
      obtain ⟨byte, rest, rfl⟩ := List.exists_cons_of_ne_nil hpiece
      cases rest with
      | nil => exact ⟨replies, rfl, fun _ => h⟩
      | cons next rest =>
          exact ⟨.data (next :: rest) :: replies, rfl, fun _ => .piece (List.cons_ne_nil _ _) h⟩
  | @interrupted error bytes replies herror h ih =>
      obtain ⟨left, hread, hleft⟩ := ih
      exact ⟨left, by rw [readRetry, if_pos herror, hread], hleft⟩

section Calls

variable {io : ConsoleIo} {limit : ℕ} {kind : UInt8} {payload rest : List UInt8}

/-- The state after bytes have been taken from the client. -/
def withReads (io : ConsoleIo) (reads : List ReadReply) : ConsoleIo :=
  { io with client := { io.client with reads := reads } }

theorem clientReadRetry_eq {bytes : List UInt8} {left : List ReadReply}
    (h : readRetry 1 io.client.reads = (.ok bytes, left)) :
    clientReadRetry 1 io = (.ok bytes, withReads io left) := by
  simp only [clientReadRetry, h, withReads]

theorem clientReadExact_eq {count : ℕ} {ended : Ended IoError (List UInt8)}
    {left : List ReadReply} (h : readExact count io.client.reads = (ended, left)) :
    clientReadExact count io = (ended, withReads io left) := by
  simp only [clientReadExact, h, withReads]

theorem readProtocolFrame_nil (h : Delivers [] io.client.reads) :
    (readProtocolFrame limit io).1 = .ok none := by
  obtain ⟨left, hread, -⟩ := readRetry_of_delivers h
  unfold readProtocolFrame
  rw [bind_of_ok (mapError_of_ok (clientReadRetry_eq hread))]
  rfl

/-- What a call does once it knows the kind and the length. -/
def readPayload (limit : ℕ) (kind : UInt8) (length : ℕ) :
    Faulty ConsoleIo ConsoleProtocolError (Option (UInt8 × List UInt8)) := do
  if length > limit then fail .invalidFrame
  else
    let payload ← mapError .io (clientReadExact length)
    modify (note [.received kind payload])
    return some (kind, payload)

/-- The kind and the length are read, and nothing else. -/
theorem readProtocolFrame_header {header : List UInt8} (hheader : header.length = 4)
    (h : Delivers (kind :: (header ++ rest)) io.client.reads) :
    ∃ reads, Delivers rest reads ∧ readProtocolFrame limit io =
      readPayload limit kind (fromBeBytes header) (withReads io reads) := by
  obtain ⟨reads, hkind, hreads⟩ := readRetry_of_delivers h
  have hreads := hreads (List.cons_ne_nil _ _)
  rw [List.drop_succ_cons, List.drop_zero] at hreads
  have hfour : 4 ≤ (header ++ rest).length := by
    rw [List.length_append]
    omega
  obtain ⟨left, hlength, hleft⟩ := hreads.readExact_of_le hfour
  rw [← hheader, List.take_left] at hlength
  rw [← hheader, List.drop_left] at hleft
  rw [hheader] at hlength
  refine ⟨left, hleft, ?_⟩
  have hexact : clientReadExact 4 (withReads io reads) = (.ok header, withReads io left) :=
    clientReadExact_eq hlength
  unfold readProtocolFrame
  rw [bind_of_ok (mapError_of_ok (clientReadRetry_eq hkind))]
  simp only [List.take_succ_cons, List.take_zero]
  rw [bind_of_ok (mapError_of_ok hexact)]
  rfl

/-- A whole frame is returned, and the bytes behind it are still to be read. -/
theorem readProtocolFrame_frame (hlimit : payload.length ≤ limit) (hword : payload.length < 2 ^ 32)
    (h : Delivers (wireFrame kind payload ++ rest) io.client.reads) :
    ∃ reached, readProtocolFrame limit io = (.ok (some (kind, payload)), reached) ∧
      Delivers rest reached.client.reads := by
  have hwire : wireFrame kind payload ++ rest =
      kind :: (toBeBytes payload.length ++ (payload ++ rest)) := by
    simp [wireFrame]
  rw [hwire] at h
  obtain ⟨reads, hreads, hcall⟩ := readProtocolFrame_header rfl h
  rw [hcall, fromBeBytes_toBeBytes hword]
  have hlong : payload.length ≤ (payload ++ rest).length := by simp
  obtain ⟨left, hpayload, hleft⟩ := hreads.readExact_of_le hlong
  rw [List.take_left] at hpayload
  rw [List.drop_left] at hleft
  refine ⟨note [.received kind payload] (withReads io left), ?_, hleft⟩
  have hexact : clientReadExact payload.length (withReads io reads) =
      (.ok payload, withReads io left) := clientReadExact_eq hpayload
  unfold readPayload
  rw [if_neg (Nat.not_lt.mpr hlimit), bind_of_ok (mapError_of_ok hexact)]
  rfl

/-- A length above the limit is rejected, and the payload is still to be read. -/
theorem readProtocolFrame_long {header : List UInt8} (hheader : header.length = 4)
    (hlimit : limit < fromBeBytes header)
    (h : Delivers (kind :: (header ++ rest)) io.client.reads) :
    ∃ reached, readProtocolFrame limit io = (.error .invalidFrame, reached) ∧
      Delivers rest reached.client.reads := by
  obtain ⟨reads, hreads, hcall⟩ := readProtocolFrame_header hheader h
  refine ⟨withReads io reads, ?_, hreads⟩
  rw [hcall, readPayload, if_pos hlimit]
  rfl

/-- A frame that is cut off within its length is an error. -/
theorem readProtocolFrame_header_short {header : List UInt8} (hheader : header.length < 4)
    (h : Delivers (kind :: header) io.client.reads) :
    ∃ error, (readProtocolFrame limit io).1 = .error (.io error) := by
  obtain ⟨reads, hkind, hreads⟩ := readRetry_of_delivers h
  have hreads := hreads (List.cons_ne_nil _ _)
  rw [List.drop_succ_cons, List.drop_zero] at hreads
  have hexact : clientReadExact 4 (withReads io reads) =
      (.error (.ofKind .unexpectedEof), withReads io (readExact 4 reads).2) :=
    clientReadExact_eq (Prod.ext (hreads.readExact_of_lt hheader) rfl)
  refine ⟨.ofKind .unexpectedEof, ?_⟩
  unfold readProtocolFrame
  rw [bind_of_ok (mapError_of_ok (clientReadRetry_eq hkind))]
  simp only [List.take_succ_cons, List.take_zero]
  rw [bind_of_error (mapError_of_error hexact)]

/-- A frame that is cut off anywhere is an error. -/
theorem readProtocolFrame_short {part missing : List UInt8} (hlimit : payload.length ≤ limit)
    (hword : payload.length < 2 ^ 32) (hpart : part ≠ []) (hmissing : missing ≠ [])
    (hwire : wireFrame kind payload = part ++ missing) (h : Delivers part io.client.reads) :
    ∃ error, (readProtocolFrame limit io).1 = .error (.io error) := by
  obtain ⟨first, header, rfl⟩ := List.exists_cons_of_ne_nil hpart
  have hwire : kind :: (toBeBytes payload.length ++ payload) = first :: (header ++ missing) := by
    simpa [wireFrame] using hwire
  obtain ⟨rfl, hrest⟩ := List.cons.inj hwire
  by_cases hshort : header.length < 4
  · exact readProtocolFrame_header_short hshort h
  · -- the length is complete, so the payload is not
    have htake := congrArg (List.take 4) hrest
    have hdrop := congrArg (List.drop 4) hrest
    have hfour : 4 ≤ header.length := Nat.le_of_not_lt hshort
    rw [List.take_append_of_le_length hfour] at htake
    rw [List.drop_append_of_le_length hfour] at hdrop
    have htake : toBeBytes payload.length = header.take 4 := htake
    have hdrop : payload = header.drop 4 ++ missing := hdrop
    rw [← List.take_append_drop 4 header, ← htake] at h
    obtain ⟨reads, hreads, hcall⟩ := readProtocolFrame_header rfl h
    have hless : (header.drop 4).length < payload.length := by
      have hpos := List.length_pos_iff.mpr hmissing
      rw [hdrop, List.length_append]
      omega
    have hexact : clientReadExact payload.length (withReads io reads) =
        (.error (.ofKind .unexpectedEof), withReads io (readExact payload.length reads).2) :=
      clientReadExact_eq (Prod.ext (hreads.readExact_of_lt hless) rfl)
    refine ⟨.ofKind .unexpectedEof, ?_⟩
    rw [hcall, fromBeBytes_toBeBytes hword, readPayload, if_neg (Nat.not_lt.mpr hlimit),
      bind_of_error (mapError_of_error hexact)]

end Calls

/-! ### Call after call -/

/-- What a frame is for the daemon. -/
def DecodedFrame.pair (frame : DecodedFrame) : UInt8 × List UInt8 := (frame.kind, frame.payload)

/-- The daemon asks for frame after frame. -/
def readFrames (limit : ℕ) :
    ℕ → Faulty ConsoleIo ConsoleProtocolError (List (Option (UInt8 × List UInt8)))
  | 0 => pure []
  | calls + 1 => do
      let frame ← readProtocolFrame limit
      let frames ← readFrames limit calls
      return frame :: frames

theorem readFrames_succ {limit calls : ℕ} {io reached last : ConsoleIo}
    {frame : Option (UInt8 × List UInt8)} {frames : List (Option (UInt8 × List UInt8))}
    (hfirst : readProtocolFrame limit io = (.ok frame, reached))
    (hrest : readFrames limit calls reached = (.ok frames, last)) :
    readFrames limit (calls + 1) io = (.ok (frame :: frames), last) := by
  unfold readFrames
  rw [bind_of_ok hfirst, bind_of_ok hrest]
  rfl

/-- The browser has encoded these frames to these bytes. -/
def Encoded (frames : List DecodedFrame) (wires : List (List UInt8)) : Prop :=
  List.Forall₂ (fun frame wire => encodeFrame frame.kind frame.payload = .ok wire) frames wires

/-- Each call returns the next frame, and further calls find what follows the frames. -/
theorem readFrames_of_encoded {frames : List DecodedFrame} {wires : List (List UInt8)}
    (hencoded : Encoded frames wires) {limit : ℕ} (hlimit : maxConsolePayload ≤ limit)
    {io : ConsoleIo} {rest : List UInt8} (h : Delivers (wires.flatten ++ rest) io.client.reads) :
    ∃ reached, Delivers rest reached.client.reads ∧ ∀ calls others last,
      readFrames limit calls reached = (.ok others, last) →
      readFrames limit (frames.length + calls) io =
        (.ok (frames.map (fun frame => some frame.pair) ++ others), last) := by
  induction hencoded generalizing io with
  | nil =>
      refine ⟨io, h, ?_⟩
      intro calls others last hcalls
      rw [List.length_nil, Nat.zero_add, List.map_nil, List.nil_append]
      exact hcalls
  | @cons frame wire frames wires hframe _ ih =>
      obtain ⟨hsize, rfl⟩ := encodeFrame_eq_ok.mp hframe
      rw [List.flatten_cons, List.append_assoc] at h
      have hword : frame.payload.length < 2 ^ 32 := by
        unfold maxConsolePayload at hsize
        omega
      obtain ⟨next, hfirst, hnext⟩ := readProtocolFrame_frame (hsize.trans hlimit) hword h
      obtain ⟨reached, hreached, hrest⟩ := ih hnext
      refine ⟨reached, hreached, ?_⟩
      intro calls others last hcalls
      rw [List.length_cons, Nat.succ_add]
      exact readFrames_succ hfirst (hrest calls others last hcalls)

/-- The longest payload that the daemon reads in a session. -/
def wireLimit (io : ConsoleIo) : ℕ :=
  max io.session.attachment.maxFrameBytes.toNat maxConsoleControlFrameBytes

/-- Frames of the browser reach the daemon however they are delivered: all of them and then the
end of the stream. A frame that is cut off is an error and no frame, and a frame that is declared
too long is rejected while its payload is still to be read. -/
theorem readFrames_of_encodeFrame {io : ConsoleIo}
    (hsession : io.session.attachment.maxFrameBytes.toNat = 64 * 1024)
    {frames : List DecodedFrame} {wires : List (List UInt8)} (hencoded : Encoded frames wires) :
    (Delivers wires.flatten io.client.reads → (readFrames (wireLimit io) (frames.length + 1) io).1 =
        .ok (frames.map (fun frame => some frame.pair) ++ [none])) ∧
    (∀ (frame : DecodedFrame) part missing,
      encodeFrame frame.kind frame.payload = .ok (part ++ missing) →
      part ≠ [] → missing ≠ [] → Delivers (wires.flatten ++ part) io.client.reads →
      ∃ reached, readFrames (wireLimit io) frames.length io =
          (.ok (frames.map fun frame => some frame.pair), reached) ∧
        ∃ error, (readProtocolFrame (wireLimit io) reached).1 = .error (.io error)) ∧
    ∀ kind header rest, header.length = 4 → wireLimit io < fromBeBytes header →
      Delivers (wires.flatten ++ kind :: (header ++ rest)) io.client.reads →
      ∃ before reached, readFrames (wireLimit io) frames.length io =
          (.ok (frames.map fun frame => some frame.pair), before) ∧
        readProtocolFrame (wireLimit io) before = (.error .invalidFrame, reached) ∧
        Delivers rest reached.client.reads := by
  have hlimit : maxConsolePayload ≤ wireLimit io := by
    rw [wireLimit, hsession]
    exact Nat.le_max_left _ _
  refine ⟨?_, ?_, ?_⟩
  · intro h
    rw [← List.append_nil wires.flatten] at h
    obtain ⟨reached, hreached, hread⟩ := readFrames_of_encoded hencoded hlimit h
    have hlast := @readFrames_succ (wireLimit io) 0 reached _ _ none []
      (Prod.ext (readProtocolFrame_nil hreached) rfl) rfl
    rw [hread 1 _ _ hlast]
  · intro frame part missing hframe hpart hmissing h
    obtain ⟨hsize, hwire⟩ := encodeFrame_eq_ok.mp hframe
    obtain ⟨reached, hreached, hread⟩ := readFrames_of_encoded hencoded hlimit h
    have hword : frame.payload.length < 2 ^ 32 := by
      unfold maxConsolePayload at hsize
      omega
    refine ⟨reached, ?_, readProtocolFrame_short (hsize.trans hlimit) hword hpart hmissing
      hwire hreached⟩
    simpa using hread 0 [] reached rfl
  · intro kind header rest hheader hlong h
    obtain ⟨before, hbefore, hread⟩ := readFrames_of_encoded hencoded hlimit h
    obtain ⟨reached, hcall, hreached⟩ := readProtocolFrame_long hheader hlong hbefore
    refine ⟨before, reached, ?_, hcall, hreached⟩
    simpa using hread 0 [] before rfl

/-- Two frames in three pieces, with an interruption within the length of the second one. -/
theorem readFrames_of_encodeFrame_two :
    let pieces : List ReadReply := [.data [0x11, 0, 0, 0, 0, 0x10, 0], .failed ⟨.interrupted, none⟩,
      .data [0, 0, 2, 7], .data [8], .data []]
    let io : ConsoleIo := ⟨⟨pieces, []⟩, .attached ⟨1⟩ 65536 ⟨[], []⟩, [], []⟩
    (readFrames (wireLimit io) 3 io).1 =
      .ok [some (frameRead, []), some (frameInput, [7, 8]), none] := by
  intro pieces io
  have hencoded : Encoded [⟨frameRead, []⟩, ⟨frameInput, [7, 8]⟩]
      [[0x11, 0, 0, 0, 0], [0x10, 0, 0, 0, 2, 7, 8]] := .cons rfl (.cons rfl .nil)
  refine (readFrames_of_encodeFrame rfl hencoded).1 ?_
  have hlast : Delivers [8] [.data [8], .data []] :=
    @Delivers.piece [8] [] _ (by decide) (.finished [])
  have hmiddle : Delivers [0, 0, 2, 7, 8] [.data [0, 0, 2, 7], .data [8], .data []] :=
    @Delivers.piece [0, 0, 2, 7] [8] _ (by decide) hlast
  exact @Delivers.piece [0x11, 0, 0, 0, 0, 0x10, 0] _ _ (by decide) (.interrupted rfl hmiddle)

end Kernmux.Web
