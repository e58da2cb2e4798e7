import Kernmux.Daemon.ConsoleSound

/-!
# Kernmux.Daemon.ConsoleTransient

**Devices that are busy for a moment.** The device of a session is opened so
that it never blocks, and may answer at any time that it was interrupted, that
it would have to block, or that it has taken a part. None of this is a reason to
end a session.

Reading ignores interruptions and reports that there is nothing to be read yet.
Writing ignores interruptions and goes on after a part, but ends the session
when the device would have to block. So a session survives a frame exactly when
the device has room for all of it before that happens
(`goesOn_iff_room`).
-/

namespace Kernmux.Daemon.ConsoleIo

open Api.V1 Library Faulty

/-! ### Busy devices -/

/-- Failures that pass by themselves. -/
def Passing (error : IoError) : Prop := error.kind = .interrupted ∨ error.kind = .wouldBlock

/-- Whoever asks again after every passing failure is given something to read. -/
inductive Offers : List ReadReply → Prop
  | data {bytes : List UInt8} (hbytes : bytes ≠ []) (later : List ReadReply) :
      Offers (.data bytes :: later)
  | failed {error : IoError} {replies : List ReadReply} (herror : Passing error)
      (h : Offers replies) : Offers (.failed error :: replies)

/-- Whoever asks again after every passing failure and every part gets rid of all the data. -/
inductive Accepts : List UInt8 → List WriteReply → Prop
  | done (later : List WriteReply) : Accepts [] later
  | part {data : List UInt8} {limit : ℕ} {replies : List WriteReply} (hdata : data ≠ [])
      (hlimit : 0 < limit) (h : Accepts (data.drop limit) replies) :
      Accepts data (.accepts limit :: replies)
  | failed {data : List UInt8} {error : IoError} {replies : List WriteReply} (hdata : data ≠ [])
      (herror : Passing error) (h : Accepts data replies) : Accepts data (.failed error :: replies)

/-- How many bytes a device takes before it would have to block. -/
def room : List WriteReply → ℕ
  | [] => 0
  | .accepts limit :: replies => limit + room replies
  | .failed error :: replies => if error.kind = .wouldBlock then 0 else room replies

/-! ### Reading -/

/-- A read finds bytes, or that there are none yet. -/
theorem readRetry_of_offers {replies : List ReadReply} (h : Offers replies) {limit : ℕ}
    (hlimit : 0 < limit) :
    (∃ error, (readRetry limit replies).1 = .error error ∧ error.kind = .wouldBlock) ∨
      ∃ byte bytes, (readRetry limit replies).1 = .ok (byte :: bytes) := by
  induction h with
  | @data bytes hbytes later =>
      obtain ⟨byte, bytes, rfl⟩ := List.exists_cons_of_ne_nil hbytes
      obtain ⟨limit, rfl⟩ := Nat.exists_eq_succ_of_ne_zero (Nat.ne_of_gt hlimit)
      exact .inr ⟨byte, bytes.take limit, rfl⟩
  | @failed error replies herror _ ih =>
      by_cases hinterrupted : error.kind = .interrupted
      · rw [readRetry, if_pos hinterrupted]
        exact ih
      · rw [readRetry, if_neg hinterrupted]
        exact .inl ⟨error, rfl, herror.resolve_left hinterrupted⟩

variable {io : ConsoleIo} {device : ByteStream} {data : List UInt8}

/-- Reading from a busy device leaves the session open. -/
theorem readFrame_open (hclosed : io.session.closed = none)
    (hdevice : io.session.device = some device)
    (hlimit : 0 < io.session.attachment.maxFrameBytes.toNat) (h : Offers device.reads) :
    (readFrame io).2.session.closed = none := by
  show wp readFrame (fun _ reached => reached.session.closed = none) io
  unfold readFrame
  refine wp_get_bind.mpr ?_
  rw [hclosed, hdevice]
  have hread : wp (deviceRead device io.session.attachment.maxFrameBytes.toNat)
      (fun ended reached => reached.session.closed = none ∧
        ((∃ error, ended = .error error ∧ error.kind = .wouldBlock) ∨
          ∃ byte bytes, ended = .ok (byte :: bytes))) io :=
    ⟨hclosed, readRetry_of_offers h hlimit⟩
  refine wp_attempt_bind hread ?_ ?_ ?_
  · intro found reached hfound
    obtain ⟨hopen, ⟨error, herror, -⟩ | ⟨byte, bytes, hbytes⟩⟩ := hfound
    · cases herror
    · cases hbytes
      exact hopen
  · intro error reached hfound
    obtain ⟨hopen, ⟨found, herror, hkind⟩ | ⟨byte, bytes, hbytes⟩⟩ := hfound
    · cases herror
      simp only [hkind, if_true]
      exact hopen
    · cases hbytes
  · intro reached hfound
    exact hfound.1

/-! ### Writing -/

/-- A device with enough room takes everything. -/
theorem writeAllRetry_of_room {writes : List WriteReply} (h : Accepts data writes)
    (hroom : data.length ≤ room writes) :
    (writeAllRetry writes data).ended = .ok () ∧ (writeAllRetry writes data).accepted = data := by
  induction h with
  | done later => simp [writeAllRetry]
  | @part data limit replies hdata hlimit h ih =>
      obtain ⟨byte, bytes, rfl⟩ := List.exists_cons_of_ne_nil hdata
      have hrest : ((byte :: bytes).drop limit).length ≤ room replies := by
        rw [List.length_drop]
        rw [room] at hroom
        omega
      obtain ⟨hended, haccepted⟩ := ih hrest
      rw [writeAllRetry, if_neg (Nat.ne_of_gt hlimit)]
      · refine ⟨hended, ?_⟩
        simp only [haccepted, List.take_append_drop]
      · exact hdata
  | @failed data error replies hdata herror h ih =>
      have hlength := List.length_pos_iff.mpr hdata
      obtain ⟨byte, bytes, rfl⟩ := List.exists_cons_of_ne_nil hdata
      -- blocking would leave no room
      have hblock : error.kind ≠ .wouldBlock := by
        intro hblock
        rw [room, if_pos hblock] at hroom
        omega
      rw [room, if_neg hblock] at hroom
      rw [writeAllRetry, if_pos (herror.resolve_right hblock)]
      · exact ih hroom
      · exact hdata

/-- Without enough room the device would have to block before it has everything. -/
theorem writeAllRetry_of_block {writes : List WriteReply} (h : Accepts data writes)
    (hroom : ¬ data.length ≤ room writes) :
    ∃ error, (writeAllRetry writes data).ended = .error error ∧ error.kind = .wouldBlock := by
  induction h with
  | done later => exact absurd (Nat.zero_le _) hroom
  | @part data limit replies hdata hlimit h ih =>
      obtain ⟨byte, bytes, rfl⟩ := List.exists_cons_of_ne_nil hdata
      have hrest : ¬ ((byte :: bytes).drop limit).length ≤ room replies := by
        rw [List.length_drop]
        rw [room] at hroom
        omega
      obtain ⟨error, hended, hkind⟩ := ih hrest
      rw [writeAllRetry, if_neg (Nat.ne_of_gt hlimit)]
      · exact ⟨error, hended, hkind⟩
      · exact hdata
  | @failed data error replies hdata herror h ih =>
      obtain ⟨byte, bytes, rfl⟩ := List.exists_cons_of_ne_nil hdata
      by_cases hinterrupted : error.kind = .interrupted
      · have hblock : error.kind ≠ .wouldBlock := by
          rw [hinterrupted]
          decide
        rw [room, if_neg hblock] at hroom
        rw [writeAllRetry, if_pos hinterrupted]
        · exact ih hroom
        · exact hdata
      · rw [writeAllRetry, if_neg hinterrupted]
        · exact ⟨error, rfl, herror.resolve_left hinterrupted⟩
        · exact hdata

/-! ### Sessions that go on -/

/-- The same session on another device. -/
def onDevice (io : ConsoleIo) (device : ByteStream) : ConsoleIo :=
  { io with session := { io.session with device := some device } }

/-- The report of a failed write tells which bytes were taken: they are the same for every device
that leads to this report. -/
def Tells (data : List UInt8) (io : ConsoleIo) (error : ConsoleError) : Prop :=
  ∀ one other : ByteStream, Accepts data one.writes → Accepts data other.writes →
    (writeFrame data (io.onDevice one)).1 = .error error →
    (writeFrame data (io.onDevice other)).1 = .error error →
    (writeAllRetry one.writes data).accepted = (writeAllRetry other.writes data).accepted

/-- A busy device does not end the session, and no input is lost without the client's knowledge. -/
structure GoesOn (data : List UInt8) (io : ConsoleIo) : Prop where
  read_open : (readFrame io).2.session.closed = none
  write_open : (writeFrame data io).2.session.closed = none
  delivered : ((writeFrame data io).1 = .ok () ∧
      (writeFrame data io).2.log = io.log ++ [.deviceWrote data]) ∨
    ∃ error, (writeFrame data io).1 = .error error ∧ Tells data io error

/-- The state after the device has taken a part of the data. -/
def afterWrite (io : ConsoleIo) (device : ByteStream) (data : List UInt8) : ConsoleIo :=
  note [.deviceWrote (writeAllRetry device.writes data).accepted]
    (io.onDevice { device with writes := (writeAllRetry device.writes data).left })

section Written

variable (hclosed : io.session.closed = none) (hdevice : io.session.device = some device)
  (hframe : data.length ≤ io.session.attachment.maxFrameBytes.toNat)

include hclosed hdevice hframe

theorem writeFrame_of_ok (hended : (writeAllRetry device.writes data).ended = .ok ()) :
    writeFrame data io = (.ok (), io.afterWrite device data) := by
  have hwrite : attempt (deviceWriteAll device data) io =
      ((.ok (.ok ()), io.afterWrite device data) : Ended ConsoleError _ × _) := by
    simp only [attempt, deviceWriteAll, hended]
    rfl
  unfold writeFrame
  refine (bind_of_ok rfl).trans ?_
  rw [if_neg (Nat.not_lt.mpr hframe), hclosed, hdevice]
  exact bind_of_ok hwrite

theorem writeFrame_of_error {error : IoError}
    (hended : (writeAllRetry device.writes data).ended = .error error) :
    (writeFrame data io).2.session.closed = some (closeReasonForIo error) := by
  have hwrite : attempt (deviceWriteAll device data) io =
      ((.ok (.error error), io.afterWrite device data) : Ended ConsoleError _ × _) := by
    simp only [attempt, deviceWriteAll, hended]
    rfl
  have hstill : (io.afterWrite device data).session.closed = none := hclosed
  have hclose : (close (closeReasonForIo error) (io.afterWrite device data) :
      Ended ConsoleError ConsoleCloseReason × ConsoleIo).2.session.closed =
        some (closeReasonForIo error) := by
    simp only [close, ConsoleSession.close, hstill, note]
  have hwritten : writeFrame data io = (.error (.device error),
      (close (closeReasonForIo error) (io.afterWrite device data) :
        Ended ConsoleError ConsoleCloseReason × ConsoleIo).2) := by
    unfold writeFrame
    refine (bind_of_ok rfl).trans ?_
    rw [if_neg (Nat.not_lt.mpr hframe), hclosed, hdevice]
    refine (bind_of_ok hwrite).trans ?_
    exact bind_of_ok rfl
  rw [hwritten]
  exact hclose

end Written

/-- **A session survives a busy device exactly when there is room for the frame.** -/
theorem goesOn_iff_room (hclosed : io.session.closed = none)
    (hdevice : io.session.device = some device)
    (hlimit : 0 < io.session.attachment.maxFrameBytes.toNat)
    (hframe : data.length ≤ io.session.attachment.maxFrameBytes.toNat)
    (hreads : Offers device.reads) (hwrites : Accepts data device.writes) :
    GoesOn data io ↔ data.length ≤ room device.writes := by
  constructor
  · intro h
    by_contra hroom
    obtain ⟨error, hended, -⟩ := writeAllRetry_of_block hwrites hroom
    have hopen := h.write_open
    rw [writeFrame_of_error hclosed hdevice hframe hended] at hopen
    cases hopen
  · intro hroom
    obtain ⟨hended, haccepted⟩ := writeAllRetry_of_room hwrites hroom
    have hwritten := writeFrame_of_ok hclosed hdevice hframe hended
    refine ⟨readFrame_open hclosed hdevice hlimit hreads, ?_, .inl ⟨?_, ?_⟩⟩
    · rw [hwritten]
      exact hclosed
    · rw [hwritten]
    · rw [hwritten, afterWrite, haccepted]
      rfl

/-- A session on a device that gives and takes as told. -/
def sessionOn (reads : List ReadReply) (writes : List WriteReply) : ConsoleIo :=
  ⟨⟨[], []⟩, .attached ⟨7⟩ 8 ⟨reads, writes⟩, [], []⟩

/-- Interruptions and parts are no trouble, and neither is a device without output. -/
theorem goesOn_iff_room_parts :
    GoesOn [1, 2, 3] (sessionOn [.failed ⟨.wouldBlock, some 11⟩, .data [9]]
      [.failed ⟨.interrupted, some 4⟩, .accepts 1, .failed ⟨.interrupted, some 4⟩, .accepts 2]) := by
  refine (goesOn_iff_room rfl rfl (by decide) (by decide) ?_ ?_).mpr (by decide)
  · exact .failed (.inr rfl) (.data (by decide) [])
  · refine .failed (by decide) (.inl rfl) (.part (by decide) (by decide) ?_)
    exact .failed (by decide) (.inl rfl) (.part (by decide) (by decide) (.done []))

/-- The device takes two of three bytes and would have to block: the session is closed, although
the device would take the last byte too. -/
theorem blocked_write_closes :
    let io := sessionOn [.data [9]] [.accepts 2, .failed ⟨.wouldBlock, some 11⟩, .accepts 1]
    (∃ device, io.session.device = some device ∧ Offers device.reads ∧
        Accepts [1, 2, 3] device.writes) ∧
      (writeFrame [1, 2, 3] io).2.session.closed = some .transportError ∧
      (writeFrame [1, 2, 3] io).1 = .error (.device ⟨.wouldBlock, some 11⟩) ∧
      ¬ GoesOn [1, 2, 3] io := by
  intro io
  have hoffers : Offers [.data [9]] := .data (by decide) []
  have haccepts : Accepts [1, 2, 3] [.accepts 2, .failed ⟨.wouldBlock, some 11⟩, .accepts 1] :=
    .part (by decide) (by decide) (.failed (by decide) (.inr rfl)
      (.part (by decide) (by decide) (.done [])))
  refine ⟨⟨_, rfl, hoffers, haccepts⟩, by decide, by decide, ?_⟩
  intro hgoes
  exact absurd hgoes.write_open (by decide)

end Kernmux.Daemon.ConsoleIo
