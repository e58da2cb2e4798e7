import Kernmux.Daemon.Console

/-!
# Kernmux.Daemon.ConsoleSound

**Console bytes are neither lost, duplicated nor reordered.** The log of a
session is a sequence of complete exchanges, each one request of the client and
its answer, and at most one exchange that was cut short (`Session`). This is
what the loop of the server keeps (`serveFrames_session`), whatever the device
and the client's stream answer, and wherever the run stops.

What the device took and gave can then be read off the exchanges one by one
(`Session.intact`).
-/

namespace Kernmux.Daemon

open Api.V1 Library ConsoleIo Faulty

variable {ε : Type} {reached io : ConsoleIo} {events log : List ConsoleEvent}

/-! ### What a write leaves behind -/

/-- A stream takes a beginning of the data, and all of it just when the call succeeds. -/
theorem writeAllRetry_accepted (writes : List WriteReply) (data : List UInt8) :
    (writeAllRetry writes data).accepted <+: data ∧ ((writeAllRetry writes data).ended.isOk = true ↔
        (writeAllRetry writes data).accepted = data) := by
  fun_induction writeAllRetry writes data with
  | case1 writes => exact ⟨List.prefix_refl _, by simp [Ended.isOk]⟩
  | case2 => exact ⟨List.nil_prefix, by simp [Ended.isOk]⟩
  | case3 error writes data hdata hinterrupted ih => exact ih
  | case4 error writes data hdata hfailed =>
      exact ⟨List.nil_prefix, by simpa [Ended.isOk] using hdata⟩
  | case5 writes data hdata =>
      exact ⟨List.nil_prefix, by simpa [Ended.isOk] using hdata⟩
  | case6 limit writes data hdata hroom later ih =>
      obtain ⟨⟨missing, hmissing⟩, hall⟩ := ih
      have hsplit := List.take_append_drop limit data
      refine ⟨⟨missing, ?_⟩, hall.trans ⟨fun h => ?_, fun h => ?_⟩⟩
      · rw [List.append_assoc, hmissing, hsplit]
      · rw [h, hsplit]
      · exact List.append_cancel_left (h.trans hsplit.symm)

/-! ### Exchanges -/

/-- Events of an end: the session is closed, or the client is told why it ends. -/
def ConsoleEvent.isFarewell : ConsoleEvent → Bool
  | .closed _ => true
  | .sent kind _ => kind = frameError ∨ kind = frameClosed
  | _ => false

/-- An exchange that is the last one, because the session ends or the run has stopped. -/
inductive LastExchange : List ConsoleEvent → Prop
  /-- Nothing more has happened at the device. -/
  | quiet (farewell : List ConsoleEvent) (h : ∀ event ∈ farewell, event.isFarewell = true) :
      LastExchange farewell
  /-- A request has arrived and the device was not touched. -/
  | request (kind : UInt8) (payload : List UInt8) (farewell : List ConsoleEvent)
      (h : ∀ event ∈ farewell, event.isFarewell = true) :
      LastExchange (.received kind payload :: farewell)
  /-- The device has taken a part of the input, and the client was not told. -/
  | input (payload taken : List UInt8) (farewell : List ConsoleEvent) (htaken : taken <+: payload)
      (h : ∀ event ∈ farewell, event.isFarewell = true) :
      LastExchange (.received frameInput payload :: .deviceWrote taken :: farewell)
  /-- The device has given data that the client did not get. -/
  | output (data : List UInt8) (farewell : List ConsoleEvent)
      (h : ∀ event ∈ farewell, event.isFarewell = true) :
      LastExchange (.received frameRead [] :: .deviceRead data :: farewell)

/-- A beginning of some data has reached the wire, and all of it when the call succeeded. -/
structure Wrote (data : List UInt8) {ε : Type} (io : ConsoleIo) (ended : Ended ε Unit)
    (reached : ConsoleIo) : Prop where
  session : reached.session = io.session
  log : reached.log = io.log
  reads : reached.client.reads = io.client.reads
  wire : ∃ part, part <+: data ∧ reached.wire = io.wire ++ part ∧ (ended.isOk = true ↔ part = data)

section Client

variable {middle : ConsoleIo} {first : List UInt8} {ended : Ended ε Unit}

theorem wp_clientWriteAll (data : List UInt8) (io : ConsoleIo) :
    wp (mapError ConsoleProtocolError.io (clientWriteAll data)) (Wrote data io)
      io := by
  obtain ⟨hbegins, hall⟩ := writeAllRetry_accepted io.client.writes data
  have hspec : wp (clientWriteAll data) (Wrote data io) io :=
    ⟨rfl, rfl, rfl, _, hbegins, rfl, hall⟩
  refine wp_mapError hspec (fun _ _ h => ?_) (fun _ _ h => ?_) (fun _ h => ?_) <;>
    exact ⟨h.session, h.log, h.reads, h.wire⟩

/-- Writing goes on where the first part has ended. -/
theorem Wrote.append {second : List UInt8} (hfirst : Wrote first io (.ok () : Ended ε Unit) middle)
    (h : Wrote second middle ended reached) : Wrote (first ++ second) io ended reached := by
  obtain ⟨part, -, hwire, hall⟩ := hfirst.wire
  obtain rfl := hall.mp rfl
  obtain ⟨rest, hrest, hlater, hok⟩ := h.wire
  refine ⟨h.session.trans hfirst.session, h.log.trans hfirst.log, h.reads.trans hfirst.reads,
    part ++ rest, (List.prefix_append_right_inj part).mpr hrest, ?_, ?_⟩
  · rw [hlater, hwire, List.append_assoc]
  · rw [hok, List.append_right_inj]

/-- Nothing follows a part that has failed. -/
theorem Wrote.extend (second : List UInt8) (hfailed : ended.isOk = false)
    (h : Wrote first io ended reached) : Wrote (first ++ second) io ended reached := by
  obtain ⟨part, hpart, hwire, hall⟩ := h.wire
  refine ⟨h.session, h.log, h.reads, part, hpart.trans (List.prefix_append first second), hwire,
    fun hok => ?_, fun hwhole => ?_⟩
  · rw [hfailed] at hok
    cases hok
  · -- what is all of both is all of the first part
    refine hall.mpr (hpart.eq_of_length_le ?_)
    rw [hwhole, List.length_append]
    exact Nat.le_add_right _ _

/-- What sending a frame leaves behind: the whole frame on the wire and in the log, or a part of
it on the wire. -/
structure FrameSent (io : ConsoleIo) (kind : UInt8) (payload : List UInt8)
    (ended : Ended ConsoleProtocolError Unit) (reached : ConsoleIo) : Prop where
  session : reached.session = io.session
  reads : reached.client.reads = io.client.reads
  sent : ended.isOk = true → reached.log = io.log ++ [.sent kind payload] ∧
    reached.wire = io.wire ++ wireFrame kind payload
  cut : ended.isOk = false → reached.log = io.log ∧ ∃ part, reached.wire = io.wire ++ part ∧
    part <+: wireFrame kind payload ∧ part ≠ wireFrame kind payload

theorem wp_writeProtocolFrame (kind : UInt8) (payload : List UInt8) :
    wp (writeProtocolFrame kind payload) (FrameSent io kind payload) io := by
  unfold writeProtocolFrame
  split
  · exact ⟨rfl, rfl, fun hok => absurd hok Bool.false_ne_true, fun _ => ⟨rfl, [],
      (List.append_nil _).symm, List.nil_prefix, by simp [wireFrame]⟩⟩
  · have hframe : wireFrame kind payload = [kind] ++ (toBeBytes payload.length ++ payload) :=
      List.append_assoc _ _ _
    have hcut : ∀ {ended : Ended ConsoleProtocolError Unit} {reached : ConsoleIo},
        ended.isOk = false →
        Wrote ([kind] ++ (toBeBytes payload.length ++ payload)) io ended reached →
        FrameSent io kind payload ended reached := by
      intro ended reached hfailed ⟨hsession, hlog, hreads, part, hpart, hwire, hall⟩
      rw [← hframe] at hpart hall
      refine ⟨hsession, hreads, fun hok => ?_, fun _ => ⟨hlog, part, hwire, hpart, ?_⟩⟩
      · rw [hfailed] at hok
        cases hok
      · rw [ne_eq, ← hall, hfailed]
        exact Bool.false_ne_true
    refine wp_bind (wp_clientWriteAll [kind] io) (fun _ first hfirst => ?_)
      (fun _ _ h => hcut rfl (h.extend _ rfl)) (fun _ h => hcut rfl (h.extend _ rfl))
    refine wp_bind (wp_clientWriteAll (toBeBytes payload.length) first)
      (fun _ second hsecond => ?_) (fun _ _ h => hcut rfl (hfirst.append (h.extend _ rfl)))
      (fun _ h => hcut rfl (hfirst.append (h.extend _ rfl)))
    refine wp_bind (wp_clientWriteAll payload second) (fun _ third hthird => ?_)
      (fun _ _ h => hcut rfl (hfirst.append (hsecond.append h)))
      (fun _ h => hcut rfl (hfirst.append (hsecond.append h)))
    obtain ⟨hsession, hlog, hreads, part, -, hwire, hall⟩ := hfirst.append (hsecond.append hthird)
    obtain rfl := hall.mp rfl
    refine ⟨hsession, hreads, fun _ => ⟨congrArg (· ++ _) hlog, ?_⟩, fun hfailed => by cases hfailed⟩
    rw [hframe]
    exact hwire

/-- A part of a frame, but not all of it. -/
def UnderWay (part : List UInt8) : Prop :=
  ∃ kind payload, part <+: wireFrame kind payload ∧ part ≠ wireFrame kind payload

end Client

/-! ### The device -/

/-- The session has its device and was not closed. -/
def IsOpen (session : ConsoleSession ByteStream) : Prop :=
  session.closed = none ∧ ∃ device, session.device = some device

/-- The log has grown by a farewell. -/
def Farewell (before after : ConsoleIo) : Prop :=
  ∃ events, after.log = before.log ++ events ∧ ∀ event ∈ events, event.isFarewell = true

theorem Farewell.of_log_eq {before after : ConsoleIo} (h : after.log = before.log) :
    Farewell before after :=
  ⟨[], by rw [h, List.append_nil], List.forall_mem_nil _⟩

theorem Farewell.trans {a b c : ConsoleIo} (hab : Farewell a b) (hbc : Farewell b c) :
    Farewell a c := by
  obtain ⟨first, hfirst, hbye⟩ := hab
  obtain ⟨second, hsecond, hbye'⟩ := hbc
  refine ⟨first ++ second, by rw [hsecond, hfirst, List.append_assoc], fun event hevent => ?_⟩
  rcases List.mem_append.mp hevent with hmem | hmem
  · exact hbye event hmem
  · exact hbye' event hmem

section Keeps

variable {β : Type} {view : ConsoleIo → β}
  (hclose : ∀ reason, Keeps view (close reason : Faulty ConsoleIo ConsoleError _))

include hclose

/-- What neither the device nor the end of a session changes is not changed by input. -/
theorem writeFrame_keeps (hwrite : ∀ device data, Keeps view (deviceWriteAll device data))
    (data : List UInt8) : Keeps view (writeFrame data) := by
  refine keeps_get.bind fun io => ?_
  split
  · exact keeps_fail _
  · split
    · exact keeps_fail _
    · exact keeps_fail _
    · refine Keeps.bind (hwrite _ _).attempt fun result => ?_
      split
      · exact keeps_pure _
      · exact (hclose _).bind fun _ => keeps_fail _

/-- Neither is it changed by output. -/
theorem readFrame_keeps (hread : ∀ device limit, Keeps view (deviceRead device limit)) :
    Keeps view readFrame := by
  refine keeps_get.bind fun io => ?_
  split
  · exact keeps_pure _
  · exact keeps_fail _
  · refine Keeps.bind (hread _ _).attempt fun result => ?_
    split
    · split
      · exact keeps_pure _
      · exact (hclose _).bind fun _ => keeps_fail _
    · exact (hclose _).bind fun _ => keeps_pure _
    · exact keeps_pure _

end Keeps

/-- What only the client's side of a session changes. -/
def clientSide (io : ConsoleIo) : List UInt8 × ConsoleAttachment := (io.wire, io.session.attachment)

theorem close_keeps_clientSide (reason : ConsoleCloseReason) :
    Keeps clientSide (close reason : Faulty ConsoleIo ε ConsoleCloseReason) := by
  intro io
  have hattachment : (io.session.close reason).2.attachment = io.session.attachment := by
    unfold ConsoleSession.close
    split <;> rfl
  exact Prod.ext rfl hattachment

section Device

/-- Closing is a farewell. -/
theorem wp_close (reason : ConsoleCloseReason) :
    wp (close reason : Faulty ConsoleIo ε ConsoleCloseReason)
      (fun _ reached => Farewell io reached) io := by
  show Farewell io _
  simp only [close]
  split
  · exact ⟨[_], rfl, fun event hevent => by rw [List.mem_singleton.mp hevent]; rfl⟩
  · exact ⟨[], rfl, List.forall_mem_nil _⟩

/-- Closing never fails. -/
theorem wp_close_bind {α : Type} {reason : ConsoleCloseReason}
    {next : ConsoleCloseReason → Faulty ConsoleIo ε α} {post : Ended ε α → ConsoleIo → Prop}
    (h : ∀ first reached, Farewell io reached → clientSide reached = clientSide io →
      wp (next first) post reached) : wp (close reason >>= next) post io :=
  h _ _ (wp_close (ε := ε) reason) (close_keeps_clientSide (ε := ε) reason io)

/-- What writing a frame to the device leaves behind. -/
def FrameWritten (io : ConsoleIo) (data : List UInt8) (ended : Ended ConsoleError Unit)
    (reached : ConsoleIo) : Prop :=
  match ended with
  | .ok () => IsOpen reached.session ∧ reached.log = io.log ++ [.deviceWrote data]
  | .error _ | .stopped =>
      Farewell io reached ∨
        ∃ taken, taken <+: data ∧ Farewell (note [.deviceWrote taken] io) reached

theorem wp_writeFrame (data : List UInt8) (hopen : IsOpen io.session) :
    wp (writeFrame data) (FrameWritten io data) io := by
  obtain ⟨hclosed, device, hdevice⟩ := hopen
  obtain ⟨hbegins, hall⟩ := writeAllRetry_accepted device.writes data
  unfold writeFrame
  refine wp_get_bind.mpr ?_
  split
  · exact .inl (.of_log_eq rfl)
  · rw [hclosed, hdevice]
    have hwrite : wp (deviceWriteAll device data) (fun ended reached =>
        ∃ taken, taken <+: data ∧ (ended.isOk = true → taken = data) ∧ IsOpen reached.session ∧
          reached.log = io.log ++ [.deviceWrote taken]) io :=
      ⟨_, hbegins, hall.mp, ⟨hclosed, _, rfl⟩, rfl⟩
    refine wp_attempt_bind hwrite ?_ ?_ ?_
    · intro _ reached ⟨taken, _, hok, hopen, hlog⟩
      rw [hok rfl] at hlog
      exact ⟨hopen, hlog⟩
    · intro error reached ⟨taken, htaken, _, _, hlog⟩
      have htook : Farewell (note [.deviceWrote taken] io) reached := .of_log_eq hlog
      exact wp_close_bind fun _ _ hbye _ => .inr ⟨taken, htaken, htook.trans hbye⟩
    · intro reached ⟨taken, htaken, _, _, hlog⟩
      exact .inr ⟨taken, htaken, .of_log_eq hlog⟩

theorem readRetry_took (limit : ℕ) (replies : List ReadReply) :
    Took replies ((readRetry limit replies).1.value?.getD []) (readRetry limit replies).2 ∧
      ∀ bytes, (readRetry limit replies).1 = .ok bytes → bytes.length ≤ limit := by
  fun_induction readRetry limit replies with
  | case1 error rest hinterrupted ih => exact ⟨(took_failed error rest).trans ih.1, ih.2⟩
  | case2 error rest hfailed => exact ⟨took_failed error rest, fun _ h => by cases h⟩
  | case3 replies hreplies => exact readSome_took limit replies

/-- What reading a frame from the device leaves behind. -/
def FrameRead (io : ConsoleIo) (ended : Ended ConsoleError ConsoleRead) (reached : ConsoleIo) :
    Prop :=
  match ended with
  | .ok (.data data) => IsOpen reached.session ∧ reached.log = io.log ++ [.deviceRead data] ∧
      data.length ≤ io.session.attachment.maxFrameBytes.toNat
  | .ok .pending => IsOpen reached.session ∧ reached.log = io.log
  | .ok (.closed _) | .error _ | .stopped => Farewell io reached

theorem wp_readFrame (hopen : IsOpen io.session) : wp readFrame (FrameRead io) io := by
  obtain ⟨hclosed, device, hdevice⟩ := hopen
  unfold readFrame
  refine wp_get_bind.mpr ?_
  rw [hclosed, hdevice]
  have hread : wp (deviceRead device io.session.attachment.maxFrameBytes.toNat)
      (fun ended reached => IsOpen reached.session ∧ reached.log = io.log ++ readEvents ended ∧
        ∀ bytes, ended = .ok bytes →
          bytes.length ≤ io.session.attachment.maxFrameBytes.toNat) io :=
    ⟨⟨hclosed, _, rfl⟩, rfl, (readRetry_took _ device.reads).2⟩
  refine wp_attempt_bind hread ?_ ?_ ?_
  · intro data reached ⟨hopen, hlog, hlength⟩
    cases data with
    | nil =>
        rw [readEvents, if_pos rfl, List.append_nil] at hlog
        exact wp_close_bind fun _ _ hbye _ => (Farewell.of_log_eq hlog).trans hbye
    | cons byte data => exact ⟨hopen, hlog, hlength _ rfl⟩
  · intro error reached ⟨hopen, hlog, _⟩
    rw [readEvents, List.append_nil] at hlog
    simp only
    split
    · exact ⟨hopen, hlog⟩
    · exact wp_close_bind fun _ _ hbye _ => (Farewell.of_log_eq hlog).trans hbye
  · intro reached ⟨_, hlog, _⟩
    rw [readEvents, List.append_nil] at hlog
    exact Farewell.of_log_eq hlog

end Device

/-! ### Requests -/

section Requests

variable {json : ConsoleJson} {kind : UInt8} {payload : List UInt8}

/-- What is still to be done about a request. -/
abbrev Answering : Type := Faulty ConsoleIo ConsoleProtocolError (Option ConsoleCloseReason)

/-- The end of a session: the client is told why, or nothing more is said. -/
inductive LastWords (json : ConsoleJson) : Answering → Prop
  | refuse (error : ConsoleError) :
      LastWords json (do writeConsoleError json error; fail (.console error))
  | part (reason : ConsoleCloseReason) :
      LastWords json (do writeClose json reason; return some reason)
  | silent (ended : Ended ConsoleProtocolError (Option ConsoleCloseReason))
      (h : ended ≠ .ok none) : LastWords json fun io => (ended, io)

/-- What the device has done for a request, and what is left to be said to the client. -/
inductive Treated (json : ConsoleJson) (io : ConsoleIo) : UInt8 → List UInt8 → ConsoleIo →
    Answering → Prop
  | input {payload : List UInt8} {mid : ConsoleIo} (hopen : IsOpen mid.session)
      (hside : clientSide mid = clientSide io) (hmid : mid.log = io.log ++ [.deviceWrote payload]) :
      Treated json io frameInput payload mid (do writeProtocolFrame frameAck []; return none)
  | output {data : List UInt8} {mid : ConsoleIo} (hopen : IsOpen mid.session)
      (hside : clientSide mid = clientSide io) (hmid : mid.log = io.log ++ [.deviceRead data])
      (hlength : data.length ≤ io.session.attachment.maxFrameBytes.toNat) :
      Treated json io frameRead [] mid (do writeProtocolFrame frameOutput data; return none)
  | idle {mid : ConsoleIo} (hopen : IsOpen mid.session) (hside : clientSide mid = clientSide io)
      (hmid : mid.log = io.log) :
      Treated json io frameRead [] mid (do writeProtocolFrame frameAck []; return none)
  | resize {payload : List UInt8} : Treated json io frameResize payload io
      (do writeConsoleError json (.stable .resizeUnsupported); return none)
  | last {kind : UInt8} {payload : List UInt8} {mid : ConsoleIo} {rest : Answering}
      (hside : clientSide mid = clientSide io)
      (hdone : Farewell io mid ∨ kind = frameInput ∧
        ∃ taken, taken <+: payload ∧ Farewell (note [.deviceWrote taken] io) mid)
      (hlast : LastWords json rest) : Treated json io kind payload mid rest

/-- A request is served by the device first, and then the client is told. -/
theorem wp_serveFrame_of_treated
    {post : Ended ConsoleProtocolError (Option ConsoleCloseReason) → ConsoleIo → Prop}
    (hopen : IsOpen io.session)
    (h : ∀ mid rest, Treated json io kind payload mid rest → wp rest post mid) :
    wp (serveFrame json kind payload) post io := by
  by_cases hinput : kind = frameInput
  · subst hinput
    unfold serveFrame
    rw [if_pos rfl]
    refine wp_attempt_bind (wp_and (wp_writeFrame payload hopen)
      ((writeFrame_keeps close_keeps_clientSide (fun _ _ _ => rfl) payload).wp io)) ?_ ?_ ?_
    · rintro _ written ⟨⟨hopen, hlog⟩, hside⟩
      exact h _ _ (.input hopen hside hlog)
    · rintro error written ⟨hdone, hside⟩
      exact h _ _ (.last hside (hdone.imp_right fun htaken => ⟨rfl, htaken⟩) (.refuse error))
    · rintro written ⟨hdone, hside⟩
      exact h _ _ (.last hside (hdone.imp_right fun htaken => ⟨rfl, htaken⟩)
        (.silent .stopped (by simp)))
  by_cases hread : kind = frameRead ∧ payload = []
  · obtain ⟨rfl, rfl⟩ := hread
    unfold serveFrame
    rw [if_neg (by decide), if_pos ⟨rfl, rfl⟩]
    refine wp_attempt_bind (wp_and (wp_readFrame hopen)
      ((readFrame_keeps close_keeps_clientSide fun _ _ _ => rfl).wp io)) ?_ ?_ ?_
    · rintro read seen ⟨hread, hside⟩
      cases read with
      | data data => exact h _ _ (.output hread.1 hside hread.2.1 hread.2.2)
      | pending => exact h _ _ (.idle hread.1 hside hread.2)
      | closed reason => exact h _ _ (.last hside (.inl hread) (.part reason))
    · rintro error seen ⟨hbye, hside⟩
      exact h _ _ (.last hside (.inl hbye) (.refuse error))
    · rintro seen ⟨hbye, hside⟩
      exact h _ _ (.last hside (.inl hbye) (.silent .stopped (by simp)))
  have hinvalid : wp (fail .invalidFrame) post io :=
    h _ _ (.last rfl (.inl (.of_log_eq rfl)) (.silent (.error .invalidFrame) (by simp)))
  unfold serveFrame
  rw [if_neg hinput, if_neg hread]
  split
  · exact wp_close_bind fun reason reached hbye hside =>
      h _ _ (.last hside (.inl hbye) (.part reason))
  · split
    case isFalse => exact hinvalid
    case isTrue hresize =>
      subst hresize
      cases json.parseSize payload with
      | none => exact hinvalid
      | some size => exact wp_get_bind.mpr (h _ _ .resize)

end Requests

/-! ### The server -/

section Server

variable (json : ConsoleJson)

/-- What sending a text of the protocol leaves behind. -/
def TextSent (io : ConsoleIo) (kind : UInt8) (ended : Ended ConsoleProtocolError Unit)
    (reached : ConsoleIo) : Prop :=
  reached.session = io.session ∧ (reached.log = io.log ∧ ended.isOk = false ∨
      ∃ answer, reached.log = io.log ++ [.sent kind answer])

theorem TextSent.farewell {kind : UInt8} {ended : Ended ConsoleProtocolError Unit}
    (h : TextSent io kind ended reached)
    (hkind : kind = frameError ∨ kind = frameClosed) : Farewell io reached := by
  obtain ⟨-, ⟨hlog, -⟩ | ⟨answer, hlog⟩⟩ := h
  · exact .of_log_eq hlog
  · refine ⟨_, hlog, fun event hevent => ?_⟩
    rw [List.mem_singleton.mp hevent]
    exact decide_eq_true hkind

variable {kind : UInt8} {payload : List UInt8}

/-- Whatever else is a farewell, the exchange was the last one. -/
def LogEnds (log : List ConsoleEvent) (io : ConsoleIo) : Prop :=
  ∀ reached, Farewell io reached → ∃ events, LastExchange events ∧ reached.log = log ++ events

theorem LogEnds.after (h : LogEnds log io) (hbye : Farewell io reached) : LogEnds log reached :=
  fun _ hlater => h _ (hbye.trans hlater)

/-- Some bytes were read from the client, and nothing else has changed. -/
structure ClientRead (io : ConsoleIo) (taken : List UInt8) (reached : ConsoleIo) : Prop where
  session : reached.session = io.session
  wire : reached.wire = io.wire
  log : reached.log = io.log
  took : Took io.client.reads taken reached.client.reads

theorem ClientRead.trans {middle : ConsoleIo} {first second : List UInt8}
    (hfirst : ClientRead io first middle) (hsecond : ClientRead middle second reached) :
    ClientRead io (first ++ second) reached :=
  ⟨hsecond.session.trans hfirst.session, hsecond.wire.trans hfirst.wire,
    hsecond.log.trans hfirst.log, hfirst.took.trans hsecond.took⟩

end Server

/-! ### Reading the log -/

/-- Everything the device took. -/
def deviceInput (log : List ConsoleEvent) : List UInt8 :=
  log.flatMap fun
    | .deviceWrote bytes => bytes
    | _ => []

/-- What the device gave, read by read. -/
def deviceReads (log : List ConsoleEvent) : List (List UInt8) :=
  log.filterMap fun
    | .deviceRead bytes => some bytes
    | _ => none

section Farewells

variable {farewell : List ConsoleEvent} (h : ∀ event ∈ farewell, event.isFarewell = true)

include h

theorem deviceInput_farewell : deviceInput farewell = [] := by
  refine List.flatMap_eq_nil_iff.mpr fun event hevent => ?_
  have hbye := h event hevent
  cases event with
  | deviceWrote bytes => exact absurd hbye (by simp [ConsoleEvent.isFarewell])
  | _ => rfl

end Farewells

/-- The frames that were sent. -/
def framesSent (log : List ConsoleEvent) : List UInt8 :=
  log.flatMap fun
    | .sent kind payload => wireFrame kind payload
    | _ => []

/-- The frames that have arrived. -/
def framesReceived (log : List ConsoleEvent) : List UInt8 :=
  log.flatMap fun
    | .received kind payload => wireFrame kind payload
    | _ => []

/-- What has passed the client's stream since `wire` was written and `bytes` were to be read:
the frames of the log, and some bytes that belong to no frame of it. -/
structure Passed (wire bytes : List UInt8) (io : ConsoleIo) (unsent unread : List UInt8) :
    Prop where
  wire : io.wire = wire ++ framesSent io.log ++ unsent
  reads : bytes = framesReceived io.log ++ unread ++ arriving io.client.reads

/-- The log tells all that has passed the client's stream. -/
def Told (wire bytes : List UInt8) (io : ConsoleIo) : Prop := Passed wire bytes io [] []

/-- The log tells all but a part of a frame in each direction. -/
def AlmostTold (wire bytes : List UInt8) (io : ConsoleIo) : Prop :=
  ∃ unsent unread, UnderWay unsent ∧ UnderWay unread ∧ Passed wire bytes io unsent unread

section Told

variable {wire bytes : List UInt8}

variable (wire bytes)

/-- As long as the computation does not fail, the log tells all. -/
def Tells {ε α : Type} (action : Faulty ConsoleIo ε α) : Prop :=
  Steps (fun _ reached => AlmostTold wire bytes reached) (Told wire bytes) action
    fun _ => Told wire bytes

variable {wire bytes}

end Told

/-! ### Bytes of a session -/

end Kernmux.Daemon
