import Kernmux.Web.ConsoleInput

/-!
# Kernmux.Web.ConsoleAnswers

**One request, one answer on the wire.** The log of a session says what the
device did; a client sees only bytes. This file says what the answer to a
request puts on the wire, together with what it did at the device: a whole
frame when the session goes on, and a beginning of a frame when it ends
(`wp_serveFrame_answered`).

A client that reads the wire frame by frame can then account for the bytes of
the device without seeing the log.
-/

namespace Kernmux.Web

open Api.V1 Daemon Daemon.ConsoleIo Gateway Library Faulty

/-! ### Bytes in frames -/

/-- Bytes that a request brings to the device. -/
def inputBytes (frame : DecodedFrame) : List UInt8 :=
  if frame.kind = frameInput then frame.payload else []

/-- Bytes that an answer brings from the device. -/
def outputBytes (frame : DecodedFrame) : List UInt8 :=
  if frame.kind = frameOutput then frame.payload else []

/-- An answer after which the next read may be asked for. -/
def IsReply (frame : DecodedFrame) : Prop := frame.kind = frameOutput ∨ frame.kind = frameAck

@[simp] theorem inputBytes_input (payload : List UInt8) :
    inputBytes ⟨frameInput, payload⟩ = payload := rfl

@[simp] theorem outputBytes_output (payload : List UInt8) :
    outputBytes ⟨frameOutput, payload⟩ = payload := rfl

@[simp] theorem outputBytes_ack (payload : List UInt8) : outputBytes ⟨frameAck, payload⟩ = [] := rfl

@[simp] theorem outputBytes_error (payload : List UInt8) :
    outputBytes ⟨frameError, payload⟩ = [] := rfl

@[simp] theorem outputBytes_closed (payload : List UInt8) :
    outputBytes ⟨frameClosed, payload⟩ = [] := rfl

/-- The texts of the protocol fit into frames. -/
structure ConsoleJson.Short (json : ConsoleJson) : Prop where
  attachment : ∀ {attachment text}, json.attachment attachment = some text →
    text.length ≤ maxConsolePayload
  apiError : ∀ {error text}, json.apiError error = some text → text.length ≤ maxConsolePayload
  closeReason : ∀ {reason text}, json.closeReason reason = some text →
    text.length ≤ maxConsolePayload

/-! ### Accounts of a log -/

@[simp] theorem deviceInput_append (first second : List ConsoleEvent) :
    deviceInput (first ++ second) = deviceInput first ++ deviceInput second :=
  List.flatMap_append

@[simp] theorem deviceReads_append (first second : List ConsoleEvent) :
    deviceReads (first ++ second) = deviceReads first ++ deviceReads second :=
  List.filterMap_append

@[simp] theorem deviceInput_sent (kind : UInt8) (payload : List UInt8) (log : List ConsoleEvent) :
    deviceInput (.sent kind payload :: log) = deviceInput log := rfl

@[simp] theorem deviceReads_sent (kind : UInt8) (payload : List UInt8) (log : List ConsoleEvent) :
    deviceReads (.sent kind payload :: log) = deviceReads log := rfl

@[simp] theorem deviceInput_wrote (bytes : List UInt8) (log : List ConsoleEvent) :
    deviceInput (.deviceWrote bytes :: log) = bytes ++ deviceInput log := rfl

@[simp] theorem deviceReads_wrote (bytes : List UInt8) (log : List ConsoleEvent) :
    deviceReads (.deviceWrote bytes :: log) = deviceReads log := rfl

@[simp] theorem deviceInput_read (bytes : List UInt8) (log : List ConsoleEvent) :
    deviceInput (.deviceRead bytes :: log) = deviceInput log := rfl

@[simp] theorem deviceReads_read (bytes : List UInt8) (log : List ConsoleEvent) :
    deviceReads (.deviceRead bytes :: log) = bytes :: deviceReads log := rfl

@[simp] theorem deviceInput_received (kind : UInt8) (payload : List UInt8)
    (log : List ConsoleEvent) : deviceInput (.received kind payload :: log) = deviceInput log := rfl

@[simp] theorem deviceReads_received (kind : UInt8) (payload : List UInt8)
    (log : List ConsoleEvent) : deviceReads (.received kind payload :: log) = deviceReads log := rfl

@[simp] theorem deviceInput_nil : deviceInput [] = [] := rfl

@[simp] theorem deviceReads_nil : deviceReads [] = [] := rfl

/-! ### Answers -/

/-- What a request has caused, wherever it has ended: some events in the log, and on the wire a
beginning of one answer. The device has taken a beginning of the input, and the answer holds no
bytes that the device has not given. -/
structure Caused (request answer : DecodedFrame) (events : List ConsoleEvent) (part : List UInt8)
    (io reached : ConsoleIo) : Prop where
  attachment : reached.session.attachment = io.session.attachment
  log : reached.log = io.log ++ events
  wire : reached.wire = io.wire ++ part
  begins : part <+: consoleFraming.emit answer
  valid : consoleFraming.valid answer
  input : deviceInput events <+: inputBytes request
  output : outputBytes answer <+: (deviceReads events).flatten

/-- The answer is complete and the session goes on. -/
structure Complete (request answer : DecodedFrame) (events : List ConsoleEvent)
    (part : List UInt8) (reached : ConsoleIo) : Prop where
  isOpen : IsOpen reached.session
  whole : part = consoleFraming.emit answer
  input : deviceInput events = inputBytes request
  output : (deviceReads events).flatten = outputBytes answer
  reply : request.kind = frameInput ∨ request.kind = frameRead → IsReply answer

/-- A request was answered, or the session has ended with it. -/
def Answered (request : DecodedFrame) (io : ConsoleIo)
    (ended : Ended ConsoleProtocolError (Option ConsoleCloseReason)) (reached : ConsoleIo) : Prop :=
  ∃ answer events part, Caused request answer events part io reached ∧
    (ended = .ok none → Complete request answer events part reached)

section Answers

variable {request : DecodedFrame} {io reached : ConsoleIo} {events : List ConsoleEvent}
  {ended : Ended ConsoleProtocolError (Option ConsoleCloseReason)}

/-- Nothing was written and the session has ended. -/
theorem answered_silent (hside : clientSide reached = clientSide io)
    (hlog : reached.log = io.log ++ events) (hinput : deviceInput events <+: inputBytes request)
    (hended : ended ≠ .ok none) : Answered request io ended reached := by
  obtain ⟨hwire, hattachment⟩ := Prod.mk.inj hside
  refine ⟨⟨frameAck, []⟩, events, [], ⟨hattachment, hlog, ?_, List.nil_prefix, Nat.zero_le _,
    hinput, List.nil_prefix⟩, fun h => absurd h hended⟩
  rw [hwire, List.append_nil]

/-- What has been caused when an answer is written, in full or in part. -/
theorem caused_of_sent {answer : DecodedFrame} (hside : clientSide reached = clientSide io)
    (hlog : reached.log = io.log ++ events) (hvalid : consoleFraming.valid answer)
    (hinput : deviceInput events <+: inputBytes request)
    (houtput : outputBytes answer <+: (deviceReads events).flatten)
    {ended : Ended ConsoleProtocolError Unit} {last : ConsoleIo}
    (h : FrameSent reached answer.kind answer.payload ended last) :
    ∃ more part, Caused request answer (events ++ more) part io last ∧
      last.session = reached.session ∧ deviceInput more = [] ∧ deviceReads more = [] ∧
        (ended.isOk = true → part = consoleFraming.emit answer) := by
  obtain ⟨hwire, hattachment⟩ := Prod.mk.inj hside
  have hcaused : ∀ more part, last.log = reached.log ++ more → deviceInput more = [] →
      deviceReads more = [] → last.wire = reached.wire ++ part →
      part <+: consoleFraming.emit answer → Caused request answer (events ++ more) part io last := by
    intro more part hmore hnoInput hnoReads hpart hbegins
    refine ⟨by rw [h.session, hattachment], by rw [hmore, hlog, List.append_assoc],
      by rw [hpart, hwire], hbegins, hvalid, ?_, ?_⟩
    · simpa [hnoInput] using hinput
    · simpa [hnoReads] using houtput
  cases hok : ended.isOk with
  | true =>
      obtain ⟨hsent, hwhole⟩ := h.sent hok
      exact ⟨_, _, hcaused _ _ hsent rfl rfl hwhole (List.prefix_refl _), h.session, rfl, rfl,
        fun _ => rfl⟩
  | false =>
      obtain ⟨hsame, part, hpart, hbegins, -⟩ := h.cut hok
      exact ⟨[], part, hcaused [] part (by rw [hsame, List.append_nil]) rfl rfl hpart hbegins,
        h.session, rfl, rfl, fun h => absurd h Bool.false_ne_true⟩

/-- The answer is written in full, or the session ends within it. -/
theorem wp_reply (answer : DecodedFrame) (hopen : IsOpen reached.session)
    (hside : clientSide reached = clientSide io) (hlog : reached.log = io.log ++ events)
    (hvalid : consoleFraming.valid answer) (hinput : deviceInput events = inputBytes request)
    (houtput : (deviceReads events).flatten = outputBytes answer)
    (hreply : request.kind = frameInput ∨ request.kind = frameRead → IsReply answer) :
    wp (do writeProtocolFrame answer.kind answer.payload; return none)
      (Answered request io) reached := by
  have hcaused := @caused_of_sent request io reached events answer hside hlog hvalid
    (by simp [hinput]) (by simp [houtput])
  refine wp_bind (wp_writeProtocolFrame answer.kind answer.payload) ?_ ?_ ?_
  · intro _ last h
    obtain ⟨more, part, hcaused, hsession, hnoInput, hnoReads, hall⟩ := hcaused h
    refine ⟨answer, _, part, hcaused, fun _ => ⟨hsession ▸ hopen, hall rfl, ?_, ?_, hreply⟩⟩
    · simp [hnoInput, hinput]
    · simp [hnoReads, houtput]
  · intro _ last h
    obtain ⟨more, part, hcaused, -⟩ := hcaused h
    exact ⟨answer, _, part, hcaused, by simp⟩
  · intro last h
    obtain ⟨more, part, hcaused, -⟩ := hcaused h
    exact ⟨answer, _, part, hcaused, by simp⟩

/-- The session ends, and the client is told with a text of the protocol. -/
theorem wp_lastText {kind : UInt8} {text : Option (List UInt8)}
    {last : Answering}
    (hkind : kind = frameError ∨ kind = frameClosed)
    (hshort : ∀ bytes, text = some bytes → bytes.length ≤ maxConsolePayload)
    (hlast : ∀ state, (last state).1 ≠ .ok none ∧ (last state).2 = state)
    (hside : clientSide reached = clientSide io) (hlog : reached.log = io.log ++ events)
    (hinput : deviceInput events <+: inputBytes request) :
    wp (do (serialize text >>= writeProtocolFrame kind); last)
      (Answered request io) reached := by
  cases text with
  | none => exact answered_silent hside hlog hinput (by intro h; cases h)
  | some bytes =>
      have hnone : outputBytes ⟨kind, bytes⟩ = [] := by rcases hkind with rfl | rfl <;> rfl
      have hcaused := @caused_of_sent request io reached events ⟨kind, bytes⟩ hside hlog
        (hshort bytes rfl) hinput (by rw [hnone]; exact List.nil_prefix)
      refine wp_bind (wp_writeProtocolFrame kind bytes) ?_ ?_ ?_
      · intro _ state h
        obtain ⟨more, part, hcaused, -⟩ := hcaused h
        obtain ⟨hended, hsame⟩ := hlast state
        exact ⟨_, _, part, hsame.symm ▸ hcaused, fun h => absurd h hended⟩
      · intro _ state h
        obtain ⟨more, part, hcaused, -⟩ := hcaused h
        exact ⟨_, _, part, hcaused, by simp⟩
      · intro state h
        obtain ⟨more, part, hcaused, -⟩ := hcaused h
        exact ⟨_, _, part, hcaused, by simp⟩

variable {json : ConsoleJson}

theorem answered_lastWords {rest : Answering} (hlast : LastWords json rest)
    (hshort : ConsoleJson.Short json) (hside : clientSide reached = clientSide io)
    (hlog : reached.log = io.log ++ events) (hinput : deviceInput events <+: inputBytes request) :
    wp rest (Answered request io) reached := by
  cases hlast with
  | refuse error =>
      exact wp_lastText (.inl rfl) (fun _ h => hshort.apiError h)
        (fun _ => ⟨(by intro h; cases h), rfl⟩) hside hlog hinput
  | part reason =>
      exact wp_lastText (.inr rfl) (fun _ h => hshort.closeReason h)
        (fun _ => ⟨(by intro h; cases h), rfl⟩) hside hlog hinput
  | silent ended h => exact answered_silent hside hlog hinput h

/-- Every request is answered by one frame, or ends the session. -/
theorem wp_serveFrame_answered (hshort : ConsoleJson.Short json) (hopen : IsOpen io.session)
    (hlimit : io.session.attachment.maxFrameBytes.toNat ≤ maxConsolePayload)
    (request : DecodedFrame) :
    wp (serveFrame json request.kind request.payload) (Answered request io) io := by
  obtain ⟨kind, payload⟩ := request
  have hsame : io.log = io.log ++ [] := (List.append_nil _).symm
  refine wp_serveFrame_of_treated hopen fun mid rest htreated => ?_
  cases htreated with
  | input hopen hside hmid =>
      exact wp_reply ⟨frameAck, []⟩ hopen hside hmid (Nat.zero_le _) (List.append_nil _) rfl
        (fun _ => .inr rfl)
  | output hopen hside hmid hlength =>
      exact wp_reply ⟨frameOutput, _⟩ hopen hside hmid (hlength.trans hlimit) rfl (by simp)
        (fun _ => .inl rfl)
  | idle hopen hside hmid =>
      exact wp_reply ⟨frameAck, []⟩ hopen hside (hmid.trans hsame) (Nat.zero_le _) rfl rfl
        (fun _ => .inr rfl)
  | resize =>
      -- the answer is an error, and the session goes on all the same
      show wp ((serialize (json.apiError _) >>= writeProtocolFrame frameError) >>=
        fun _ => pure none) _ io
      cases htext : json.apiError (ConsoleError.stable .resizeUnsupported).apiError with
      | none => exact answered_silent rfl hsame List.nil_prefix (by intro h; cases h)
      | some text =>
          refine wp_reply ⟨frameError, text⟩ hopen rfl hsame (hshort.apiError htext) rfl rfl fun h => ?_
          rcases h with h | h
          all_goals cases h
  | last hside hdone hlast =>
      rcases hdone with ⟨farewell, hlog, hbye⟩ | ⟨rfl, taken, hbegins, farewell, hlog, hbye⟩
      · exact answered_lastWords hlast hshort hside hlog (by simp [deviceInput_farewell hbye])
      · rw [note, List.append_assoc] at hlog
        exact answered_lastWords hlast hshort hside hlog
          (by simpa [deviceInput_farewell hbye] using hbegins)

end Answers

end Kernmux.Web
