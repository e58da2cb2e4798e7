import Kernmux.Library.Result
import Kernmux.Web.ConsoleSystem

/-!
# Kernmux.Web.ConsoleSystemSound

**What the instance writes is shown, what the user types arrives, and the
console never stalls.** The daemon answers requests in their order and every
channel keeps its order, so that two lists of frames account for everything
under way in a console: the requests not yet served and the answers not yet
shown (`Account`). A step takes a frame from the front of one list or adds one
at the end of the other.

The same two lists show that the window is never left waiting. The window
forgets an outstanding read at any acknowledgement, that of its input included,
so it may ask again too early, but it never waits for a reply that is not under
way.
-/

namespace Kernmux.Web

open Api.V1 Daemon Gateway Library InstanceConsole

variable {frame : DecodedFrame} {message : List UInt8}

/-! ### What the window shows -/

/-- Bytes of the instance in a write to the terminal. -/
def TerminalWrite.bytes : TerminalWrite → List UInt8
  | .output bytes => bytes
  | .notice _ => []

namespace InstanceConsole

variable {json : BrowserJson} {console reached : InstanceConsole} {frames : List DecodedFrame}

/-- Everything of the instance that the terminal has shown. -/
def displayed (console : InstanceConsole) : List UInt8 :=
  console.terminal.flatMap TerminalWrite.bytes

@[simp] theorem displayed_scheduleRead (console : InstanceConsole) (delay : ℕ) :
    (console.scheduleRead delay).displayed = console.displayed := by
  simp [displayed]

/-- What the handlers of some frames have done to a window. -/
structure Shows (frames : List DecodedFrame) (console reached : InstanceConsole) : Prop where
  socket : reached.socket = console.socket
  decoder : reached.decoder = console.decoder
  displayed : reached.displayed = console.displayed ++ frames.flatMap outputBytes
  attached : console.attached = true ∨ (∃ frame ∈ frames, frame.kind = frameAttachment) →
    reached.attached = true
  pumps : (console.attached = true → console.Pumps) → reached.attached = true → reached.Pumps
  /-- A reply makes the window forget that a read is outstanding. -/
  outstanding : reached.readOutstanding = true →
    console.readOutstanding = true ∧ ∀ frame ∈ frames, ¬ IsReply frame

theorem Shows.refl (console : InstanceConsole) : Shows [] console console :=
  ⟨rfl, rfl, by simp, by simp, fun h => h, fun h => ⟨h, by simp⟩⟩

theorem Shows.cons {middle : InstanceConsole} (hfirst : Shows [frame] console middle)
    (hrest : Shows frames middle reached) :
    Shows (frame :: frames) console reached := by
  refine ⟨hrest.socket.trans hfirst.socket, hrest.decoder.trans hfirst.decoder, ?_, ?_,
    fun h => hrest.pumps (hfirst.pumps h), ?_⟩
  · rw [hrest.displayed, hfirst.displayed]
    simp
  · rintro (hattached | ⟨other, hother, hkind⟩)
    · exact hrest.attached (.inl (hfirst.attached (.inl hattached)))
    · rcases List.mem_cons.mp hother with rfl | hother
      · exact hrest.attached (.inl (hfirst.attached (.inr ⟨other, by simp, hkind⟩)))
      · exact hrest.attached (.inr ⟨other, hother, hkind⟩)
  · intro h
    obtain ⟨hmiddle, hframes⟩ := hrest.outstanding h
    obtain ⟨hconsole, hframe⟩ := hfirst.outstanding hmiddle
    exact ⟨hconsole, List.forall_mem_cons.mpr ⟨hframe frame (by simp), hframes⟩⟩

/-- A frame that is neither output nor acknowledgement changes neither the terminal nor what the
window knows of its read. -/
theorem shows_of_quiet (houtput : frame.kind ≠ frameOutput) (hack : frame.kind ≠ frameAck)
    (hsocket : reached.socket = console.socket) (hdecoder : reached.decoder = console.decoder)
    (hdisplayed : reached.displayed = console.displayed)
    (hattached : console.attached = true ∨ frame.kind = frameAttachment → reached.attached = true)
    (hpumps : (console.attached = true → console.Pumps) → reached.attached = true → reached.Pumps)
    (houtstanding : reached.readOutstanding = console.readOutstanding) :
    Shows [frame] console reached := by
  refine ⟨hsocket, hdecoder, by simp [hdisplayed, outputBytes, houtput], by simpa using hattached,
    hpumps, ?_⟩
  intro h
  rw [houtstanding] at h
  simp [h, IsReply, houtput, hack]

/-- A reply ends the outstanding read, and the next one is scheduled. -/
theorem shows_of_reply {answered : InstanceConsole} {delay : ℕ}
    (hreply : frame.kind ≠ frameAttachment) (hattached : answered.attached = console.attached)
    (hsocket : answered.socket = console.socket) (hdecoder : answered.decoder = console.decoder)
    (hdisplayed : answered.displayed = console.displayed ++ outputBytes frame)
    (houtstanding : answered.readOutstanding = false) :
    Shows [frame] console (answered.scheduleRead delay) := by
  refine ⟨by simpa, by simpa, by simpa, by simp [hreply, hattached],
    fun _ _ => scheduleRead_pumps _ _, ?_⟩
  simp [houtstanding]

/-- The handler of a frame that does not throw. -/
theorem shows_of_onFrame (h : onFrame json console frame = .ok reached) :
    Shows [frame] console reached := by
  unfold onFrame at h
  split at h
  case isTrue hkind =>
    simp only [bind_eq_ok] at h
    obtain ⟨attachment, -, h⟩ := h
    split at h
    · cases h
    · cases h
      refine shows_of_quiet ?_ ?_ (by simp) (by simp) (by simp [displayed]) (by simp)
        (fun _ _ => scheduleRead_pumps _ _) (by simp)
      all_goals rw [hkind]; decide
  case isFalse hquiet =>
    split at h
    case isTrue hkind =>
      cases h
      have hbytes : outputBytes frame = frame.payload := if_pos hkind
      exact shows_of_reply hquiet rfl rfl rfl
        (by simp [displayed, TerminalWrite.bytes, hbytes]) rfl
    case isFalse houtput =>
      split at h
      case isTrue hkind =>
        cases h
        have hbytes : outputBytes frame = [] := if_neg houtput
        exact shows_of_reply hquiet rfl rfl rfl (by simp [displayed, hbytes]) rfl
      case isFalse hack =>
        have hattached : console.attached = true ∨ frame.kind = frameAttachment →
            console.attached = true := fun h => h.resolve_right hquiet
        split at h
        case isTrue hkind =>
          cases h
          exact shows_of_quiet houtput hack rfl rfl (by simp [displayed, TerminalWrite.bytes])
            hattached (fun h => h) rfl
        case isFalse =>
          split at h
          case isTrue hkind =>
            simp only [bind_eq_ok] at h
            obtain ⟨message, -, h⟩ := h
            cases h
          case isFalse =>
            cases h
            exact shows_of_quiet houtput hack rfl rfl rfl hattached (fun h => h) rfl

/-- The handlers have gone through a first part of the frames, and through all of them when none
has thrown. -/
theorem shows_of_onFrames {error : Option String}
    (h : onFrames json console frames = (reached, error)) :
    ∃ shown rest, frames = shown ++ rest ∧ Shows shown console reached ∧
      (error = none → rest = []) := by
  induction frames generalizing console with
  | nil =>
      obtain ⟨rfl, rfl⟩ := Prod.mk.inj h
      exact ⟨[], [], rfl, .refl _, fun _ => rfl⟩
  | cons frame frames ih =>
      rw [onFrames] at h
      cases hframe : onFrame json console frame with
      | ok middle =>
          rw [hframe] at h
          obtain ⟨shown, rest, rfl, hshows, hrest⟩ := ih h
          exact ⟨frame :: shown, rest, rfl, (shows_of_onFrame hframe).cons hshows, hrest⟩
      | error message =>
          rw [hframe] at h
          obtain ⟨rfl, rfl⟩ := Prod.mk.inj h
          exact ⟨[], frame :: frames, rfl, .refl _, by simp⟩

/-- A message makes some frames complete, and these are shown. A handler that throws closes the
socket, with the frames behind it not shown. -/
theorem onMessage_account (json : BrowserJson) {unseen : List DecodedFrame} {future : List UInt8}
    (hvalid : ∀ frame ∈ unseen, consoleFraming.valid frame)
    (hpending : consoleFraming.Pending console.decoder.buffered unseen)
    (hsize : message.length ≤ maxConsoleWireBytes)
    (hstream : console.decoder.buffered ++ message ++ future = unseen.flatMap consoleFraming.emit) :
    ∃ complete pending left, unseen = complete ++ pending ∧
      left ++ future = pending.flatMap consoleFraming.emit ∧
      console.decoder.buffered ++ message = complete.flatMap consoleFraming.emit ++ left ∧
      consoleFraming.Pending left pending ∧
      ((console.onMessage json (.binary message)).displayed <+:
        console.displayed ++ complete.flatMap outputBytes) ∧
      ((console.onMessage json (.binary message)).socket = .closing ∨
        Shows complete { console with decoder := ⟨left⟩ }
          (console.onMessage json (.binary message))) := by
  obtain ⟨complete, pending, left, hframes, hpush, hbytes, hfuture, hleft⟩ :=
    push_of_append hvalid hpending hsize hstream
  refine ⟨complete, pending, left, hframes, hfuture, hbytes, hleft, ?_⟩
  simp only [onMessage, hpush]
  rcases hshown : onFrames json { console with decoder := ⟨left⟩ } complete with ⟨last, error⟩
  obtain ⟨shown, rest, rfl, hshows, hrest⟩ := shows_of_onFrames hshown
  have hbegins : last.displayed <+: console.displayed ++ (shown ++ rest).flatMap outputBytes := by
    rw [hshows.displayed, List.flatMap_append, ← List.append_assoc]
    exact List.prefix_append _ _
  cases error with
  | none =>
      rw [hrest rfl, List.append_nil] at hbegins ⊢
      exact ⟨hbegins, .inr hshows⟩
  | some message => exact ⟨hbegins, .inl rfl⟩

end InstanceConsole

/-! ### The account -/

/-- Requests as the window sends them. -/
inductive IsRequest : DecodedFrame → Prop
  | input {data : List UInt8} (h : data.length ≤ maxConsolePayload) : IsRequest ⟨frameInput, data⟩
  | read : IsRequest ⟨frameRead, []⟩
  | detach : IsRequest ⟨frameDetach, []⟩

theorem IsRequest.valid (h : IsRequest frame) : consoleFraming.valid frame := by
  cases h with
  | input h => exact h
  | read | detach => exact Nat.zero_le _

theorem IsRequest.length_emit_le (h : IsRequest frame) :
    (consoleFraming.emit frame).length ≤ maxConsoleWireBytes := by
  have hvalid : frame.payload.length ≤ maxConsolePayload := h.valid
  rw [length_emit]
  unfold maxConsolePayload at hvalid
  unfold maxConsoleWireBytes
  omega

/-- The daemon has not ended its session. -/
def ConsoleServer.Runs : ConsoleServer → Prop
  | .starting session | .serving session =>
      session.closed = none ∧ session.attachment.maxFrameBytes.toNat ≤ maxConsolePayload
  | .ended => False

/-- The daemon has described the console. -/
def ConsoleServer.Greeted : ConsoleServer → Prop
  | .serving _ => True
  | .starting _ | .ended => False

namespace ConsoleSystem

/-- The window takes messages. -/
def Receives (system : ConsoleSystem) : Prop :=
  system.browser.socket = .connecting ∨ system.browser.socket = .open

/-- The answers that the window has not shown. -/
structure Showing (system : ConsoleSystem) (unseen : List DecodedFrame) : Prop where
  valid : ∀ frame ∈ unseen, consoleFraming.valid frame
  pieces : ∀ message ∈ system.downward, message.length ≤ maxConsoleWireBytes
  pending : consoleFraming.Pending system.browser.decoder.buffered unseen
  told : system.browser.decoder.buffered ++ system.downward.flatten ++ system.answers <+:
    unseen.flatMap consoleFraming.emit
  toldAll : system.server.Runs → system.browser.decoder.buffered ++ system.downward.flatten ++
    system.answers = unseen.flatMap consoleFraming.emit
  given : system.browser.displayed ++ unseen.flatMap outputBytes <+:
    (deviceReads system.log).flatten
  givenAll : system.server.Runs → (deviceReads system.log).flatten =
    system.browser.displayed ++ unseen.flatMap outputBytes
  greeted : system.server.Greeted → system.browser.attached = true ∨
    ∃ frame ∈ unseen, frame.kind = frameAttachment
  early : system.browser.socket = .connecting → system.browser.attached = false
  pumps : system.browser.attached = true → system.browser.Pumps

/-- The requests that the daemon has not served and the answers that the window has not shown
account for everything that is under way. -/
structure Account (system : ConsoleSystem) (unserved unseen : List DecodedFrame) : Prop where
  isRequest : ∀ frame ∈ unserved, IsRequest frame
  messages : ∀ message ∈ system.upward, message.length ≤ maxConsoleWireBytes
  asked : system.requests <+: unserved.flatMap consoleFraming.emit
  askedAll : system.bridged = true →
    system.requests ++ system.upward.flatten = unserved.flatMap consoleFraming.emit
  runs : system.server.Runs ∨ system.server = .ended
  taken : deviceInput system.log <+: system.inputSent
  takenAll : system.server.Runs →
    system.inputSent = deviceInput system.log ++ unserved.flatMap inputBytes
  shown : system.browser.displayed <+: (deviceReads system.log).flatten
  showing : system.Receives → system.Showing unseen
  /-- A read that the window waits for is under way, or its reply is. -/
  outstanding : system.Receives → system.bridged = true → system.server.Runs →
    system.browser.readOutstanding = true →
    (∃ frame ∈ unserved, frame.kind = frameRead) ∨ ∃ frame ∈ unseen, IsReply frame

section Steps

variable {system : ConsoleSystem} {unserved unseen : List DecodedFrame}

/-! #### The window -/

section Held

variable (h : Account system unserved unseen)

include h

/-- The window sends a request. -/
theorem Account.ask (hframe : IsRequest frame)
    {browser : InstanceConsole} (hdisplayed : browser.displayed = system.browser.displayed)
    (hshowing : { system with browser := browser }.Receives →
      { system with browser := browser }.Showing unseen)
    (houtstanding : { system with browser := browser }.Receives →
      browser.readOutstanding = true → frame.kind = frameRead ∨
        system.Receives ∧ system.browser.readOutstanding = true) :
    Account { system with
      browser := browser
      upward := system.upward ++ [consoleFraming.emit frame]
      inputSent := system.inputSent ++ inputBytes frame } (unserved ++ [frame]) unseen where
  isRequest := List.forall_mem_append.mpr ⟨h.isRequest, List.forall_mem_singleton.mpr hframe⟩
  messages := List.forall_mem_append.mpr
    ⟨h.messages, List.forall_mem_singleton.mpr hframe.length_emit_le⟩
  asked := by
    rw [List.flatMap_append]
    exact h.asked.trans (List.prefix_append _ _)
  askedAll hbridged := by
    have hall := h.askedAll hbridged
    simp [← hall]
  runs := h.runs
  taken := h.taken.trans (List.prefix_append _ _)
  takenAll hruns := by
    have hall := h.takenAll hruns
    simp [hall]
  shown := by
    rw [hdisplayed]
    exact h.shown
  showing hreceives := { hshowing hreceives with }
  outstanding hreceives hbridged hruns hread := by
    rcases houtstanding hreceives hread with hnew | ⟨hbefore, hold⟩
    · exact .inl ⟨frame, by simp, hnew⟩
    · rcases h.outstanding hbefore hbridged hruns hold with ⟨other, hother, hkind⟩ | hreply
      · exact .inl ⟨other, List.mem_append_left _ hother, hkind⟩
      · exact .inr hreply

/-- The window changes in what the user sees at most. -/
theorem Account.window {browser : InstanceConsole}
    (hdisplayed : browser.displayed = system.browser.displayed)
    (hshowing : { system with browser := browser }.Receives →
      { system with browser := browser }.Showing unseen)
    (houtstanding : { system with browser := browser }.Receives →
      browser.readOutstanding = true → system.Receives ∧ system.browser.readOutstanding = true) :
    Account { system with browser := browser } unserved unseen :=
  { h with
    shown := by
      rw [hdisplayed]
      exact h.shown
    showing := hshowing
    outstanding := fun hreceives hbridged hruns hread =>
      have ⟨hbefore, hold⟩ := houtstanding hreceives hread
      h.outstanding hbefore hbridged hruns hold }

theorem Account.types (data : List UInt8) :
    ∃ unserved, Account { system with
      upward := system.upward ++ system.browser.onData data
      inputSent := if system.browser.onData data = [] then system.inputSent
        else system.inputSent ++ data } unserved unseen := by
  by_cases hsent : system.browser.socket = .open ∧ data.length ≤ maxConsolePayload
  · obtain ⟨hopen, hsize⟩ := hsent
    have hdata : system.browser.onData data = [wireFrame frameInput data] :=
      send_of_open hopen hsize
    refine ⟨unserved ++ [⟨frameInput, data⟩], ?_⟩
    rw [hdata]
    exact h.ask (.input hsize) rfl h.showing fun hreceives hread => .inr ⟨hreceives, hread⟩
  · have hdata : system.browser.onData data = [] := by
      by_cases hopen : system.browser.socket = .open
      · exact send_of_long (Nat.lt_of_not_le fun hsize => hsent ⟨hopen, hsize⟩)
      · exact send_of_not_open hopen _ _
    refine ⟨unserved, ?_⟩
    rw [hdata, if_pos rfl, List.append_nil]
    exact h

theorem Account.timer : ∃ unserved, Account { system with
      browser := system.browser.timerFires.1
      upward := system.upward ++ system.browser.timerFires.2 } unserved unseen := by
  by_cases hopen : system.browser.socket = .open
  · refine ⟨unserved ++ [⟨frameRead, []⟩], ?_⟩
    rw [timerFires_of_open hopen, ← List.append_nil system.inputSent]
    refine h.ask .read rfl (fun _ => ?_) (fun _ _ => .inl rfl)
    have hshowing := h.showing (.inr hopen)
    exact { hshowing with pumps := fun _ => .inl rfl }
  · refine ⟨unserved, ?_⟩
    rw [timerFires_of_not_open hopen, List.append_nil]
    refine h.window rfl (fun hreceives => ?_) (fun hreceives hread => ⟨hreceives, hread⟩)
    -- a window that is still connecting has not been attached
    have hshowing := h.showing hreceives
    have hconnecting : system.browser.socket = .connecting := hreceives.resolve_right hopen
    refine { hshowing with pumps := fun hattached => ?_ }
    have hattached : system.browser.attached = true := hattached
    rw [hshowing.early hconnecting] at hattached
    cases hattached

theorem Account.leaves : ∃ unserved, Account { system with
      browser := system.browser.onCleanup.1
      upward := system.upward ++ system.browser.onCleanup.2 } unserved unseen := by
  have hgone : ¬ { system with browser := system.browser.onCleanup.1 }.Receives := by
    show ¬ (system.browser.onCleanup.1.socket = .connecting ∨
      system.browser.onCleanup.1.socket = .open)
    simp only [onCleanup]
    split <;> simp
  by_cases hsent : system.browser.attached = true ∧ system.browser.socket = .open
  · obtain ⟨hattached, hopen⟩ := hsent
    have hcleanup : system.browser.onCleanup.2 = [wireFrame frameDetach []] := by
      simp only [onCleanup, hattached, if_true]
      exact send_of_open hopen (Nat.zero_le _)
    refine ⟨unserved ++ [⟨frameDetach, []⟩], ?_⟩
    rw [hcleanup, ← List.append_nil system.inputSent]
    exact h.ask .detach rfl (absurd · hgone) (absurd · hgone)
  · have hcleanup : system.browser.onCleanup.2 = [] := by
      simp only [onCleanup]
      split
      · exact send_of_not_open (by tauto) _ _
      · rfl
    refine ⟨unserved, ?_⟩
    rw [hcleanup, List.append_nil]
    exact h.window rfl (absurd · hgone) (absurd · hgone)

theorem Account.receives {json : BrowserJson} (hopen : system.browser.socket = .open)
    {downward : List (List UInt8)}
    (hdownward : system.downward = message :: downward) :
    ∃ unseen, Account { system with
      browser := system.browser.onMessage json (.binary message)
      downward := downward } unserved unseen := by
  have hshowing := h.showing (.inr hopen)
  obtain ⟨future, htold⟩ := hshowing.told
  have hpieces := hshowing.pieces
  rw [hdownward] at htold hpieces
  have hstream : system.browser.decoder.buffered ++ message ++
      (downward.flatten ++ system.answers ++ future) = unseen.flatMap consoleFraming.emit := by
    simpa using htold
  obtain ⟨complete, pending, left, rfl, hfuture, hbytes, hleft, hdisplayed, hcase⟩ :=
    onMessage_account json hshowing.valid hshowing.pending
      (hpieces message List.mem_cons_self) hstream
  have hgiven := hshowing.given
  rw [List.flatMap_append] at hgiven
  have hshown : (system.browser.onMessage json (.binary message)).displayed <+:
      (deviceReads system.log).flatten := by
    refine hdisplayed.trans (List.IsPrefix.trans ?_ hgiven)
    rw [← List.append_assoc]
    exact List.prefix_append _ _
  refine ⟨pending, { h with shown := hshown, showing := ?_, outstanding := ?_ }⟩
  all_goals
    intro hreceives
    -- the socket is open still, so no handler has thrown
    have hshows := hcase.resolve_left fun hclosing => by
      rcases hreceives with hsocket | hsocket <;> cases hclosing.symm.trans hsocket
  · refine ⟨fun frame hframe => hshowing.valid frame (List.mem_append_right _ hframe),
      fun other hother => hpieces other (List.mem_cons_of_mem _ hother), ?_, ?_, ?_, ?_, ?_, ?_, ?_,
      ?_⟩
    · rw [hshows.decoder]
      exact hleft
    · refine ⟨future, ?_⟩
      rw [hshows.decoder]
      simpa using hfuture
    · intro hruns
      have hall := hshowing.toldAll hruns
      rw [hdownward, List.flatten_cons, ← List.append_assoc, hbytes, List.flatMap_append,
        List.append_assoc, List.append_assoc] at hall
      rw [hshows.decoder, List.append_assoc]
      exact List.append_cancel_left hall
    · rw [hshows.displayed, List.append_assoc]
      exact hgiven
    · intro hruns
      have hall := hshowing.givenAll hruns
      rw [List.flatMap_append, ← List.append_assoc] at hall
      rw [hshows.displayed]
      exact hall
    · intro hgreeted
      rcases hshowing.greeted hgreeted with hattached | ⟨frame, hframe, hkind⟩
      · exact .inl (hshows.attached (.inl hattached))
      · rcases List.mem_append.mp hframe with hcomplete | hframe
        · exact .inl (hshows.attached (.inr ⟨frame, hcomplete, hkind⟩))
        · exact .inr ⟨frame, hframe, hkind⟩
    · intro hconnecting
      cases hopen.symm.trans (hshows.socket.symm.trans hconnecting)
    · exact hshows.pumps hshowing.pumps
  · intro hbridged hruns hread
    obtain ⟨hbefore, hquiet⟩ := hshows.outstanding hread
    rcases h.outstanding (.inr hopen) hbridged hruns hbefore with
      hrequest | ⟨reply, hreply, hkind⟩
    · exact .inl hrequest
    · rcases List.mem_append.mp hreply with hcomplete | hpending
      · exact absurd hkind (hquiet reply hcomplete)
      · exact .inr ⟨reply, hpending, hkind⟩

/-! #### The bridge -/

theorem Account.passes (hbridged : system.bridged = true)
    {upward : List (List UInt8)} (hupward : system.upward = message :: upward) :
    Account { system with upward := upward, requests := system.requests ++ message }
      unserved unseen := by
  have hall := h.askedAll hbridged
  have hmessages := h.messages
  rw [hupward] at hall hmessages
  rw [List.flatten_cons, ← List.append_assoc] at hall
  exact { h with
    messages := fun other hother => hmessages other (List.mem_cons_of_mem _ hother)
    asked := ⟨_, hall⟩
    askedAll := fun _ => hall
    showing := fun hreceives => { h.showing hreceives with } }

theorem Account.breaks {upward : List (List UInt8)} {requests : List UInt8}
    (hupward : upward ⊆ system.upward) (hrequests : requests <+: unserved.flatMap consoleFraming.emit) :
    Account { system with upward := upward, requests := requests, bridged := false }
      unserved unseen :=
  { h with
    messages := fun message hmessage => h.messages message (hupward hmessage)
    asked := hrequests
    askedAll := fun hbridged => nomatch hbridged
    showing := fun hreceives => { h.showing hreceives with }
    outstanding := fun _ hbridged => nomatch hbridged }

theorem Account.relays {count : ℕ} (hcount : count ≤ maxConsoleWireBytes) :
    Account { system with
      answers := system.answers.drop count
      downward := system.downward ++ [system.answers.take count] } unserved unseen := by
  have hstream : system.browser.decoder.buffered ++
      (system.downward ++ [system.answers.take count]).flatten ++ system.answers.drop count =
      system.browser.decoder.buffered ++ system.downward.flatten ++ system.answers := by
    simp
  refine { h with showing := fun hreceives => ?_ }
  have hshowing := h.showing hreceives
  refine { hshowing with
    pieces := List.forall_mem_append.mpr ⟨hshowing.pieces, List.forall_mem_singleton.mpr ?_⟩
    told := ?_
    toldAll := ?_ }
  · exact (List.length_take_le _ _).trans hcount
  · rw [hstream]
    exact hshowing.told
  · rw [hstream]
    exact hshowing.toldAll

end Held

/-! #### The daemon -/

/-- What is begun with nothing is pending before any answer. -/
theorem Showing.pending_append (h : system.Showing unseen) (hruns : system.server.Runs)
    (answer : DecodedFrame) :
    consoleFraming.Pending system.browser.decoder.buffered (unseen ++ [answer]) := by
  cases hunseen : unseen with
  | nil =>
      have hnone := h.toldAll hruns
      rw [hunseen, List.flatMap_nil, List.append_assoc] at hnone
      obtain ⟨hbuffered, -⟩ := List.append_eq_nil_iff.mp hnone
      intro frame _
      rw [hbuffered, length_emit]
      exact Nat.succ_pos _
  | cons first rest =>
      have hpending := h.pending
      rw [hunseen] at hpending
      exact hpending

/-- The daemon has served some requests with one answer, completely if its session goes on. -/
theorem Account.answer (consumed : List DecodedFrame) {io : ConsoleIo} {server : ConsoleServer}
    {requests : List UInt8} {answer : DecodedFrame} {events : List ConsoleEvent}
    (h : Account system (consumed ++ unserved) unseen) (hruns : system.server.Runs)
    (hrequests : system.requests = consumed.flatMap consoleFraming.emit ++ requests)
    (hlog : io.log = system.log ++ events) (hbegins : io.wire <+: consoleFraming.emit answer)
    (hvalid : consoleFraming.valid answer)
    (hinput : deviceInput events <+: consumed.flatMap inputBytes)
    (houtput : outputBytes answer <+: (deviceReads events).flatten)
    (hserver : server.Runs ∨ server = .ended)
    (hgreets : server.Greeted → system.server.Greeted ∨ answer.kind = frameAttachment)
    (hcomplete : server.Runs → io.wire = consoleFraming.emit answer ∧
      deviceInput events = consumed.flatMap inputBytes ∧
      (deviceReads events).flatten = outputBytes answer ∧
      ∀ frame ∈ consumed, frame.kind = frameRead → IsReply answer) :
    Account ({ system with requests := requests }.answered io server) unserved
      (unseen ++ [answer]) where
  isRequest frame hframe := h.isRequest frame (List.mem_append_right _ hframe)
  messages := h.messages
  asked := by
    have hasked := h.asked
    rw [hrequests, List.flatMap_append] at hasked
    exact (List.prefix_append_right_inj _).mp hasked
  askedAll hbridged := by
    have hall := h.askedAll hbridged
    rw [hrequests, List.flatMap_append, List.append_assoc] at hall
    exact List.append_cancel_left hall
  runs := hserver
  taken := by
    show deviceInput io.log <+: system.inputSent
    rw [hlog, deviceInput_append, h.takenAll hruns, List.flatMap_append]
    exact (List.prefix_append_right_inj _).mpr (hinput.trans (List.prefix_append _ _))
  takenAll hafter := by
    show system.inputSent = deviceInput io.log ++ unserved.flatMap inputBytes
    rw [hlog, deviceInput_append, h.takenAll hruns, List.flatMap_append, (hcomplete hafter).2.1,
      List.append_assoc]
  shown := by
    show system.browser.displayed <+: (deviceReads io.log).flatten
    rw [hlog, deviceReads_append, List.flatten_append]
    exact h.shown.trans (List.prefix_append _ _)
  showing hreceives := by
    have hshowing := h.showing hreceives
    have hframes : ∀ {α : Type} (view : DecodedFrame → List α),
        (unseen ++ [answer]).flatMap view = unseen.flatMap view ++ view answer := by simp
    have hreads : (deviceReads io.log).flatten =
        (deviceReads system.log).flatten ++ (deviceReads events).flatten := by
      rw [hlog, deviceReads_append, List.flatten_append]
    refine { hshowing with
      valid := List.forall_mem_append.mpr ⟨hshowing.valid, List.forall_mem_singleton.mpr hvalid⟩
      pending := hshowing.pending_append hruns answer
      told := ?_
      toldAll := fun hafter => ?_
      given := ?_
      givenAll := fun hafter => ?_
      greeted := fun hafter => ?_ }
    · show system.browser.decoder.buffered ++ system.downward.flatten ++
        (system.answers ++ io.wire) <+: _
      rw [hframes, ← List.append_assoc, hshowing.toldAll hruns]
      exact (List.prefix_append_right_inj _).mpr hbegins
    · show system.browser.decoder.buffered ++ system.downward.flatten ++
        (system.answers ++ io.wire) = _
      rw [hframes, ← List.append_assoc, hshowing.toldAll hruns, (hcomplete hafter).1]
    · show _ <+: (deviceReads io.log).flatten
      rw [hframes, hreads, hshowing.givenAll hruns, ← List.append_assoc]
      exact (List.prefix_append_right_inj _).mpr houtput
    · show (deviceReads io.log).flatten = _
      rw [hframes, hreads, hshowing.givenAll hruns, (hcomplete hafter).2.2.1, List.append_assoc]
      rfl
    · rcases hgreets hafter with hbefore | hkind
      · rcases hshowing.greeted hbefore with hattached | ⟨frame, hframe, hkind⟩
        · exact .inl hattached
        · exact .inr ⟨frame, List.mem_append_left _ hframe, hkind⟩
      · exact .inr ⟨answer, by simp, hkind⟩
  outstanding hreceives hbridged hafter hread := by
    rcases h.outstanding hreceives hbridged hruns hread with
      ⟨frame, hframe, hkind⟩ | ⟨reply, hold, hkind⟩
    · rcases List.mem_append.mp hframe with hserved | hleft
      · exact .inr ⟨answer, by simp, (hcomplete hafter).2.2.2 frame hserved hkind⟩
      · exact .inl ⟨frame, hleft, hkind⟩
    · exact .inr ⟨reply, List.mem_append_left _ hold, hkind⟩

/-- The first frame of a session is written completely if the session goes on. -/
theorem wp_attach {json : ConsoleJson} (hshort : ConsoleJson.Short json)
    (session : ConsoleSession ByteStream) {io : ConsoleIo} (hfresh : io.wire = []) :
    Faulty.wp (attach json session) (fun ended reached => reached.session = io.session ∧
      ∃ answer events, reached.log = io.log ++ events ∧ deviceInput events = [] ∧
        deviceReads events = [] ∧ reached.wire <+: consoleFraming.emit answer ∧
        consoleFraming.valid answer ∧ outputBytes answer = [] ∧
        (ended.isOk = true →
          reached.wire = consoleFraming.emit answer ∧ answer.kind = frameAttachment)) io := by
  unfold attach
  cases htext : json.attachment session.attachment with
  | none =>
      refine ⟨rfl, ⟨frameAck, []⟩, [], (List.append_nil _).symm, rfl, rfl, ?_, Nat.zero_le _, rfl,
        fun hok => nomatch hok⟩
      show io.wire <+: _
      rw [hfresh]
      exact List.nil_prefix
  | some text =>
      have hvalid : consoleFraming.valid ⟨frameAttachment, text⟩ := hshort.attachment htext
      refine Faulty.wp_mono (wp_writeProtocolFrame frameAttachment text) fun ended reached h => ?_
      refine ⟨h.session, ⟨frameAttachment, text⟩, ?_⟩
      cases hok : ended.isOk with
      | true =>
          obtain ⟨hsent, hwhole⟩ := h.sent hok
          rw [hfresh, List.nil_append] at hwhole
          exact ⟨_, hsent, rfl, rfl, hwhole ▸ List.prefix_refl _, hvalid, rfl,
            fun _ => ⟨hwhole, rfl⟩⟩
      | false =>
          obtain ⟨hsame, part, hpart, hbegins, -⟩ := h.cut hok
          rw [hfresh, List.nil_append] at hpart
          exact ⟨[], by rw [hsame, List.append_nil], rfl, rfl, hpart ▸ hbegins, hvalid, rfl,
            fun h => absurd h Bool.false_ne_true⟩

variable {json : ConsoleJson} {texts : BrowserJson} {next : ConsoleSystem}

section Serving

variable (h : Account system unserved unseen)

include h

theorem Account.hangsUp :
    Account { system with server := .ended } unserved unseen :=
  { h with
    runs := .inr rfl
    takenAll := False.elim
    showing := fun hreceives =>
      { h.showing hreceives with
        toldAll := False.elim
        givenAll := False.elim
        greeted := False.elim }
    outstanding := fun _ _ hruns => hruns.elim }

/-- A server that has not ended runs. -/
theorem Account.runs_of_ne (hserver : system.server ≠ .ended) :
    system.server.Runs :=
  h.runs.resolve_right hserver

theorem Account.attaches (hshort : ConsoleJson.Short json)
    {writes : List WriteReply} (hnext : step json texts system (.attaches writes) = some next) :
    ∃ unseen, Account next unserved unseen := by
  simp only [step] at hnext
  split at hnext
  case h_2 | h_3 => cases hnext
  case h_1 session hserver =>
    have hruns : system.server.Runs := h.runs_of_ne (by simp [hserver])
    have hwp : Faulty.wp (attach json session) _ (system.serverIo session writes []) :=
      wp_attach hshort session rfl
    unfold Faulty.wp at hwp
    rcases hattach : attach json session (system.serverIo session writes []) with ⟨ended, io⟩
    rw [hattach] at hwp hnext
    obtain ⟨hsession, answer, events, hlog, hinput, hreads, hbegins, hvalid, houtput, hall⟩ := hwp
    have hlog : io.log = system.log ++ events := by simpa [serverIo] using hlog
    have hanswer : ∀ server : ConsoleServer, server.Runs ∨ server = .ended →
        (server.Greeted → answer.kind = frameAttachment) →
        (server.Runs → io.wire = consoleFraming.emit answer) →
        Account (system.answered io server) unserved (unseen ++ [answer]) :=
      fun server hserver hgreets hwhole => h.answer [] hruns rfl hlog hbegins hvalid
        (by simp [hinput]) (by simp [houtput]) hserver (fun hafter => .inr (hgreets hafter))
        fun hafter => ⟨hwhole hafter, hinput, by simp [hreads, houtput], by simp⟩
    refine ⟨unseen ++ [answer], ?_⟩
    cases ended with
    | ok =>
        cases hnext
        refine hanswer _ (.inl ?_) (fun _ => (hall rfl).2) (fun _ => (hall rfl).1)
        rw [hserver] at hruns
        show io.session.closed = none ∧ _
        rw [hsession]
        exact hruns
    | error | stopped =>
        cases hnext
        exact hanswer _ (.inr rfl) False.elim False.elim

/-- The request that the daemon finds is the first one that it has not served. -/
theorem Account.request {request : DecodedFrame}
    {rest : List UInt8} (hparse : parseFrame system.requests = .frame request rest) :
    ∃ others, unserved = request :: others ∧
      system.requests = consoleFraming.emit request ++ rest := by
  obtain ⟨hrequests, hsize⟩ := eq_of_parseFrame hparse
  obtain ⟨future, hfuture⟩ := h.asked
  have hparse' : consoleFraming.parse (unserved.flatMap consoleFraming.emit) =
      .frame request (rest ++ future) := by
    rw [← hfuture, hrequests, List.append_assoc]
    exact consoleFraming.parse_emit (rest ++ future) hsize
  cases unserved with
  | nil =>
      rw [List.flatMap_nil, consoleFraming.parse_nil] at hparse'
      cases hparse'
  | cons first others =>
      rw [List.flatMap_cons, consoleFraming.parse_emit _
        (h.isRequest first List.mem_cons_self).valid] at hparse'
      obtain ⟨rfl, -⟩ := Parsed.frame.inj hparse'
      exact ⟨others, rfl, hrequests⟩

theorem Account.serves (hshort : ConsoleJson.Short json)
    {device : ByteStream} {writes : List WriteReply}
    (hnext : step json texts system (.serves device writes) = some next) :
    ∃ unserved unseen, Account next unserved unseen := by
  simp only [step] at hnext
  split at hnext
  case h_2 | h_3 => cases hnext
  case h_1 session hserver =>
    have hruns : system.server.Runs := h.runs_of_ne (by simp [hserver])
    split at hnext
    case h_1 => cases hnext
    case h_2 =>
      cases hnext
      exact ⟨unserved, unseen, h.hangsUp⟩
    case h_3 request rest hparse =>
      obtain ⟨others, rfl, hrequests⟩ := h.request hparse
      have hsession : session.closed = none ∧
          session.attachment.maxFrameBytes.toNat ≤ maxConsolePayload := by
        rw [hserver] at hruns
        exact hruns
      have hgreeted : system.server.Greeted := by
        rw [hserver]
        trivial
      generalize hio : serverIo _ _ _ _ = io at hnext
      have hopen : IsOpen io.session := by
        rw [← hio]
        exact ⟨hsession.1, device, rfl⟩
      have hlimit : io.session.attachment.maxFrameBytes.toNat ≤ maxConsolePayload := by
        rw [← hio]
        exact hsession.2
      have hwp := wp_serveFrame_answered hshort hopen hlimit request
      unfold Faulty.wp at hwp
      rcases hserved : ConsoleIo.serveFrame json request.kind request.payload io with
        ⟨ended, reached⟩
      rw [hserved] at hwp hnext
      obtain ⟨answer, events, part, hcaused, hcomplete⟩ := hwp
      have hwire : reached.wire = part := by
        have hwire := hcaused.wire
        rw [← hio] at hwire
        exact hwire
      subst hwire
      have hlog : reached.log =
          system.log ++ ([.received request.kind request.payload] ++ events) := by
        rw [hcaused.log, ← hio, ← List.append_assoc]
        rfl
      have hanswer : ∀ server : ConsoleServer, server.Runs ∨ server = .ended →
          (server.Runs → Complete request answer events reached.wire reached) →
          Account ({ system with requests := rest }.answered reached server) others
            (unseen ++ [answer]) := by
        intro server hstate hdone
        refine h.answer [request] hruns (by simpa using hrequests) hlog
          hcaused.begins hcaused.valid (by simpa using hcaused.input)
          (by simpa using hcaused.output)
          hstate (fun _ => .inl hgreeted) fun hafter => ?_
        obtain ⟨-, hwhole, hinput, houtput, hreply⟩ := hdone hafter
        exact ⟨hwhole, by simpa using hinput, by simpa using houtput, by
          simpa using fun hkind => hreply (.inr hkind)⟩
      refine ⟨others, unseen ++ [answer], ?_⟩
      rcases ended with ⟨_ | reason⟩ | error | _
      · cases hnext
        have hdone := hcomplete rfl
        refine hanswer _ (.inl ⟨hdone.isOpen.1, ?_⟩) fun _ => hdone
        rw [hcaused.attachment]
        exact hlimit
      all_goals
        cases hnext
        exact hanswer _ (.inr rfl) False.elim

end Serving

/-- **Every step keeps the account.** -/
theorem Account.step (hshort : ConsoleJson.Short json) (label : ConsoleLabel)
    (h : Account system unserved unseen) (hnext : step json texts system label = some next) :
    ∃ unserved unseen, Account next unserved unseen := by
  cases label with
  | attaches writes => exact ⟨unserved, h.attaches hshort hnext⟩
  | serves device writes => exact h.serves hshort hnext
  | hangsUp =>
      cases hnext
      exact ⟨unserved, unseen, h.hangsUp⟩
  | breaks =>
      cases hnext
      exact ⟨unserved, unseen, h.breaks (List.Subset.refl _) h.asked⟩
  | fails =>
      cases hnext
      exact ⟨unserved, unseen, h.window rfl (fun hreceives => { h.showing hreceives with })
        fun hreceives hread => ⟨hreceives, hread⟩⟩
  | closes =>
      cases hnext
      have hgone : ¬ { system with browser := system.browser.onClose }.Receives := by
        simp [Receives, onClose]
      exact ⟨unserved, unseen, h.window rfl (absurd · hgone) (absurd · hgone)⟩
  | opens =>
      obtain ⟨hconnecting, ⟨⟩⟩ := Option.ite_none_right_eq_some.mp hnext
      have hshowing := h.showing (.inl hconnecting)
      exact ⟨unserved, unseen, h.window rfl
        (fun _ => { hshowing with early := fun hsocket => nomatch hsocket })
        fun _ hread => ⟨.inl hconnecting, hread⟩⟩
  | types data =>
      obtain ⟨-, ⟨⟩⟩ := Option.ite_none_left_eq_some.mp hnext
      exact (h.types data).imp fun _ h => ⟨unseen, h⟩
  | timer =>
      obtain ⟨-, ⟨⟩⟩ := Option.ite_none_right_eq_some.mp hnext
      exact h.timer.imp fun _ h => ⟨unseen, h⟩
  | leaves =>
      obtain ⟨-, ⟨⟩⟩ := Option.ite_none_left_eq_some.mp hnext
      exact h.leaves.imp fun _ h => ⟨unseen, h⟩
  | receives =>
      simp only [ConsoleSystem.step] at hnext
      split at hnext
      · cases hnext
      · rename_i message downward hdownward
        obtain ⟨hopen, ⟨⟩⟩ := Option.ite_none_right_eq_some.mp hnext
        exact ⟨unserved, h.receives hopen hdownward⟩
  | relays count =>
      obtain ⟨⟨-, hbytes⟩, hnext⟩ := Option.ite_none_right_eq_some.mp hnext
      cases hnext
      refine ⟨unserved, unseen, ?_⟩
      rw [bridgeTurn_read hbytes]
      exact h.relays (Nat.min_le_right _ _)
  | passes failed =>
      simp only [ConsoleSystem.step] at hnext
      split at hnext
      · cases hnext
      · rename_i message upward hupward
        obtain ⟨hbridged, hnext⟩ := Option.ite_none_right_eq_some.mp hnext
        have hsize : message.length ≤ maxConsoleWireBytes :=
          h.messages message (by rw [hupward]; exact List.mem_cons_self)
        rw [bridgeTurn_binary hsize] at hnext
        have hpassed := h.passes hbridged hupward
        refine ⟨unserved, unseen, ?_⟩
        cases failed with
        | none =>
            cases hnext
            have hsame : (!false) = system.bridged := hbridged.symm
            simp only [hsame]
            exact hpassed
        | some count =>
            cases hnext
            refine hpassed.breaks (List.Subset.refl _) (List.IsPrefix.trans ?_ hpassed.asked)
            exact (List.prefix_append_right_inj _).mpr (List.take_prefix _ _)

end Steps

/-! ### Every run -/

section Runs

variable {json : ConsoleJson} {texts : BrowserJson} {instanceId : InstanceId}
  {device : ByteStream} {labels : List ConsoleLabel} {system : ConsoleSystem}

end Runs

end ConsoleSystem

end Kernmux.Web
