import Kernmux.Daemon.Console
import Kernmux.Library.Ownership
import Kernmux.Library.Text
import Kernmux.Library.Transition
import Mathlib.Data.Finset.Basic

/-!
# Kernmux.Daemon.ConsoleProxy

**An instance's console is attached at most once.** A proxy and all the consoles
it was ever asked for, each from the call of `attach` until its session is
dropped. A call is cut where it touches what consoles share, the set of attached
instances, and where a device is opened or released; between two steps of one
console all the others may go on.

A console that holds the lease of its instance keeps the instance in the set,
and a device is open only while its console holds the lease. A step takes a
lease that nobody has, leaves all leases as they are, or gives up the lease of a
console whose device is gone already (`step_cases`). The rest follows from
exclusive ownership.
-/

namespace Kernmux.Daemon

open Api.V1 Library

/-! ### Consoles -/

/-- A console from the call of `attach` on, until it is dropped. -/
inductive Console
  /-- `attach` holds the lease, and the device once it is open. -/
  | attaching (lease : InstanceId) (device : Option ByteStream)
  /-- `attach` is about to fail: it still holds the lease. -/
  | failing (lease : InstanceId) (error : ConsoleError)
  /-- `attach` has failed. -/
  | rejected (error : ConsoleError)
  /-- The session is not in a call. -/
  | session (session : ConsoleSession ByteStream)
  /-- A call closes the session and has released its device. -/
  | closing (session : ConsoleSession ByteStream) (reason : ConsoleCloseReason)
  /-- The session is dropped; its device was released first. -/
  | dropping (session : ConsoleSession ByteStream)
  /-- The session is gone. -/
  | dropped (closed : Option ConsoleCloseReason)

/-- A call on a session. -/
inductive ConsoleCall
  | readFrame
  | writeFrame (data : List UInt8)
  | resize (size : ConsoleSize)
  | detach
  | instanceStopped

/-- The session when a call on it has returned; a call may wait for the device forever. -/
def ConsoleCall.session (call : ConsoleCall) (session : ConsoleSession ByteStream) :
    Option (ConsoleSession ByteStream) :=
  let io : ConsoleIo := ⟨⟨[], []⟩, session, [], []⟩
  match call with
  | .readFrame =>
      match ConsoleIo.readFrame io with
      | (.stopped, _) => none
      | (_, reached) => some reached.session
  | .writeFrame data =>
      match ConsoleIo.writeFrame data io with
      | (.stopped, _) => none
      | (_, reached) => some reached.session
  | .resize _ => some session
  | .detach => some session.detach.2
  | .instanceStopped => some session.instanceStopped.2

/-! ### The proxy -/

/-- Attached instances, and the consoles in the order of their `attach` calls. -/
structure ConsoleProxy where
  attached : Finset InstanceId
  maxFrameBytes : ℕ
  consoles : List Console

/-- Something a console does up to its next step that others can see. -/
inductive ConsoleStep
  | attach (instanceId : InstanceId)
  | openDevice (console : ℕ) (result : Except IoError ByteStream)
  | select (console : ℕ)
  | call (console : ℕ) (call : ConsoleCall)
  | drop (console : ℕ)
  /-- The lease is released behind the device. -/
  | release (console : ℕ)

namespace ConsoleProxy

def new : ConsoleProxy := ⟨∅, defaultMaxConsoleFrameBytes, []⟩

def withFrameLimit (maxFrameBytes : ℕ) : Except ConsoleError ConsoleProxy :=
  if maxFrameBytes = 0 ∨ 2 ^ 32 ≤ maxFrameBytes then .error (.stable .frameTooLarge)
  else .ok ⟨∅, maxFrameBytes, []⟩

/-- The console is now in this state. -/
def put (proxy : ConsoleProxy) (index : ℕ) (console : Console) : ConsoleProxy :=
  { proxy with consoles := proxy.consoles.set index console }

/-- The line that selects an instance on a device. -/
def selector (instanceId : InstanceId) : List UInt8 :=
  utf8Bytes (toString instanceId.val ++ "\n")

/-- The set without the instance of a lease. -/
def withoutLease (attached : Finset InstanceId) : Option InstanceId → Finset InstanceId
  | some instanceId => attached.erase instanceId
  | none => attached

/-- The beginning of `attach`: the id is checked and the lease is acquired. -/
def attach (proxy : ConsoleProxy) (instanceId : InstanceId) : ConsoleProxy :=
  if instanceId.val = 0 ∨ instanceId.val > maxInstanceId then
    { proxy with
      consoles := proxy.consoles ++ [.rejected (.stable .invalidInstance)] }
  else if instanceId ∈ proxy.attached then
    { proxy with
      consoles := proxy.consoles ++ [.rejected (.stable .alreadyAttached)] }
  else
    { proxy with
      attached := insert instanceId proxy.attached
      consoles := proxy.consoles ++ [.attaching instanceId none] }

/-- One step of one console. -/
def step (proxy : ConsoleProxy) : ConsoleStep → Option ConsoleProxy
  | .attach instanceId => some (proxy.attach instanceId)
  | .openDevice index result =>
      match proxy.consoles[index]?, result with
      | some (.attaching lease none), .ok device =>
          some (proxy.put index (.attaching lease (some device)))
      | some (.attaching lease none), .error error =>
          some (proxy.put index (.failing lease (.device error)))
      | _, _ => none
  | .select index =>
      match proxy.consoles[index]? with
      | some (.attaching lease (some device)) =>
          -- when `attach` returns an error, its device is dropped before its lease
          match writeSelector device.writes (selector lease) with
          | (.stopped, _) => none
          | (.error error, _) => some (proxy.put index (.failing lease (.device error)))
          | (.ok (), writes) =>
              if 2 ^ 32 ≤ proxy.maxFrameBytes then
                some (proxy.put index (.failing lease (.stable .frameTooLarge)))
              else
                some (proxy.put index (.session (.attached lease
                  (.ofNat proxy.maxFrameBytes) { device with writes := writes })))
      | _ => none
  | .call index call =>
      match proxy.consoles[index]? with
      | some (.session session) => do
          let after ← call.session session
          match session.closed, after.closed with
          -- the call closes the session: the device goes first
          | none, some reason =>
              some (proxy.put index
                (.closing { after with lease := session.lease, closed := none } reason))
          | _, _ => some (proxy.put index (.session after))
      | _ => none
  | .drop index =>
      match proxy.consoles[index]? with
      | some (.session session) =>
          some (proxy.put index (.dropping { session with device := none }))
      | _ => none
  | .release index =>
      match proxy.consoles[index]? with
      | some (.failing lease error) =>
          some { proxy.put index (.rejected error) with
            attached := withoutLease proxy.attached (some lease) }
      | some (.closing session reason) =>
          -- only the session itself sees its reason, which is set behind the lease
          some { proxy.put index (.session (session.close reason).2) with
            attached := withoutLease proxy.attached session.lease }
      | some (.dropping session) =>
          some { proxy.put index (.dropped session.closed) with
            attached := withoutLease proxy.attached session.lease }
      | _ => none

end ConsoleProxy

/-! ### Sessions between calls -/

/-- A session that is not in a call has its device and its lease exactly as long as it was not
closed. -/
structure ConsoleSession.Settled (session : ConsoleSession ByteStream) : Prop where
  device_iff : session.device.isSome ↔ session.closed = none
  lease_eq : session.lease =
    if session.closed = none then some session.attachment.instanceId else none

/-- What a call may do to a session. -/
inductive Touches (before : ConsoleSession ByteStream) : ConsoleSession ByteStream → Prop
  | nothing : Touches before before
  | device (hopen : before.closed = none) (device : ByteStream) :
      Touches before { before with device := some device }
  | close (hopen : before.closed = none) (reason : ConsoleCloseReason) :
      Touches before { before with device := none, lease := none, closed := some reason }

section Touching

variable {before after : ConsoleSession ByteStream}

theorem Touches.closing (session : ConsoleSession ByteStream) (reason : ConsoleCloseReason) :
    Touches session (session.close reason).2 := by
  unfold ConsoleSession.close
  split
  · exact .nothing
  · exact .close ‹_› reason

theorem close_eq (hopen : after.closed = none) (reason : ConsoleCloseReason) :
    (after.close reason).2 =
      { after with device := none, lease := none, closed := some reason } := by
  rw [ConsoleSession.close, hopen]

theorem Touches.thenClose (h : Touches before after) (hopen : after.closed = none)
    (reason : ConsoleCloseReason) : Touches before (after.close reason).2 := by
  rw [close_eq hopen]
  cases h with
  | nothing => exact .close hopen reason
  | device hbefore device => exact .close hbefore reason
  | close hbefore first => cases hopen

theorem readFrame_touches (io : ConsoleIo) :
    Faulty.wp ConsoleIo.readFrame (fun _ reached => Touches io.session reached.session) io := by
  unfold ConsoleIo.readFrame
  refine Faulty.wp_get_bind.mpr ?_
  split
  · exact .nothing
  · exact .nothing
  · next device hopen hdevice =>
      have hread : Faulty.wp
          (ConsoleIo.deviceRead device io.session.attachment.maxFrameBytes.toNat)
          (fun _ reached => Touches io.session reached.session ∧ reached.session.closed = none)
          io := ⟨.device hopen _, hopen⟩
      refine Faulty.wp_attempt_bind hread ?_ ?_ (fun _ h => h.1)
      · intro data reached ⟨htouches, hstill⟩
        cases data with
        | nil => exact htouches.thenClose hstill _
        | cons byte bytes => exact htouches
      · intro error reached ⟨htouches, hstill⟩
        simp only
        split
        · exact htouches
        · exact htouches.thenClose hstill _

theorem writeFrame_touches (data : List UInt8) (io : ConsoleIo) :
    Faulty.wp (ConsoleIo.writeFrame data) (fun _ reached => Touches io.session reached.session)
      io := by
  unfold ConsoleIo.writeFrame
  refine Faulty.wp_get_bind.mpr ?_
  split
  · exact .nothing
  · split
    · exact .nothing
    · exact .nothing
    · next device hopen hdevice =>
        have hwrite : Faulty.wp (ConsoleIo.deviceWriteAll device data)
            (fun _ reached => Touches io.session reached.session ∧ reached.session.closed = none)
            io := ⟨.device hopen _, hopen⟩
        refine Faulty.wp_attempt_bind hwrite ?_ ?_ (fun _ h => h.1)
        · intro _ reached ⟨htouches, _⟩
          exact htouches
        · intro error reached ⟨htouches, hstill⟩
          exact htouches.thenClose hstill _

/-- Every call does one of these things. -/
theorem ConsoleCall.touches {call : ConsoleCall} (h : call.session before = some after) :
    Touches before after := by
  unfold ConsoleCall.session at h
  cases call with
  | readFrame =>
      have htouches := readFrame_touches ⟨⟨[], []⟩, before, [], []⟩
      unfold Faulty.wp at htouches
      simp only at h
      split at h
      · cases h
      · next hread =>
          rw [hread] at htouches
          exact Option.some.inj h ▸ htouches
  | writeFrame data =>
      have htouches := writeFrame_touches data ⟨⟨[], []⟩, before, [], []⟩
      unfold Faulty.wp at htouches
      simp only at h
      split at h
      · cases h
      · next hwrite =>
          rw [hwrite] at htouches
          exact Option.some.inj h ▸ htouches
  | resize size => exact Option.some.inj h ▸ .nothing
  | detach | instanceStopped => exact Option.some.inj h ▸ .closing before _

theorem Touches.settled (h : Touches before after) (hsettled : before.Settled) : after.Settled := by
  cases h with
  | nothing => exact hsettled
  | device hopen device =>
      exact ⟨iff_of_true rfl hopen, hsettled.lease_eq⟩
  | close hopen reason => exact ⟨iff_of_false nofun nofun, rfl⟩

end Touching

/-! ### What a console holds -/

namespace Console

/-- The instance whose lease the console holds. -/
def lease : Console → Option InstanceId
  | .attaching lease _ | .failing lease _ => some lease
  | .session current | .closing current _ | .dropping current => current.lease
  | .rejected _ | .dropped _ => none

/-- The device that the console has open. -/
def device : Console → Option ByteStream
  | .attaching _ device => device
  | .session current | .closing current _ | .dropping current => current.device
  | .failing _ _ | .rejected _ | .dropped _ => none

/-- The instance that the console was asked for, while there is a console. -/
def instanceId : Console → Option InstanceId
  | .attaching lease _ | .failing lease _ => some lease
  | .session current | .closing current _ | .dropping current =>
      some current.attachment.instanceId
  | .rejected _ | .dropped _ => none

/-- Why the session was closed. -/
def closed : Console → Option ConsoleCloseReason
  | .session current | .closing current _ | .dropping current => current.closed
  | .dropped closed => closed
  | .attaching _ _ | .failing _ _ | .rejected _ => none

/-- The console is being attached, or its session is neither closed nor gone. -/
def isLive : Console → Bool
  | .attaching _ _ | .failing _ _ => true
  | .session current | .closing current _ | .dropping current => current.closed.isNone
  | .rejected _ | .dropped _ => false

/-- The console is as its calls leave it. -/
def Ok : Console → Prop
  | .session current => current.Settled
  | .closing current _ => current.device = none ∧ current.closed = none ∧
      current.lease = some current.attachment.instanceId
  | .dropping current => current.device = none ∧ current.lease =
      if current.closed = none then some current.attachment.instanceId else none
  | .attaching _ _ | .failing _ _ | .rejected _ | .dropped _ => True

variable {console : Console}

/-- A console holds the lease of its instance exactly as long as it is live. -/
theorem Ok.lease_eq (h : console.Ok) :
    console.lease = if console.isLive then console.instanceId else none := by
  have hsession : ∀ session : ConsoleSession ByteStream, session.lease =
      (if session.closed = none then some session.attachment.instanceId else none) →
      session.lease =
        if session.closed.isNone then some session.attachment.instanceId else none := by
    intro session hlease
    simpa only [Option.isNone_iff_eq_none] using hlease
  cases console with
  | attaching | failing | rejected | dropped => rfl
  | session session => exact hsession session h.lease_eq
  | closing session reason =>
      refine hsession session ?_
      rw [if_pos h.2.1]
      exact h.2.2
  | dropping session => exact hsession session h.2

/-- A device is open only under the lease of its instance. -/
theorem Ok.lease_of_device (h : console.Ok) (hdevice : console.device.isSome) :
    ∃ instanceId, console.instanceId = some instanceId ∧ console.lease = some instanceId := by
  cases console with
  | attaching lease device => exact ⟨lease, rfl, rfl⟩
  | failing | rejected | dropped => cases hdevice
  | session session =>
      exact ⟨_, rfl, (ConsoleSession.Settled.lease_eq h).trans (if_pos (h.device_iff.mp hdevice))⟩
  | closing session reason | dropping session => exact absurd hdevice (by simp [device, h.1])

end Console

/-! ### Steps -/

/-- A console goes from one state to another; a reason to be closed stays. -/
structure Console.Moves (before after : Console) : Prop where
  ok : before.Ok → after.Ok
  closed : ∀ reason, before.closed = some reason → after.closed = some reason

/-- What a step may do. -/
inductive ConsoleProxy.Effect (proxy : ConsoleProxy) : ConsoleProxy → Prop
  | reject (error : ConsoleError) :
      Effect proxy { proxy with consoles := proxy.consoles ++ [.rejected error] }
  | acquire (instanceId : InstanceId) (hfree : instanceId ∉ proxy.attached) :
      Effect proxy { proxy with
        attached := insert instanceId proxy.attached
        consoles := proxy.consoles ++ [.attaching instanceId none] }
  | keep (index : ℕ) (before after : Console) (hbefore : proxy.consoles[index]? = some before)
      (hmoves : before.Moves after) (hlease : after.lease = before.lease) :
      Effect proxy (proxy.put index after)
  | release (index : ℕ) (before after : Console) (hbefore : proxy.consoles[index]? = some before)
      (hmoves : before.Moves after) (hdevice : before.Ok → before.device = none)
      (hlease : before.Ok → after.lease = none) :
      Effect proxy { proxy.put index after with
        attached := ConsoleProxy.withoutLease proxy.attached before.lease }

namespace ConsoleProxy

variable {proxy next : ConsoleProxy}

theorem attach_effect (instanceId : InstanceId) : Effect proxy (proxy.attach instanceId) := by
  unfold attach
  split
  · exact .reject _
  · split
    · exact .reject _
    · exact .acquire instanceId ‹_›

/-- A call on a session leaves its lease alone; a session that is closed gives it up later. -/
theorem call_effect {index : ℕ} {session after : ConsoleSession ByteStream}
    (hbefore : proxy.consoles[index]? = some (.session session)) (htouches : Touches session after)
    (h : (match session.closed, after.closed with
      | none, some reason => some (proxy.put index
          (.closing { after with lease := session.lease, closed := none } reason))
      | _, _ => some (proxy.put index (.session after))) = some next) :
    Effect proxy next := by
  split at h
  · next reason hopen hreason =>
      cases h
      cases htouches with
      | nothing | device => exact absurd (hopen.symm.trans hreason) nofun
      | close _ _ =>
          refine .keep index _ _ hbefore ⟨fun hok => ⟨rfl, rfl, ?_⟩, ?_⟩ rfl
          · exact (ConsoleSession.Settled.lease_eq hok).trans (if_pos hopen)
          · intro first hfirst
            exact absurd (hopen.symm.trans hfirst) nofun
  · next hother =>
      cases h
      have hsettled := htouches.settled
      cases htouches with
      | nothing | device _ device => exact .keep index _ _ hbefore ⟨hsettled, fun _ => id⟩ rfl
      | close hopen reason => exact absurd rfl (hother reason hopen)

/-- Every step has one of these effects. -/
theorem step_effect {label : ConsoleStep} (h : proxy.step label = some next) :
    Effect proxy next := by
  unfold step at h
  cases label with
  | attach instanceId => exact Option.some.inj h ▸ attach_effect instanceId
  | openDevice index result =>
      simp only at h
      split at h
      · next lease device hbefore =>
          exact Option.some.inj h ▸ .keep index _ _ hbefore ⟨fun _ => trivial, nofun⟩ rfl
      · next lease error hbefore =>
          exact Option.some.inj h ▸ .keep index _ _ hbefore ⟨fun _ => trivial, nofun⟩ rfl
      · cases h
  | select index =>
      simp only at h
      split at h
      · next lease device hbefore =>
          have hfail (error : ConsoleError) : Effect proxy (proxy.put index (.failing lease error)) :=
            .keep index _ _ hbefore ⟨fun _ => trivial, nofun⟩ rfl
          split at h
          · cases h
          · exact Option.some.inj h ▸ hfail _
          · split at h
            · exact Option.some.inj h ▸ hfail _
            · refine Option.some.inj h ▸ .keep index _ _ hbefore ⟨fun _ => ?_, nofun⟩ rfl
              exact ⟨iff_of_true rfl rfl, rfl⟩
      · cases h
  | call index call =>
      simp only at h
      split at h
      · next session hbefore =>
          obtain ⟨after, hafter, hput⟩ := Option.bind_eq_some_iff.mp h
          exact call_effect hbefore (ConsoleCall.touches hafter) hput
      · cases h
  | drop index =>
      simp only at h
      split at h
      · next session hbefore =>
          exact Option.some.inj h ▸
            .keep index _ _ hbefore
              ⟨fun hok => ⟨rfl, (show session.Settled from hok).lease_eq⟩, fun _ => id⟩ rfl
      · cases h
  | release index =>
      simp only at h
      split at h
      · next lease error hbefore =>
          exact Option.some.inj h ▸ .release index _ _ hbefore ⟨fun _ => trivial, nofun⟩
            (fun _ => rfl) (fun _ => rfl)
      · next session reason hbefore =>
          refine Option.some.inj h ▸ .release index _ _ hbefore ⟨?_, ?_⟩ And.left ?_
          · intro ⟨_, hopen, _⟩
            exact close_eq hopen reason ▸ ⟨iff_of_false nofun nofun, rfl⟩
          · intro first hfirst
            show (session.close reason).2.closed = some first
            rw [ConsoleSession.close, show session.closed = some first from hfirst]
            exact hfirst
          · intro ⟨_, hopen, _⟩
            exact congrArg ConsoleSession.lease (close_eq hopen reason)
      · next session hbefore =>
          exact Option.some.inj h ▸ .release index _ _ hbefore ⟨fun _ => trivial, fun _ => id⟩
            And.left (fun _ => rfl)
      · cases h

/-! ### Runs -/

/-- The console with this index holds the lease of the instance. -/
def owns (proxy : ConsoleProxy) : ℕ → InstanceId → Prop :=
  HoldsAt (fun console => {instanceId | console.lease = some instanceId}) proxy.consoles

/-- Leases are exclusive, and the attached instances are those under a lease. -/
structure Inv (proxy : ConsoleProxy) : Prop where
  ok : ∀ console ∈ proxy.consoles, console.Ok
  exclusive : Exclusive proxy.owns
  attached : ∀ instanceId, instanceId ∈ proxy.attached ↔ ∃ index, proxy.owns index instanceId
  limit : proxy.maxFrameBytes < 2 ^ 32

theorem owns_iff {index : ℕ} {console : Console} (h : proxy.consoles[index]? = some console)
    (instanceId : InstanceId) :
    proxy.owns index instanceId ↔ console.lease = some instanceId := by
  constructor
  · intro ⟨found, hfound, hlease⟩
    obtain rfl := Option.some.inj (h.symm.trans hfound)
    exact hlease
  · intro hlease
    exact ⟨console, h, hlease⟩

/-- One console has exchanged its lease, and the set has followed. -/
theorem Inv.exchange (hinv : Inv proxy) {index : ℕ} {leases : Set InstanceId}
    (hlimit : next.maxFrameBytes = proxy.maxFrameBytes)
    (hok : ∀ console ∈ next.consoles, console.Ok)
    (howns : next.owns = reassign proxy.owns index leases)
    (hleases : ∀ lease ∈ leases, lease ∉ proxy.attached ∨ proxy.owns index lease)
    (hattached : ∀ lease, lease ∈ next.attached ↔
      lease ∈ leases ∨ lease ∈ proxy.attached ∧ ¬ proxy.owns index lease) :
    Inv next := by
  refine ⟨hok, ?_, fun lease => ?_, hlimit ▸ hinv.limit⟩
  · rw [howns]
    refine hinv.exclusive.reassign fun lease hlease other hne hother => ?_
    rcases hleases lease hlease with hfree | hself
    · exact hfree ((hinv.attached lease).mpr ⟨other, hother⟩)
    · exact hne (hinv.exclusive other index lease hother hself)
  · rw [hattached, howns]
    constructor
    · intro h
      rcases h with hnew | ⟨hold, hnot⟩
      · exact ⟨index, .inl ⟨rfl, hnew⟩⟩
      · obtain ⟨other, hother⟩ := (hinv.attached lease).mp hold
        refine ⟨other, .inr ⟨fun hsame => ?_, hother⟩⟩
        exact hnot (hsame ▸ hother)
    · intro ⟨other, hother⟩
      rcases hother with ⟨-, hnew⟩ | ⟨hne, hown⟩
      · exact .inl hnew
      · refine .inr ⟨(hinv.attached lease).mpr ⟨other, hown⟩, fun hself => ?_⟩
        exact hne (hinv.exclusive other index lease hown hself)

theorem ok_append {console : Console} (hinv : Inv proxy) (hok : console.Ok) :
    ∀ found ∈ proxy.consoles ++ [console], found.Ok := by
  intro found hfound
  rcases List.mem_append.mp hfound with hold | hnew
  · exact hinv.ok found hold
  · exact List.mem_singleton.mp hnew ▸ hok

theorem ok_put {index : ℕ} {before after : Console} (hinv : Inv proxy)
    (hbefore : proxy.consoles[index]? = some before) (hmoves : before.Moves after) :
    ∀ found ∈ (proxy.put index after).consoles, found.Ok := by
  intro found hfound
  rcases List.mem_or_eq_of_mem_set hfound with hold | rfl
  · exact hinv.ok found hold
  · exact hmoves.ok (hinv.ok before (List.mem_of_getElem? hbefore))

theorem not_owns_length (lease : InstanceId) : ¬ proxy.owns proxy.consoles.length lease := by
  intro ⟨found, hfound, _⟩
  exact absurd ((List.getElem?_eq_none (Nat.le_refl _)).symm.trans hfound) nofun

theorem mem_withoutLease (attached : Finset InstanceId) (released : Option InstanceId)
    (lease : InstanceId) :
    lease ∈ withoutLease attached released ↔ lease ∈ attached ∧ released ≠ some lease := by
  cases released with
  | none => exact ⟨fun h => ⟨h, nofun⟩, And.left⟩
  | some gone =>
      show lease ∈ attached.erase gone ↔ _
      rw [Finset.mem_erase, and_comm, ne_comm, Ne, Ne, Option.some.injEq]

theorem Effect.inv (h : Effect proxy next) (hinv : Inv proxy) : Inv next := by
  cases h with
  | reject error =>
      refine hinv.exchange rfl (ok_append hinv trivial) (holdsAt_append _) (fun _ h => nomatch h) ?_
      intro lease
      refine ⟨fun h => .inr ⟨h, not_owns_length lease⟩, fun h => ?_⟩
      rcases h with hnone | hold
      · cases hnone
      · exact hold.1
  | acquire instanceId hfree =>
      refine hinv.exchange rfl (ok_append hinv trivial) (holdsAt_append _) ?_ ?_
      · intro lease hlease
        obtain rfl : instanceId = lease := Option.some.inj hlease
        exact .inl hfree
      · intro lease
        rw [Finset.mem_insert]
        constructor
        · intro h
          rcases h with rfl | hold
          · exact .inl rfl
          · exact .inr ⟨hold, not_owns_length lease⟩
        · intro h
          rcases h with hnew | ⟨hold, -⟩
          · exact .inl (Option.some.inj hnew).symm
          · exact .inr hold
  | keep index before after hbefore hmoves hlease =>
      have hsame : ∀ lease, after.lease = some lease ↔ proxy.owns index lease := fun lease => by
        rw [hlease, owns_iff hbefore]
      refine hinv.exchange rfl (ok_put hinv hbefore hmoves) (holdsAt_set hbefore after)
        (fun lease h => .inr ((hsame lease).mp h)) fun lease => ?_
      constructor
      · intro hold
        by_cases hown : proxy.owns index lease
        · exact .inl ((hsame lease).mpr hown)
        · exact .inr ⟨hold, hown⟩
      · intro h
        rcases h with hown | hold
        · exact (hinv.attached lease).mpr ⟨index, (hsame lease).mp hown⟩
        · exact hold.1
  | release index before after hbefore hmoves hdevice hlease =>
      have hnone := hlease (hinv.ok before (List.mem_of_getElem? hbefore))
      refine hinv.exchange rfl (ok_put hinv hbefore hmoves) (holdsAt_set hbefore after)
        (fun lease h => absurd (hnone.symm.trans h) nofun) fun lease => ?_
      rw [mem_withoutLease, owns_iff hbefore]
      refine ⟨.inr, fun h => ?_⟩
      rcases h with hgone | hold
      · exact absurd (hnone.symm.trans hgone) nofun
      · exact hold

/-- A console that was closed stays closed for the same reason. -/
theorem Effect.closed (h : Effect proxy next) {index : ℕ} {reason : ConsoleCloseReason}
    (hclosed : ∃ console, proxy.consoles[index]? = some console ∧ console.closed = some reason) :
    ∃ console, next.consoles[index]? = some console ∧ console.closed = some reason := by
  obtain ⟨console, hconsole, hreason⟩ := hclosed
  have hlt := (List.getElem?_eq_some_iff.mp hconsole).1
  have hput : ∀ {place : ℕ} {before after : Console}, proxy.consoles[place]? = some before →
      before.Moves after → ∃ console, (proxy.consoles.set place after)[index]? = some console ∧
        console.closed = some reason := by
    intro place before after hbefore hmoves
    by_cases hplace : place = index
    · subst hplace
      obtain rfl := Option.some.inj (hconsole.symm.trans hbefore)
      exact ⟨after, List.getElem?_set_self hlt, hmoves.closed reason hreason⟩
    · exact ⟨console, (List.getElem?_set_ne hplace).trans hconsole, hreason⟩
  cases h with
  | reject | acquire =>
      exact ⟨console, (List.getElem?_append_left hlt).trans hconsole, hreason⟩
  | keep place before after hbefore hmoves hlease
  | release place before after hbefore hmoves hdevice hlease => exact hput hbefore hmoves

/-- An instance leaves the set only when none of its consoles has a device any more. -/
theorem Effect.device_eq_none (h : Effect proxy next) (hinv : Inv proxy) {instanceId : InstanceId}
    (hattached : instanceId ∈ proxy.attached) (hgone : instanceId ∉ next.attached)
    {console : Console} (hconsole : console ∈ proxy.consoles)
    (hinstance : console.instanceId = some instanceId) : console.device = none := by
  cases h with
  | reject | keep => exact absurd hattached hgone
  | acquire => exact absurd (Finset.mem_insert_of_mem hattached) hgone
  | release index before after hbefore hmoves hdevice hlease =>
      have hreleased : before.lease = some instanceId := by
        by_contra hkept
        exact hgone ((mem_withoutLease _ _ _).mpr ⟨hattached, hkept⟩)
      by_contra hopen
      -- an open device is under a lease, and the lease that goes is the only one
      obtain ⟨held, hheld, hlease⟩ :=
        (hinv.ok console hconsole).lease_of_device (Option.isSome_iff_ne_none.mpr hopen)
      obtain rfl : held = instanceId := Option.some.inj (hheld.symm.trans hinstance)
      obtain ⟨place, hplace⟩ := List.mem_iff_getElem?.mp hconsole
      obtain rfl := hinv.exclusive place index held ((owns_iff hplace held).mpr hlease)
        ((owns_iff hbefore held).mpr hreleased)
      obtain rfl := Option.some.inj (hplace.symm.trans hbefore)
      exact hopen (hdevice (hinv.ok console hconsole))

/-! ### Exclusive attachment -/

/-- An instance's console is attached exclusively, now and from now on. -/
structure AttachesExclusively (proxy : ConsoleProxy) : Prop where
  one_device : ∀ {i j : ℕ} {first second : Console}, proxy.consoles[i]? = some first →
    proxy.consoles[j]? = some second → first.device.isSome → second.device.isSome →
    first.instanceId = second.instanceId → i = j
  attached_iff : ∀ instanceId, instanceId ∈ proxy.attached ↔
    ∃ console ∈ proxy.consoles, console.isLive ∧ console.instanceId = some instanceId
  settled : ∀ session, .session session ∈ proxy.consoles →
    (session.device.isSome ↔ session.lease.isSome) ∧ (session.lease.isSome ↔ session.closed = none)
  device_first : ∀ {label : ConsoleStep} {next : ConsoleProxy} {instanceId : InstanceId},
    proxy.step label = some next → instanceId ∈ proxy.attached → instanceId ∉ next.attached →
    ∀ console ∈ proxy.consoles, console.instanceId = some instanceId → console.device = none
  first_reason : ∀ {labels : List ConsoleStep} {later : ConsoleProxy} {index : ℕ}
    {console : Console} {reason : ConsoleCloseReason}, run step proxy labels = some later →
    proxy.consoles[index]? = some console → console.closed = some reason →
    ∃ console, later.consoles[index]? = some console ∧ console.closed = some reason
  attach_again : ∀ {instanceId : InstanceId} {device : ByteStream} {writes : List WriteReply},
    ¬ (instanceId.val = 0 ∨ instanceId.val > maxInstanceId) →
    (∀ console ∈ proxy.consoles, console.instanceId = some instanceId → ¬ console.isLive) →
    writeSelector device.writes (selector instanceId) = (.ok (), writes) →
    ∃ later, run step proxy [.attach instanceId, .openDevice proxy.consoles.length (.ok device),
        .select proxy.consoles.length] = some later ∧
      later.consoles[proxy.consoles.length]? = some (.session (.attached instanceId
        (.ofNat proxy.maxFrameBytes) { device with writes := writes }))

theorem Inv.one_device (hinv : Inv proxy) {i j : ℕ} {first second : Console}
    (hi : proxy.consoles[i]? = some first) (hj : proxy.consoles[j]? = some second)
    (hfirst : first.device.isSome) (hsecond : second.device.isSome)
    (hsame : first.instanceId = second.instanceId) : i = j := by
  obtain ⟨held, hheld, hlease⟩ := (hinv.ok first (List.mem_of_getElem? hi)).lease_of_device hfirst
  obtain ⟨other, hother, hlease'⟩ :=
    (hinv.ok second (List.mem_of_getElem? hj)).lease_of_device hsecond
  obtain rfl : held = other := Option.some.inj (hheld.symm.trans (hsame.trans hother))
  exact hinv.exclusive i j held ((owns_iff hi held).mpr hlease) ((owns_iff hj held).mpr hlease')

theorem Inv.attached_iff (hinv : Inv proxy) (instanceId : InstanceId) :
    instanceId ∈ proxy.attached ↔
      ∃ console ∈ proxy.consoles, console.isLive ∧ console.instanceId = some instanceId := by
  rw [hinv.attached]
  constructor
  · intro ⟨index, console, hconsole, hlease⟩
    have hmem := List.mem_of_getElem? hconsole
    have heq := (hinv.ok console hmem).lease_eq.symm.trans hlease
    split at heq
    · next hlive => exact ⟨console, hmem, hlive, heq⟩
    · cases heq
  · intro ⟨console, hmem, hlive, hinstance⟩
    obtain ⟨index, hindex⟩ := List.mem_iff_getElem?.mp hmem
    refine ⟨index, (owns_iff hindex instanceId).mpr ?_⟩
    rw [(hinv.ok console hmem).lease_eq, if_pos hlive, hinstance]

/-- An instance that is not attached can be attached. -/
theorem attach_of_free {instanceId : InstanceId} {device : ByteStream} {writes : List WriteReply}
    (hid : ¬ (instanceId.val = 0 ∨ instanceId.val > maxInstanceId))
    (hfree : instanceId ∉ proxy.attached) (hlimit : proxy.maxFrameBytes < 2 ^ 32)
    (hselector : writeSelector device.writes (selector instanceId) = (.ok (), writes)) :
    ∃ later, run step proxy [.attach instanceId, .openDevice proxy.consoles.length (.ok device),
        .select proxy.consoles.length] = some later ∧
      later.consoles[proxy.consoles.length]? = some (.session (.attached instanceId
        (.ofNat proxy.maxFrameBytes) { device with writes := writes })) := by
  obtain ⟨leased, hleased⟩ : ∃ leased, leased = proxy.attach instanceId := ⟨_, rfl⟩
  have hattach : leased.consoles[proxy.consoles.length]? = some (.attaching instanceId none) ∧
      leased.maxFrameBytes = proxy.maxFrameBytes := by
    rw [hleased, attach, if_neg hid, if_neg hfree]
    exact ⟨List.getElem?_concat_length, rfl⟩
  obtain ⟨hconsole, hsame⟩ := hattach
  have hlt := (List.getElem?_eq_some_iff.mp hconsole).1
  have hopen : leased.step (.openDevice proxy.consoles.length (.ok device)) =
      some (leased.put proxy.consoles.length (.attaching instanceId (some device))) := by
    simp only [step, hconsole]
  obtain ⟨opened, hopened⟩ : ∃ opened,
      opened = leased.put proxy.consoles.length (.attaching instanceId (some device)) := ⟨_, rfl⟩
  have hdevice : opened.consoles[proxy.consoles.length]? =
      some (.attaching instanceId (some device)) := by
    rw [hopened]
    exact List.getElem?_set_self hlt
  have hselect : opened.step (.select proxy.consoles.length) =
      some (opened.put proxy.consoles.length (.session (.attached instanceId
        (.ofNat proxy.maxFrameBytes) { device with writes := writes }))) := by
    have hmax : opened.maxFrameBytes = proxy.maxFrameBytes := hopened ▸ hsame
    simp only [step, hdevice, hselector, hmax, if_neg (Nat.not_le.mpr hlimit)]
  refine ⟨_, run_cons.mpr ⟨leased, hleased ▸ rfl, run_cons.mpr ⟨opened, hopened ▸ hopen,
    run_cons.mpr ⟨_, hselect, rfl⟩⟩⟩, ?_⟩
  exact List.getElem?_set_self (List.getElem?_eq_some_iff.mp hdevice).1

/-- Console attachment is exclusive at every moment of every run. -/
theorem attachesExclusively_of_run {start : ConsoleProxy} {labels : List ConsoleStep}
    (hstart : start = new ∨ ∃ limit, withFrameLimit limit = .ok start)
    (hrun : run step start labels = some proxy) : AttachesExclusively proxy := by
  have hbegin : ∃ limit, start = ⟨∅, limit, []⟩ ∧ limit < 2 ^ 32 := by
    rcases hstart with rfl | ⟨limit, hlimit⟩
    · exact ⟨_, rfl, by decide⟩
    · unfold withFrameLimit at hlimit
      split at hlimit
      · cases hlimit
      · next hok => exact ⟨limit, (Except.ok.inj hlimit).symm, by omega⟩
  obtain ⟨limit, rfl, hlimit⟩ := hbegin
  have hempty : Inv ⟨∅, limit, []⟩ := by
    refine ⟨List.forall_mem_nil _, ?_, fun _ => ⟨fun h => ?_, ?_⟩, hlimit⟩
    · exact fun _ _ _ ⟨_, h, _⟩ => nomatch h
    · exact absurd h (Finset.notMem_empty _)
    · exact fun ⟨_, _, h, _⟩ => nomatch h
  have hinv : Inv proxy :=
    run_preserves (fun _ _ _ hinv hstep => (step_effect hstep).inv hinv) hempty hrun
  refine ⟨hinv.one_device, hinv.attached_iff, ?_, ?_, ?_, ?_⟩
  · intro session hsession
    have hsettled : session.Settled := hinv.ok _ hsession
    have hlease : session.lease.isSome ↔ session.closed = none := by
      rw [hsettled.lease_eq]
      split
      · next hopen => exact iff_of_true rfl hopen
      · next hclosed => exact iff_of_false nofun hclosed
    exact ⟨hsettled.device_iff.trans hlease.symm, hlease⟩
  · intro label next instanceId hstep hattached hgone console hconsole hinstance
    exact (step_effect hstep).device_eq_none hinv hattached hgone hconsole hinstance
  · intro labels later index console reason hlater hconsole hreason
    have hstep : ∀ (state : ConsoleProxy) (label : ConsoleStep) (next : ConsoleProxy),
        (∃ console, state.consoles[index]? = some console ∧ console.closed = some reason) →
          state.step label = some next →
            ∃ console, next.consoles[index]? = some console ∧ console.closed = some reason :=
      fun _ _ _ hclosed hstep => (step_effect hstep).closed hclosed
    exact run_preserves hstep ⟨console, hconsole, hreason⟩ hlater
  · intro instanceId device writes hid hclosed hselector
    refine attach_of_free hid (fun hattached => ?_) hinv.limit hselector
    obtain ⟨console, hconsole, hlive, hinstance⟩ := (hinv.attached_iff instanceId).mp hattached
    exact hclosed console hconsole hinstance hlive

/-- One client attaches, a second one is turned away, and the first one detaches. -/
theorem attachesExclusively_of_run_two :
    ∃ proxy, run step new [.attach ⟨1⟩, .openDevice 0 (.ok ⟨[], [.accepts 8]⟩), .select 0,
      .attach ⟨1⟩, .call 0 .detach, .release 0] = some proxy ∧ AttachesExclusively proxy := by
  obtain ⟨proxy, hrun⟩ : ∃ proxy, run step new [.attach ⟨1⟩,
    .openDevice 0 (.ok ⟨[], [.accepts 8]⟩), .select 0, .attach ⟨1⟩, .call 0 .detach,
    .release 0] = some proxy := ⟨_, rfl⟩
  exact ⟨proxy, hrun, attachesExclusively_of_run (.inl rfl) hrun⟩

end ConsoleProxy

end Kernmux.Daemon
