import Kernmux.Daemon.OperationsSound
import Kernmux.Library.Transition

/-!
# Kernmux.Daemon.EventStream

**Readers of the event stream miss nothing silently.** Readers with a cursor
read the registry's events while other threads publish more. The registry only
retains the last events; the stream machine (`EventStream.step`) also remembers
every event ever published, and everything each reader was given.

A reading shows a slice of that log (`Shows`): it begins after the reader's
cursor, or after the last event that was lost, and goes up to the event
published last. Successive readings of one reader begin where the one before
ended (`Follows`), so together they show all of the log but the gaps, and every
gap is announced by a marker.

The sequence counter stops at its largest value, so all of this is about runs
that have not published as many events yet.
-/

namespace Kernmux.Daemon

open Api.V1 Library OperationRegistry OperationRegistry

/-! ### Readers -/

/-- One read: the cursor before it, what was read, the cursor after it. -/
structure Reading where
  before : EventSequence
  batch : EventBatch
  after : EventSequence
  deriving DecidableEq, Repr

/-- A client of the event stream. -/
structure EventReader where
  start : EventSequence
  subscription : EventSubscription
  readings : List Reading
  deriving DecidableEq, Repr

/-- The reader after a read that left this subscription. -/
def EventReader.record (reader : EventReader) (read : EventBatch × EventSubscription) :
    EventReader :=
  { reader with
    subscription := read.2
    readings := reader.readings ++ [⟨reader.subscription.cursor, read.1, read.2.cursor⟩] }

/-- A client that polls keeps the sequence of the last event it received. -/
def EventReader.poll (reader : EventReader) (registry : OperationRegistry) :
    EventBatch × EventSubscription :=
  let batch := registry.eventsAfter reader.subscription.cursor
  match batch.events.getLast? with
  | none => (batch, reader.subscription)
  | some last => (batch, ⟨last.sequence⟩)

/-- The operation events a reader has received, in the order of their arrival. -/
def EventReader.delivered (reader : EventReader) : List Event :=
  (reader.readings.flatMap fun reading => reading.batch.events).filter
    fun event => event.kind = .operationChanged

/-! ### The stream -/

/-- The registry, every event ever published, and the readers. -/
structure EventStream where
  registry : OperationRegistry
  published : List Event
  readers : List EventReader

/-- One call of one thread. -/
inductive EventStreamLabel
  | call (call : RegistryCall)
  | subscribe (cursor : EventSequence)
  | nextBatch (reader : ℕ) (timedOut : Bool)
  | eventsAfter (reader : ℕ)
  deriving DecidableEq, Repr

namespace EventStream

/-- A registry in which nothing has been published and that nobody reads. -/
def new (registry : OperationRegistry) : EventStream := ⟨registry, [], []⟩

/-- The events that a call has published. -/
def publishedBy : Except OperationRegistryError Operation × OperationRegistry → List Event
  | (.ok _, registry) => registry.state.events.getLast?.toList
  | (.error _, _) => []

/-- What a call does; `none` when it does not return now. A subscription starts at a cursor
that is not above the latest sequence. -/
def step (stream : EventStream) : EventStreamLabel → Option EventStream
  | .call call =>
      let reached := stream.registry.call call
      some { stream with
        registry := reached.2
        published := stream.published ++ publishedBy reached }
  | .subscribe cursor =>
      if cursor.val ≤ saturatingSub stream.registry.state.nextSequence 1 then
        some { stream with
          readers := stream.readers ++ [⟨cursor, stream.registry.subscribe cursor, []⟩] }
      else none
  | .nextBatch index timedOut =>
      match stream.readers[index]? with
      | none => none
      | some reader =>
          -- the wait ends when there is something new, or by itself
          if reader.subscription.waits stream.registry ∧ timedOut = false then none
          else some { stream with
            readers := stream.readers.set index
              (reader.record (reader.subscription.nextBatch stream.registry)) }
  | .eventsAfter index =>
      match stream.readers[index]? with
      | none => none
      | some reader => some { stream with
          readers := stream.readers.set index (reader.record (reader.poll stream.registry)) }

end EventStream

/-! ### The log -/

/-- The number of an event. -/
def eventNumber (event : Event) : ℕ := event.sequence.val.toNat

/-- `event` may come right after `previous`. -/
def Contiguous (previous event : Event) : Prop := event.isContiguousAfter previous = true

/-- The registry retains the end of the log, and the log is numbered without a gap. -/
structure StreamInv (registry : OperationRegistry) (published : List Event) : Prop where
  logged : Logged eventNumber published
  next : registry.state.nextSequence.toNat = published.length + 1
  retained : registry.state.events <:+ published
  nonempty : published ≠ [] → registry.state.events ≠ []
  kind : ∀ event ∈ published, event.kind = .operationChanged
  sorted : published.Pairwise fun one other =>
    one.snapshotGeneration.val ≤ other.snapshotGeneration.val
  le_latest : ∀ event ∈ published,
    event.snapshotGeneration.val ≤ registry.state.latestGeneration.val

variable {registry : OperationRegistry} {published : List Event} {event : Event}
  {reader : EventReader} {stream : EventStream}

theorem streamInv_new {operationCapacity eventCapacity : ℕ}
    (h : new operationCapacity eventCapacity = .ok registry) :
    StreamInv registry [] := by
  obtain ⟨-, -, hstate⟩ := of_new_eq_ok h
  constructor <;> simp [hstate, logged_nil]

/-- The event that announces an operation. -/
def announcement (registry : OperationRegistry) (operation : Operation) : Event where
  sequence := ⟨registry.state.nextSequence⟩
  snapshotGeneration := latest registry.state.latestGeneration (operationGeneration operation)
  kind := .operationChanged
  resource := operation.affectedResources.head?

theorem publishedBy_announce (registry : OperationRegistry) (nextOperation : UInt64)
    (operations : List Operation) (operation : Operation) :
    EventStream.publishedBy (.ok operation, registry.announce nextOperation operations operation) =
      [announcement registry operation] := by
  have hlast : (registry.announce nextOperation operations operation).state.events.getLast? =
      some (announcement registry operation) := getLast?_pushBounded
  rw [EventStream.publishedBy, hlast, Option.toList_some]

/-- One more event. -/
theorem StreamInv.announce (h : StreamInv registry published)
    (hfew : published.length + 1 < 2 ^ 64 - 1) (nextOperation : UInt64)
    (operations : List Operation) (operation : Operation) :
    StreamInv (registry.announce nextOperation operations operation)
      (published ++ [announcement registry operation]) := by
  have hroom := h.next.trans_lt hfew
  have hlatest := latest_ge_left registry.state.latestGeneration (operationGeneration operation)
  refine ⟨?_, ?_, pushBounded_suffix h.retained, ?_, ?_, ?_, ?_⟩
  · exact h.logged.concat h.next
  · rw [List.length_append, List.length_singleton, ← h.next]
    exact toNat_saturatingAdd_one hroom
  · intro _
    exact List.ne_nil_of_mem mem_pushBounded_self
  · intro event hevent
    rcases List.mem_append.mp hevent with hold | hnew
    · exact h.kind event hold
    · rw [List.mem_singleton.mp hnew, announcement]
  · refine List.pairwise_append.mpr ⟨h.sorted, List.pairwise_singleton _ _, ?_⟩
    intro event hevent last hlast
    rw [List.mem_singleton.mp hlast]
    exact UInt64.le_trans (h.le_latest event hevent) hlatest
  · intro event hevent
    rcases List.mem_append.mp hevent with hold | hnew
    · exact UInt64.le_trans (h.le_latest event hold) hlatest
    · rw [List.mem_singleton.mp hnew]
      exact UInt64.le_refl _

/-- A call that publishes adds one event to the log, any other call none. -/
theorem StreamInv.call (h : StreamInv registry published) (call : RegistryCall)
    (hfew : (published ++ EventStream.publishedBy (registry.call call)).length < 2 ^ 64 - 1) :
    StreamInv (registry.call call).2 (published ++ EventStream.publishedBy (registry.call call)) := by
  have heffect := call_effect registry call
  generalize registry.call call = reached at heffect hfew
  cases heffect with
  | rejected error =>
      rw [EventStream.publishedBy, List.append_nil]
      exact h
  | created operation hid hqueued hprogress =>
      rw [publishedBy_announce] at hfew ⊢
      exact h.announce (by simpa using hfew) _ _ operation
  | advanced before after index hat hstep hid =>
      rw [publishedBy_announce] at hfew ⊢
      exact h.announce (by simpa using hfew) _ _ after

/-- Neighbours in the log are contiguous. -/
theorem StreamInv.contiguous (h : StreamInv registry published) : published.IsChain Contiguous := by
  refine List.isChain_iff_getElem.mpr fun index hindex => ?_
  have hfirst := h.logged.key_getElem (Nat.lt_of_succ_lt hindex)
  have hsecond := h.logged.key_getElem hindex
  have hlt := published[index + 1].sequence.val.toNat_lt
  have hsequence : published[index + 1].sequence.val =
      saturatingAdd published[index].sequence.val 1 := by
    apply UInt64.toNat_inj.mp
    rw [toNat_saturatingAdd, UInt64.toNat_one]
    unfold eventNumber at hfirst hsecond
    omega
  have hgeneration := List.pairwise_iff_getElem.mp h.sorted index (index + 1)
    (Nat.lt_of_succ_lt hindex) hindex (Nat.lt_succ_self index)
  simp only [Contiguous, Event.isContiguousAfter, hsequence, beq_self_eq_true, Bool.true_and,
    decide_eq_true_eq]
  exact hgeneration

/-! ### One reading -/

/-- The part of the log that a reading shows when nothing up to `low` is shown. -/
def Reading.slice (published : List Event) (low : ℕ) (reading : Reading) : List Event :=
  (published.take reading.after.val.toNat).drop low

/-- The reading shows the log from position `low` up to its end, and announces what lies
between its cursor and `low` by a marker. -/
structure Shows (published : List Event) (low : ℕ) (reading : Reading) : Prop where
  before_le : reading.before.val.toNat ≤ low
  low_le : low ≤ reading.after.val.toNat
  after_le : reading.after.val.toNat ≤ published.length
  after_eq : reading.after = reading.batch.latestSequence
  lost : reading.before.val.toNat < low → low < reading.after.val.toNat
  overflowed : reading.batch.overflowed = decide (reading.before.val.toNat < low)
  events : reading.batch.events = (if reading.before.val.toNat < low then
      ((reading.slice published low).head?.map overflowMarker).toList else []) ++
      reading.slice published low

/-- A published event that the reading does not show although the reader has not seen it:
it lies in the gap that a marker of the reading ends. -/
def Reading.Skips (reading : Reading) (event : Event) : Prop :=
  ∃ marker ∈ reading.batch.events, marker.kind = .streamOverflow ∧
    reading.before.val < event.sequence.val ∧ event.sequence.val ≤ marker.sequence.val

/-- What has been read stays what it was when the log grows. -/
theorem Shows.concat {low : ℕ} {reading : Reading} (h : Shows published low reading)
    (more : List Event) :
    Shows (published ++ more) low reading := by
  have hslice : reading.slice (published ++ more) low = reading.slice published low := by
    rw [Reading.slice, Reading.slice, List.take_append_of_le_length h.after_le]
  refine ⟨h.before_le, h.low_le, ?_, h.after_eq, h.lost, h.overflowed, ?_⟩
  · rw [List.length_append]
    exact Nat.le_add_right_of_le h.after_le
  · rw [hslice]
    exact h.events

/-- The cursor of a reader after a batch. -/
def cursorAfter (cursor : EventSequence) (batch : EventBatch) : EventSequence :=
  match batch.events.getLast? with
  | none => cursor
  | some last => last.sequence

section Batches

theorem StreamInv.latestSequence (h : StreamInv registry published) (cursor : EventSequence) :
    (eventBatch registry.state cursor).latestSequence.val.toNat = published.length := by
  have hlatest : (saturatingSub registry.state.nextSequence 1).toNat = published.length := by
    rw [toNat_saturatingSub, h.next, UInt64.toNat_one, Nat.add_sub_cancel]
  unfold eventBatch
  split <;> exact hlatest

/-- Somebody who has come to the end of the log sees the end of the log. -/
theorem StreamInv.events_eq (h : StreamInv registry published)
    (hfew : published.length < 2 ^ 64 - 1) {cursor : EventSequence}
    (hcursor : cursor.val.toNat ≤ published.length) :
    ∃ low, cursor.val.toNat ≤ low ∧ low ≤ published.length ∧
      (cursor.val.toNat < low → low < published.length) ∧
      (eventBatch registry.state cursor).overflowed = decide (cursor.val.toNat < low) ∧
      (eventBatch registry.state cursor).events = (if cursor.val.toNat < low then
          ((published.drop low).head?.map overflowMarker).toList else []) ++
          published.drop low := by
  cases hevents : registry.state.events with
  | nil =>
      have hempty : published = [] := by
        by_contra hne
        exact h.nonempty hne hevents
      subst hempty
      have hzero : cursor.val.toNat = 0 := Nat.le_zero.mp hcursor
      refine ⟨0, hcursor, Nat.le_refl 0, by simp [hzero], ?_, ?_⟩ <;>
        simp [eventBatch, hevents, hzero]
  | cons oldest rest =>
      -- the retained events are what is left of the log after position `kept`
      let kept := published.length - registry.state.events.length
      have hkept : registry.state.events = published.drop kept :=
        List.suffix_iff_eq_drop.mp h.retained
      have hpos : 0 < registry.state.events.length := by simp [hevents]
      have hle := h.retained.length_le
      have hlt : kept < published.length := by omega
      have hhead : (published.drop kept).head? = some oldest := by
        rw [← hkept, hevents, List.head?_cons]
      have holdest : oldest.sequence.val.toNat = kept + 1 := by
        rw [List.head?_drop, List.getElem?_eq_getElem hlt] at hhead
        rw [← Option.some.inj hhead]
        exact h.logged.key_getElem hlt
      have hfilter : registry.state.events.filter (fun event => event.sequence.val > cursor.val) =
          published.drop (max cursor.val.toNat kept) := by
        rw [hkept, ← h.logged.filter_drop (by omega) cursor.val.toNat]
        exact List.filter_congr fun event _ => decide_eq_decide.mpr UInt64.lt_iff_toNat_lt
      have hover : (saturatingAdd cursor.val 1 < oldest.sequence.val) ↔
          cursor.val.toNat < max cursor.val.toNat kept := by
        rw [UInt64.lt_iff_toNat_lt, toNat_saturatingAdd, UInt64.toNat_one, holdest]
        omega
      refine ⟨max cursor.val.toNat kept, by omega, by omega, by omega, ?_, ?_⟩
      · simp only [eventBatch, hevents, List.head?_cons, hover]
      · simp only [eventBatch, hfilter]
        rw [hevents, List.head?_cons]
        simp only [hover, decide_eq_true_eq]
        congr 1
        split
        case isFalse => rfl
        case isTrue hlost =>
          have hmax : max cursor.val.toNat kept = kept := by omega
          rw [hmax, hhead, Option.map_some, Option.toList_some]

/-- A reader who reads after the log has `cursor` entries behind them. -/
theorem StreamInv.shows (h : StreamInv registry published)
    (hfew : published.length < 2 ^ 64 - 1) {cursor : EventSequence}
    (hcursor : cursor.val.toNat ≤ published.length) :
    let batch := eventBatch registry.state cursor
    ∃ low, Shows published low ⟨cursor, batch, cursorAfter cursor batch⟩ := by
  intro batch
  obtain ⟨low, hbefore, hlow, hlost, hover, hevents⟩ := h.events_eq hfew hcursor
  have hlatest := h.latestSequence cursor
  -- whatever was read, the reader is now at the end of the log
  have hafter : (cursorAfter cursor batch).val.toNat = published.length := by
    rw [cursorAfter, show batch.events = _ from hevents]
    by_cases hend : low = published.length
    · have hnone : ¬ cursor.val.toNat < low := fun hlt => absurd (hlost hlt) (by omega)
      rw [if_neg hnone, hend, List.drop_length]
      show cursor.val.toNat = published.length
      omega
    · have hindex : published.length - 1 < published.length := by omega
      have hlast : (published.drop low).getLast? = some published[published.length - 1] := by
        rw [List.getLast?_drop, if_neg (by omega), List.getLast?_eq_getElem?,
          List.getElem?_eq_getElem hindex]
      rw [List.getLast?_append, hlast, Option.some_or]
      show eventNumber published[published.length - 1] = published.length
      rw [h.logged.key_getElem hindex]
      omega
  have hslice : Reading.slice published low ⟨cursor, batch, cursorAfter cursor batch⟩ =
      published.drop low := by
    rw [Reading.slice, hafter, List.take_length]
  refine ⟨low, hbefore, by rwa [hafter], by rw [hafter], ?_, by rwa [hafter], hover, ?_⟩
  · have hval := UInt64.toNat_inj.mp (hafter.trans hlatest.symm)
    exact congrArg EventSequence.mk hval
  · rw [hslice]
    exact hevents

variable {low : ℕ} {reading : Reading}

theorem toNat_overflowMarker {oldest : Event} (h : eventNumber oldest = low + 1) :
    (overflowMarker oldest).sequence.val.toNat = low := by
  show (saturatingSub oldest.sequence.val 1).toNat = low
  rw [toNat_saturatingSub, UInt64.toNat_one, show oldest.sequence.val.toNat = low + 1 from h,
    Nat.add_sub_cancel]

section

variable (h : Shows published low reading)

include h

/-- Either nothing was lost, or the first event shown is right after the marker. -/
theorem Shows.cases (hlogged : Logged eventNumber published) :
    (reading.before.val.toNat = low ∧ reading.batch.overflowed = false ∧
        reading.batch.events = reading.slice published low) ∨
      ∃ oldest, reading.before.val.toNat < low ∧ reading.batch.overflowed = true ∧
        (reading.slice published low).head? = some oldest ∧ eventNumber oldest = low + 1 ∧
        reading.batch.events = overflowMarker oldest :: reading.slice published low := by
  have hevents := h.events
  by_cases hlost : reading.before.val.toNat < low
  · have hlt := h.lost hlost
    have hlow : low < published.length := hlt.trans_le h.after_le
    have hhead : (reading.slice published low).head? = some published[low] := by
      rw [Reading.slice, List.head?_drop, List.getElem?_take_of_lt hlt,
        List.getElem?_eq_getElem hlow]
    rw [if_pos hlost, hhead, Option.map_some, Option.toList_some, List.singleton_append] at hevents
    exact .inr ⟨published[low], hlost, by rw [h.overflowed, decide_eq_true hlost], hhead,
      hlogged.key_getElem hlow, hevents⟩
  · rw [if_neg hlost, List.nil_append] at hevents
    have hbefore := h.before_le
    exact .inl ⟨by omega, by rw [h.overflowed, decide_eq_false hlost], hevents⟩

variable (hinv : StreamInv registry published)

include hinv

/-- The gap of a reading lies between its cursor and `low`. -/
theorem Shows.skips_iff : reading.Skips event ↔
      reading.before.val.toNat < eventNumber event ∧ eventNumber event ≤ low := by
  have hplain : ∀ other ∈ reading.slice published low, other.kind ≠ .streamOverflow := by
    intro other hother
    rw [hinv.kind other (hinv.logged.mem_slice.mp hother).1]
    decide
  rcases h.cases hinv.logged with ⟨hbefore, -, hevents⟩ | ⟨oldest, hlost, -, -, holdest, hevents⟩
  · constructor
    · intro ⟨marker, hmarker, hkind, _⟩
      rw [hevents] at hmarker
      exact absurd hkind (hplain marker hmarker)
    · intro ⟨hlow, hhigh⟩
      omega
  · have hnumber := toNat_overflowMarker holdest
    constructor
    · intro ⟨marker, hmarker, hkind, hlow, hhigh⟩
      rw [hevents] at hmarker
      rcases List.mem_cons.mp hmarker with rfl | hmem
      · rw [UInt64.lt_iff_toNat_lt] at hlow
        rw [UInt64.le_iff_toNat_le, hnumber] at hhigh
        exact ⟨hlow, hhigh⟩
      · exact absurd hkind (hplain marker hmem)
    · intro ⟨hlow, hhigh⟩
      refine ⟨overflowMarker oldest, ?_, rfl, UInt64.lt_iff_toNat_lt.mpr hlow, ?_⟩
      · rw [hevents]
        exact List.mem_cons_self
      · rw [UInt64.le_iff_toNat_le, hnumber]
        exact hhigh

/-- The operation events of a reading are the slice that it shows. -/
theorem Shows.delivered :
    reading.batch.events.filter (fun event => event.kind = .operationChanged) =
      reading.slice published low := by
  have hslice : (reading.slice published low).filter
      (fun event => event.kind = .operationChanged) = reading.slice published low := by
    refine List.filter_eq_self.mpr fun event hevent => decide_eq_true ?_
    exact hinv.kind event (hinv.logged.mem_slice.mp hevent).1
  rcases h.cases hinv.logged with ⟨-, -, hevents⟩ | ⟨oldest, -, -, -, -, hevents⟩
  · rw [hevents, hslice]
  · rw [hevents, List.filter_cons_of_neg (by simp [overflowMarker]), hslice]

/-- A reading skips exactly the events that it should have shown and does not. -/
theorem Shows.skips_iff_not_mem (hevent : event ∈ published) :
    reading.Skips event ↔ reading.before.val < event.sequence.val ∧
      event.sequence.val ≤ reading.batch.latestSequence.val ∧ event ∉ reading.batch.events := by
  have hkind := hinv.kind event hevent
  have hmem : event ∈ reading.batch.events ↔ event ∈ reading.slice published low := by
    rw [← h.delivered hinv]
    simp [List.mem_filter, hkind]
  rw [h.skips_iff hinv, hmem, Reading.slice, hinv.logged.mem_slice, ← h.after_eq,
    UInt64.lt_iff_toNat_lt, UInt64.le_iff_toNat_le]
  have hlow := h.low_le
  unfold eventNumber
  constructor
  · intro ⟨hbefore, hgap⟩
    exact ⟨hbefore, by omega, fun hshown => by omega⟩
  · intro ⟨hbefore, hafter, hgap⟩
    refine ⟨hbefore, ?_⟩
    by_contra hlt
    exact hgap ⟨hevent, by omega, hafter⟩

/-- A batch is marked as overflowed exactly when something was skipped. -/
theorem Shows.overflowed_iff :
    reading.batch.overflowed = true ↔ ∃ event ∈ published, reading.Skips event := by
  rw [h.overflowed, decide_eq_true_iff]
  constructor
  · intro hlost
    have hlow : low < published.length := (h.lost hlost).trans_le h.after_le
    have hindex : low - 1 < published.length := by omega
    refine ⟨published[low - 1], List.getElem_mem hindex, (h.skips_iff hinv).mpr ?_⟩
    rw [hinv.logged.key_getElem hindex]
    omega
  · intro ⟨event, _, hskips⟩
    obtain ⟨hbefore, hgap⟩ := (h.skips_iff hinv).mp hskips
    omega

/-- The events of a batch follow one another without a gap, the marker included. -/
theorem Shows.contiguous : reading.batch.events.IsChain Contiguous := by
  have hslice : (reading.slice published low).IsChain Contiguous :=
    (hinv.contiguous.take _).drop _
  rcases h.cases hinv.logged with ⟨-, -, hevents⟩ | ⟨oldest, -, -, hhead, holdest, hevents⟩
  · rw [hevents]
    exact hslice
  · rw [hevents]
    cases hshown : reading.slice published low with
    | nil =>
        rw [hshown] at hhead
        cases hhead
    | cons first rest =>
        rw [hshown] at hhead hslice
        obtain rfl : first = oldest := Option.some.inj hhead
        refine List.isChain_cons_cons.mpr ⟨?_, hslice⟩
        have hlt := first.sequence.val.toNat_lt
        have hnext : first.sequence.val = saturatingAdd (overflowMarker first).sequence.val 1 := by
          apply UInt64.toNat_inj.mp
          rw [toNat_saturatingAdd, toNat_overflowMarker holdest, UInt64.toNat_one]
          unfold eventNumber at holdest
          omega
        simp only [Contiguous, Event.isContiguousAfter, ← hnext, beq_self_eq_true, Bool.true_and]
        exact decide_eq_true (UInt64.le_refl _)

end

/-! ### One reader -/

/-- Readings of one reader: each begins where the one before ended. -/
inductive Follows (published : List Event) (start : EventSequence) :
    List Reading → EventSequence → Prop
  | start : Follows published start [] start
  | read {readings : List Reading} {low : ℕ} {reading : Reading}
      (hreadings : Follows published start readings reading.before)
      (hshows : Shows published low reading) :
      Follows published start (readings ++ [reading]) reading.after

variable {start cursor : EventSequence} {readings : List Reading}

section

variable (h : Follows published start readings cursor)

include h

theorem Follows.concat (more : List Event) : Follows (published ++ more) start readings cursor := by
  induction h with
  | start => exact .start
  | read _ hshows ih => exact .read ih (hshows.concat more)

theorem Follows.start_le : start.val.toNat ≤ cursor.val.toNat := by
  induction h with
  | start => exact Nat.le_refl _
  | read _ hshows ih => exact ih.trans (hshows.before_le.trans hshows.low_le)

theorem Follows.cursor_le
    (hstart : start.val.toNat ≤ published.length) : cursor.val.toNat ≤ published.length := by
  cases h with
  | start => exact hstart
  | read _ hshows => exact hshows.after_le

theorem Follows.cursor_eq : cursor = (readings.getLast?.map Reading.after).getD start := by
  cases h with
  | start => rfl
  | read _ _ => rw [List.getLast?_append, List.getLast?_singleton, Option.some_or, Option.map_some,
      Option.getD_some]

theorem Follows.shows_of_mem {reading : Reading}
    (hreading : reading ∈ readings) : ∃ low, Shows published low reading := by
  induction h with
  | start => exact absurd hreading List.not_mem_nil
  | read _ hshows ih =>
      rcases List.mem_append.mp hreading with hold | hnew
      · exact ih hold
      · rw [List.mem_singleton.mp hnew]
        exact ⟨_, hshows⟩

/-- The operation events of some readings. -/
def deliveredIn (readings : List Reading) : List Event :=
  (readings.flatMap fun reading => reading.batch.events).filter
    fun event => event.kind = .operationChanged

variable (hinv : StreamInv registry published)

include hinv

omit h in
theorem Shows.deliveredIn_concat (h : Shows published low reading) :
    deliveredIn (readings ++ [reading]) = deliveredIn readings ++ reading.slice published low := by
  rw [← h.delivered hinv, deliveredIn, List.flatMap_append, List.filter_append,
    List.flatMap_singleton, deliveredIn]

/-- Whatever was delivered was published, after the start and up to the cursor. -/
theorem Follows.mem_delivered (hevent : event ∈ deliveredIn readings) :
    event ∈ published ∧ start.val.toNat < eventNumber event ∧
      eventNumber event ≤ cursor.val.toNat := by
  induction h with
  | start => exact absurd hevent List.not_mem_nil
  | read hreadings hshows ih =>
      have hbefore := hshows.before_le
      have hlow := hshows.low_le
      rw [hshows.deliveredIn_concat hinv] at hevent
      rcases List.mem_append.mp hevent with hold | hnew
      · obtain ⟨hmem, hstart, hcursor⟩ := ih hold
        exact ⟨hmem, hstart, by omega⟩
      · obtain ⟨hmem, hafter, hend⟩ := hinv.logged.mem_slice.mp hnew
        have hstart := hreadings.start_le
        exact ⟨hmem, by omega, hend⟩

theorem Follows.pairwise_delivered :
    (deliveredIn readings).Pairwise fun one other => eventNumber one < eventNumber other := by
  induction h with
  | start => exact List.Pairwise.nil
  | read hreadings hshows ih =>
      rw [hshows.deliveredIn_concat hinv]
      refine List.pairwise_append.mpr ⟨ih, ?_, fun one hone other hother => ?_⟩
      · exact hinv.logged.pairwise.sublist ((List.drop_sublist _ _).trans (List.take_sublist _ _))
      · obtain ⟨-, -, hcursor⟩ := hreadings.mem_delivered hinv hone
        obtain ⟨-, hlow, -⟩ := hinv.logged.mem_slice.mp hother
        exact hcursor.trans_lt (hshows.before_le.trans_lt hlow)

/-- Between the start and the cursor every event was delivered or skipped with notice. -/
theorem Follows.delivered_or_skipped (hevent : event ∈ published) (hstart : start.val.toNat < eventNumber event)
    (hcursor : eventNumber event ≤ cursor.val.toNat) :
    event ∈ deliveredIn readings ∨ ∃ reading ∈ readings, reading.Skips event := by
  induction h with
  | start => omega
  | @read readings low reading hreadings hshows ih =>
      rw [hshows.deliveredIn_concat hinv]
      by_cases hold : eventNumber event ≤ reading.before.val.toNat
      · rcases ih hold with hdelivered | ⟨earlier, hearlier, hskips⟩
        · exact .inl (List.mem_append_left _ hdelivered)
        · exact .inr ⟨earlier, List.mem_append_left _ hearlier, hskips⟩
      · by_cases hgap : eventNumber event ≤ low
        · refine .inr ⟨reading, List.mem_append_right _ (List.mem_singleton_self _), ?_⟩
          exact (hshows.skips_iff hinv).mpr ⟨by omega, hgap⟩
        · refine .inl (List.mem_append_right _ ?_)
          exact hinv.logged.mem_slice.mpr ⟨hevent, by omega, hcursor⟩

end

end Batches

/-! ### Whole runs -/

/-- What a reader of the event stream can rely on. -/
structure MissesNothing (published : List Event) (reader : EventReader) : Prop where
  /-- What it receives was published. -/
  delivered_mem : ∀ event ∈ reader.delivered, event ∈ published
  /-- It receives events in the order of their sequence numbers, none twice. -/
  increasing : reader.delivered.Pairwise fun one other => one.sequence.val < other.sequence.val
  /-- Every event after its start and up to its cursor was delivered or skipped with notice. -/
  accounted : ∀ event ∈ published, reader.start.val < event.sequence.val →
    event.sequence.val ≤ reader.subscription.cursor.val →
    event ∈ reader.delivered ∨ ∃ reading ∈ reader.readings, reading.Skips event
  /-- A reading skips the events that lay ahead of it and that it does not show. -/
  skips : ∀ reading ∈ reader.readings, ∀ event ∈ published,
    (reading.Skips event ↔ reading.before.val < event.sequence.val ∧
      event.sequence.val ≤ reading.batch.latestSequence.val ∧ event ∉ reading.batch.events)
  /-- A batch is marked as overflowed exactly when something was skipped. -/
  overflowed : ∀ reading ∈ reader.readings,
    (reading.batch.overflowed = true ↔ ∃ event ∈ published, reading.Skips event)
  /-- Within a batch there is no gap. -/
  contiguous : ∀ reading ∈ reader.readings, reading.batch.events.IsChain Contiguous
  /-- A batch with events takes the reader to the latest sequence. -/
  moves : ∀ reading ∈ reader.readings, reading.batch.events ≠ [] →
    reading.after = reading.batch.latestSequence
  /-- The cursor is where the last reading has taken it. -/
  cursor_eq : reader.subscription.cursor =
    (reader.readings.getLast?.map Reading.after).getD reader.start

/-- A reader that has only read what the log showed. -/
structure ReaderInv (published : List Event) (reader : EventReader) : Prop where
  start_le : reader.start.val.toNat ≤ published.length
  follows : Follows published reader.start reader.readings reader.subscription.cursor

theorem ReaderInv.missesNothing (h : ReaderInv published reader)
    (hinv : StreamInv registry published) :
    MissesNothing published reader := by
  refine ⟨fun event hevent => (h.follows.mem_delivered hinv hevent).1, ?_,
    fun event hevent hstart hcursor => ?_, fun reading hreading event hevent => ?_,
    fun reading hreading => ?_, fun reading hreading => ?_, fun reading hreading _ => ?_, ?_⟩
  · exact (h.follows.pairwise_delivered hinv).imp fun hlt => UInt64.lt_iff_toNat_lt.mpr hlt
  · exact h.follows.delivered_or_skipped hinv hevent (UInt64.lt_iff_toNat_lt.mp hstart)
      (UInt64.le_iff_toNat_le.mp hcursor)
  · obtain ⟨low, hshows⟩ := h.follows.shows_of_mem hreading
    exact hshows.skips_iff_not_mem hinv hevent
  · obtain ⟨low, hshows⟩ := h.follows.shows_of_mem hreading
    exact hshows.overflowed_iff hinv
  · obtain ⟨low, hshows⟩ := h.follows.shows_of_mem hreading
    exact hshows.contiguous hinv
  · obtain ⟨low, hshows⟩ := h.follows.shows_of_mem hreading
    exact hshows.after_eq
  · exact h.follows.cursor_eq

theorem ReaderInv.concat (h : ReaderInv published reader)
    (more : List Event) : ReaderInv (published ++ more) reader := by
  refine ⟨?_, h.follows.concat more⟩
  rw [List.length_append]
  exact Nat.le_add_right_of_le h.start_le

/-- A batch and the cursor after it are one more reading. -/
theorem ReaderInv.record (h : ReaderInv published reader) (hinv : StreamInv registry published)
    (hfew : published.length < 2 ^ 64 - 1) :
    let batch := eventBatch registry.state reader.subscription.cursor
    ReaderInv published
      (reader.record (batch, ⟨cursorAfter reader.subscription.cursor batch⟩)) := by
  intro batch
  obtain ⟨low, hshows⟩ := hinv.shows hfew (h.follows.cursor_le h.start_le)
  exact ⟨h.start_le, .read h.follows hshows⟩

theorem nextBatch_eq (subscription : EventSubscription) (registry : OperationRegistry) :
    subscription.nextBatch registry = (eventBatch registry.state subscription.cursor,
      ⟨cursorAfter subscription.cursor (eventBatch registry.state subscription.cursor)⟩) := by
  cases hlast : (eventBatch registry.state subscription.cursor).events.getLast? with
  | none | some last => simp only [EventSubscription.nextBatch, cursorAfter, hlast]

theorem poll_eq (reader : EventReader) (registry : OperationRegistry) :
    reader.poll registry = reader.subscription.nextBatch registry := rfl

/-- The stream, as long as the sequence counter has room. -/
def StreamOk (stream : EventStream) : Prop :=
  stream.published.length < 2 ^ 64 - 1 → StreamInv stream.registry stream.published ∧
      ∀ reader ∈ stream.readers, ReaderInv stream.published reader

/-- One reader reads. -/
theorem StreamOk.read (h : StreamOk stream) {index : ℕ}
    (hreader : stream.readers[index]? = some reader) :
    StreamOk { stream with
      readers := stream.readers.set index
        (reader.record (reader.subscription.nextBatch stream.registry)) } := by
  intro hfew
  obtain ⟨hinv, hreaders⟩ := h hfew
  refine ⟨hinv, fun other hother => ?_⟩
  rcases List.mem_or_eq_of_mem_set hother with hold | rfl
  · exact hreaders other hold
  · rw [nextBatch_eq]
    exact (hreaders reader (List.mem_of_getElem? hreader)).record hinv hfew

/-- One step of somebody. -/
theorem StreamOk.step {next : EventStream} (h : StreamOk stream) {label : EventStreamLabel}
    (hnext : stream.step label = some next) : StreamOk next := by
  cases label with
  | call call =>
      cases hnext
      intro hfew
      simp only at hfew
      obtain ⟨hinv, hreaders⟩ := h (by rw [List.length_append] at hfew; omega)
      exact ⟨hinv.call call hfew, fun reader hreader => (hreaders reader hreader).concat _⟩
  | subscribe cursor =>
      simp only [EventStream.step] at hnext
      split at hnext <;> cases hnext
      next hcursor =>
        intro hfew
        obtain ⟨hinv, hreaders⟩ := h hfew
        refine ⟨hinv, fun reader hreader => ?_⟩
        rcases List.mem_append.mp hreader with hold | hnew
        · exact hreaders reader hold
        · rw [List.mem_singleton.mp hnew]
          refine ⟨?_, .start⟩
          rw [UInt64.le_iff_toNat_le, toNat_saturatingSub, hinv.next] at hcursor
          exact hcursor
  | nextBatch index timedOut =>
      cases hreader : stream.readers[index]? with
      | none => simp [EventStream.step, hreader] at hnext
      | some reader =>
          simp only [EventStream.step, hreader] at hnext
          split at hnext <;> cases hnext
          exact h.read hreader
  | eventsAfter index =>
      cases hreader : stream.readers[index]? with
      | none => simp [EventStream.step, hreader] at hnext
      | some reader =>
          simp only [EventStream.step, hreader] at hnext
          cases hnext
          rw [poll_eq]
          exact h.read hreader

/-- In every run of every registry that has published fewer than `2 ^ 64 - 1` events, every
reader. -/
theorem missesNothing_of_run {operationCapacity eventCapacity : ℕ} {labels : List EventStreamLabel}
    (hnew : new operationCapacity eventCapacity = .ok registry)
    (hrun : run EventStream.step (.new registry) labels = some stream)
    (hfew : stream.published.length < 2 ^ 64 - 1) :
    ∀ reader ∈ stream.readers, MissesNothing stream.published reader := by
  have hstart : StreamOk (.new registry) := fun _ =>
    ⟨streamInv_new hnew, List.forall_mem_nil _⟩
  have hok : StreamOk stream :=
    run_preserves (fun _ _ _ hinv hnext => hinv.step hnext) hstart hrun
  obtain ⟨hinv, hreaders⟩ := hok hfew
  exact fun reader hreader => (hreaders reader hreader).missesNothing hinv

/-- A client that creates an instance. -/
def createRequest : NewOperation :=
  ⟨.createInstance, ⟨1⟩, [⟨.instance, "1"⟩], none, none, "now"⟩

/-- Two readers of a registry that retains two events. The first one is too slow. -/
def slowReader : List EventStreamLabel :=
  [.subscribe ⟨0⟩, .call (.create createRequest), .subscribe ⟨1⟩, .call (.create createRequest),
    .eventsAfter 1, .call (.create createRequest), .nextBatch 0 false, .nextBatch 1 false,
    .nextBatch 1 true]

theorem missesNothing_of_run_slowReader : ∃ registry stream, new 4 2 = .ok registry ∧
      run EventStream.step (.new registry) slowReader = some stream ∧
      stream.readers.map (fun reader => reader.readings.map fun reading =>
        reading.batch.overflowed) = [[true], [false, false, false]] ∧
      ∀ reader ∈ stream.readers, MissesNothing stream.published reader := by
  obtain ⟨registry, hnew, stream, hrun, hover, hpublished⟩ : ∃ registry, new 4 2 = .ok registry ∧
        ∃ stream, run EventStream.step (.new registry) slowReader = some stream ∧
          stream.readers.map (fun reader => reader.readings.map fun reading =>
            reading.batch.overflowed) = [[true], [false, false, false]] ∧
          stream.published.length = 3 := ⟨_, rfl, _, rfl, rfl, rfl⟩
  exact ⟨registry, stream, hnew, hrun, hover, missesNothing_of_run hnew hrun (by omega)⟩

/-! ### The last sequence number -/

/-- After `n` events on a registry that retains one: the counter, and the one event. -/
structure Saturates (readers : List EventReader) (n : ℕ) (stream : EventStream) : Prop where
  readers_eq : stream.readers = readers
  capacity : stream.registry.eventCapacity = 1
  next : stream.registry.state.nextSequence.toNat = min (n + 1) (2 ^ 64 - 1)
  length_le : stream.registry.state.events.length ≤ 1
  last : 0 < n → ∃ event, stream.registry.state.events = [event] ∧
    event.sequence.val.toNat = min n (2 ^ 64 - 1)

/-- One more event, whether or not the counter still moves. -/
theorem Saturates.create {readers : List EventReader} {n : ℕ} (h : Saturates readers n stream)
    (request : NewOperation) :
    ∃ next, run EventStream.step stream [.call (.create request)] = some next ∧
      Saturates readers (n + 1) next := by
  have hone : ∀ event : Event, pushBounded stream.registry.eventCapacity
      stream.registry.state.events event = [event] := by
    intro event
    rw [h.capacity, pushBounded_one h.length_le]
  refine ⟨_, rfl, h.readers_eq, h.capacity, ?_, ?_, fun _ => ?_⟩
  · show (saturatingAdd stream.registry.state.nextSequence 1).toNat = _
    rw [toNat_saturatingAdd, h.next, UInt64.toNat_one]
    omega
  · show (pushBounded stream.registry.eventCapacity stream.registry.state.events _).length ≤ 1
    rw [hone, List.length_singleton]
  · exact ⟨_, hone _, h.next⟩

/-- A reader subscribes, then so many operations are created that the last of them do not
get a sequence number of their own, then the reader reads. -/
def saturatingReader : List EventStreamLabel :=
  [.subscribe ⟨0⟩] ++
    (List.replicate (2 ^ 64 - 1) [EventStreamLabel.call (.create createRequest)]).flatten ++
    [.nextBatch 0 true]

theorem saturated_sequence_overtakes_latest : ∃ registry stream, new 1 1 = .ok registry ∧
      run EventStream.step (.new registry) saturatingReader = some stream ∧
      ∃ reader ∈ stream.readers, ¬ MissesNothing stream.published reader := by
  obtain ⟨registry, hnew, hcapacity, hstate⟩ : ∃ registry, new 1 1 = .ok registry ∧
      registry.eventCapacity = 1 ∧ registry.state = ⟨1, 1, ⟨0⟩, [], []⟩ := ⟨_, rfl, rfl, rfl⟩
  let reader : EventReader := ⟨⟨0⟩, ⟨⟨0⟩⟩, []⟩
  have hsubscribe : run EventStream.step (.new registry) [.subscribe ⟨0⟩] =
      some ⟨registry, [], [reader]⟩ := by
    simp [run, EventStream.step, EventStream.new, subscribe, hstate, reader]
  have hstart : Saturates [reader] 0 ⟨registry, [], [reader]⟩ := by
    refine ⟨rfl, hcapacity, ?_, ?_, fun h => absurd h (Nat.lt_irrefl 0)⟩
    · simp [hstate]
    · simp [hstate]
  obtain ⟨full, hfull, hsaturated⟩ := run_repeat
    (fun n stream (h : Saturates [reader] n stream) => h.create createRequest) (2 ^ 64 - 1) hstart
  obtain ⟨event, hevents, hsequence⟩ := hsaturated.last (by omega)
  have hshown : event.sequence.val > 0 := by
    rw [gt_iff_lt, UInt64.lt_iff_toNat_lt, hsequence]
    decide
  have hbatch : (eventBatch full.registry.state ⟨0⟩).events.getLast? = some event := by
    simp [eventBatch, hevents, hshown]
  have hlatest : (eventBatch full.registry.state ⟨0⟩).latestSequence.val.toNat = 2 ^ 64 - 2 := by
    simp only [eventBatch, hevents, List.head?_cons]
    rw [toNat_saturatingSub, hsaturated.next, UInt64.toNat_one]
    decide
  have hread : run EventStream.step full [.nextBatch 0 true] = some { full with
      readers := [reader.record (eventBatch full.registry.state ⟨0⟩, ⟨event.sequence⟩)] } := by
    simp [run, EventStream.step, hsaturated.readers_eq, reader, nextBatch_eq, cursorAfter, hbatch]
  refine ⟨registry, _, hnew, run_append (run_append hsubscribe hfull) hread, _,
    List.mem_singleton_self _, fun h => ?_⟩
  -- the batch ends with the last sequence number there is, one above the latest sequence
  have hmoves := h.moves _ (List.mem_singleton_self _)
    (List.ne_nil_of_mem (List.mem_of_getLast? hbatch))
  have hval := congrArg (fun sequence : EventSequence => sequence.val.toNat) hmoves
  simp only [hlatest, hsequence] at hval
  exact absurd hval (by decide)

end Kernmux.Daemon
