import Kernmux.Api.V1
import Kernmux.Library.BoundedQueue
import Kernmux.Library.Result

/-!
# Kernmux.Daemon.Operations

The operation registry: retained operations and the bounded event stream that
announces their changes. Both histories are bounded queues. Every call runs
under the registry's mutex, so the registry is a state machine with one step
per call (`OperationRegistry.call`).

Readers of the event stream keep a cursor. What they are given for it
(`eventBatch`) starts with an overflow marker when events after the cursor are
no longer retained.
-/

namespace Kernmux.Daemon

open Api.V1 Library

/-! ### The registry -/

/-- Immutable fields supplied when an asynchronous operation is accepted. -/
structure NewOperation where
  kind : OperationKind
  expectedGeneration : Generation
  affectedResources : List ResourceReference
  actor : Option Actor
  auditId : Option String
  createdAt : String
  deriving DecidableEq, Repr

/-- Stable registry rejection. -/
inductive OperationRegistryError
  | invalidCapacity
  | notFound
  | invalidTransition
  | invalidProgress
  deriving DecidableEq, Repr

/-- What the registry's mutex protects. -/
structure RegistryState where
  nextOperation : UInt64
  nextSequence : UInt64
  latestGeneration : Generation
  operations : List Operation
  events : List Event
  deriving DecidableEq, Repr

/-- Shared operation history and event stream. A registry that exists can hold at least
one operation and one event. -/
structure OperationRegistry where
  operationCapacity : ℕ
  eventCapacity : ℕ
  state : RegistryState
  operationCapacity_pos : 0 < operationCapacity
  eventCapacity_pos : 0 < eventCapacity

/-- Creates a registry with independent operation and event bounds. -/
def OperationRegistry.new (operationCapacity eventCapacity : ℕ) :
    Except OperationRegistryError OperationRegistry :=
  if h : operationCapacity = 0 ∨ eventCapacity = 0 then .error .invalidCapacity
  else .ok {
    operationCapacity := operationCapacity
    eventCapacity := eventCapacity
    state := {
      nextOperation := 1
      nextSequence := 1
      latestGeneration := ⟨0⟩
      operations := []
      events := [] }
    operationCapacity_pos := Nat.pos_of_ne_zero fun heq => h (.inl heq)
    eventCapacity_pos := Nat.pos_of_ne_zero fun heq => h (.inr heq) }

/-- The ID of the operation with this number. -/
def operationId (number : ℕ) : OperationId := ⟨"op-" ++ toString number⟩

def isTerminal : OperationState → Bool
  | .succeeded | .failed | .cancelled | .indeterminate => true
  | .queued | .running | .unknown => false

namespace OperationRegistry

/-! ### Events -/

/-- The generation that an operation speaks for. -/
def operationGeneration (operation : Operation) : Generation :=
  operation.observedGeneration.getD operation.expectedGeneration

/-- The larger of two generations; the older one when they are equal. -/
def latest (current reported : Generation) : Generation :=
  if reported.val > current.val then reported else current

def publishOperationEvent (eventCapacity : ℕ) (state : RegistryState) (operation : Operation) :
    RegistryState :=
  let generation := latest state.latestGeneration (operationGeneration operation)
  let event : Event := {
    sequence := ⟨state.nextSequence⟩
    snapshotGeneration := generation
    kind := .operationChanged
    resource := operation.affectedResources.head? }
  { state with
    latestGeneration := generation
    nextSequence := saturatingAdd state.nextSequence 1
    events := pushBounded eventCapacity state.events event }

/-! ### Calls -/

/-- The operation that an accepted request becomes. -/
def queuedOperation (number : UInt64) (request : NewOperation) : Operation where
  id := operationId number.toNat
  kind := request.kind
  state := .queued
  progressPercent := none
  expectedGeneration := request.expectedGeneration
  observedGeneration := none
  affectedResources := request.affectedResources
  error := none
  actor := request.actor
  auditId := request.auditId
  createdAt := request.createdAt
  completedAt := none

/-- Accepts a queued operation and publishes an operation event. -/
def create (registry : OperationRegistry) (request : NewOperation) :
    Operation × OperationRegistry :=
  let operation := queuedOperation registry.state.nextOperation request
  let state := { registry.state with
    nextOperation := saturatingAdd registry.state.nextOperation 1
    operations := pushBounded registry.operationCapacity registry.state.operations operation }
  (operation,
    { registry with state := publishOperationEvent registry.eventCapacity state operation })

/-- Returns one retained operation. -/
def get (registry : OperationRegistry) (id : OperationId) : Option Operation :=
  registry.state.operations.find? (·.id = id)

/-- Mutates the retained operation with this ID in place and publishes an event; a
rejected mutation leaves the registry alone. -/
def update (registry : OperationRegistry) (id : OperationId)
    (mutation : Operation → Except OperationRegistryError Operation) :
    Except OperationRegistryError Operation × OperationRegistry :=
  match registry.get id with
  | none => (.error .notFound, registry)
  | some operation =>
      match mutation operation with
      | .error error => (.error error, registry)
      | .ok operation =>
          let index := registry.state.operations.findIdx (·.id = id)
          let state := { registry.state with
            operations := registry.state.operations.set index operation }
          (.ok operation,
            { registry with state := publishOperationEvent registry.eventCapacity state operation })

def startMutation (operation : Operation) : Except OperationRegistryError Operation := do
  rejectIf (operation.state ≠ .queued) .invalidTransition
  return { operation with state := .running, progressPercent := some 0 }

/-- Marks a queued operation as running. -/
def start (registry : OperationRegistry) (id : OperationId) :
    Except OperationRegistryError Operation × OperationRegistry :=
  registry.update id startMutation

def progressMutation (progressPercent : UInt8) (operation : Operation) :
    Except OperationRegistryError Operation := do
  rejectIf (operation.state ≠ .running) .invalidTransition
  rejectIf (progressPercent > 100 ∨
    operation.progressPercent.any (fun current => progressPercent < current) = true)
    .invalidProgress
  return { operation with progressPercent := some progressPercent }

/-- Updates progress for a running operation. -/
def setProgress (registry : OperationRegistry) (id : OperationId) (progressPercent : UInt8) :
    Except OperationRegistryError Operation × OperationRegistry :=
  registry.update id (progressMutation progressPercent)

def finishMutation (state : OperationState) (observedGeneration : Option Generation)
    (error : Option ApiError) (completedAt : String) (operation : Operation) :
    Except OperationRegistryError Operation := do
  rejectIf (isTerminal operation.state = true ∨ isTerminal state = false) .invalidTransition
  return { operation with
    state := state
    observedGeneration := observedGeneration
    error := error
    completedAt := some completedAt
    progressPercent := if state = .succeeded then some 100 else operation.progressPercent }

/-- Completes a queued or running operation with an immutable terminal state. -/
def finish (registry : OperationRegistry) (id : OperationId) (state : OperationState)
    (observedGeneration : Option Generation) (error : Option ApiError) (completedAt : String) :
    Except OperationRegistryError Operation × OperationRegistry :=
  registry.update id (finishMutation state observedGeneration error completedAt)

/-- Latest authoritative snapshot generation observed by operation events. -/
def latestGeneration (registry : OperationRegistry) : Generation := registry.state.latestGeneration

end OperationRegistry

/-- A call that may change the registry. -/
inductive RegistryCall
  | create (request : NewOperation)
  | start (id : OperationId)
  | setProgress (id : OperationId) (progressPercent : UInt8)
  | finish (id : OperationId) (state : OperationState) (observedGeneration : Option Generation)
      (error : Option ApiError) (completedAt : String)
  deriving DecidableEq, Repr

/-- One call, atomic under the mutex. -/
def OperationRegistry.call (registry : OperationRegistry) :
    RegistryCall → Except OperationRegistryError Operation × OperationRegistry
  | .create request => (.ok (registry.create request).1, (registry.create request).2)
  | .start id => registry.start id
  | .setProgress id progressPercent => registry.setProgress id progressPercent
  | .finish id state observedGeneration error completedAt =>
      registry.finish id state observedGeneration error completedAt

/-! ### Reading events -/

/-- Bounded event read from a monotonic sequence cursor. -/
structure EventBatch where
  events : List Event
  overflowed : Bool
  latestSequence : EventSequence
  deriving DecidableEq, Repr

/-- The event that stands for everything lost before `oldest`. -/
def overflowMarker (oldest : Event) : Event where
  sequence := ⟨saturatingSub oldest.sequence.val 1⟩
  snapshotGeneration := oldest.snapshotGeneration
  kind := .streamOverflow
  resource := none

def eventBatch (state : RegistryState) (cursor : EventSequence) : EventBatch :=
  let latest : EventSequence := ⟨saturatingSub state.nextSequence 1⟩
  match state.events.head? with
  | none => { events := [], overflowed := false, latestSequence := latest }
  | some oldest =>
      let overflowed := decide (saturatingAdd cursor.val 1 < oldest.sequence.val)
      { events := (if overflowed then [overflowMarker oldest] else []) ++
          state.events.filter fun event => event.sequence.val > cursor.val
        overflowed := overflowed
        latestSequence := latest }

/-- Reads retained events after a client cursor. -/
def OperationRegistry.eventsAfter (registry : OperationRegistry) (cursor : EventSequence) :
    EventBatch :=
  eventBatch registry.state cursor

/-- Stateful blocking cursor for one event-stream client. -/
structure EventSubscription where
  cursor : EventSequence
  deriving DecidableEq, Repr

/-- Creates a blocking subscription after a client cursor. -/
def OperationRegistry.subscribe (_registry : OperationRegistry) (cursor : EventSequence) :
    EventSubscription :=
  ⟨cursor⟩

namespace EventSubscription

/-- There is nothing new: the subscription waits until its timeout. -/
def waits (subscription : EventSubscription) (registry : OperationRegistry) : Bool :=
  saturatingSub registry.state.nextSequence 1 ≤ subscription.cursor.val

/-- What a subscription reads when it has stopped waiting; its cursor moves to the last
event that it was given. -/
def nextBatch (subscription : EventSubscription) (registry : OperationRegistry) :
    EventBatch × EventSubscription :=
  let batch := eventBatch registry.state subscription.cursor
  match batch.events.getLast? with
  | none => (batch, subscription)
  | some last => (batch, ⟨last.sequence⟩)

end EventSubscription

end Kernmux.Daemon
