import Kernmux.Api.V1

/-!
# Kernmux.Daemon.Security

Admission: the authorization policy for local peers, and the concurrency limiter
that every mutation has to pass. A permit is released when the value that holds
it is dropped, so acquiring and releasing are two transitions of one counter.
-/

namespace Kernmux.Daemon

open Api.V1

/-! ### Authorization -/

/-- Kernel-authenticated identity of one Unix socket peer. -/
structure PeerIdentity where
  pid : Int
  actor : Actor
  deriving DecidableEq, Repr

/-- Security class of one API request. -/
inductive RequestClass
  | readOnly
  | mutation
  | console
  | administration
  deriving DecidableEq, Repr

/-- Effective local role derived exclusively from peer credentials. -/
inductive Role
  | reader
  | operator
  | administrator
  deriving DecidableEq, Repr

namespace Role

def rank : Role → ℕ
  | .reader => 0
  | .operator => 1
  | .administrator => 2

instance : LE Role := ⟨fun lower higher => lower.rank ≤ higher.rank⟩

instance (lower higher : Role) : Decidable (lower ≤ higher) :=
  inferInstanceAs (Decidable (lower.rank ≤ higher.rank))

end Role

/-- Explicit local authorization policy. Empty sets deny non-root peers. -/
structure AuthorizationPolicy where
  readerUids : List UInt32
  readerGids : List UInt32
  operatorUids : List UInt32
  operatorGids : List UInt32
  administratorUids : List UInt32
  administratorGids : List UInt32
  allowUnprivilegedReads : Bool
  deriving DecidableEq, Repr

namespace AuthorizationPolicy

def role (policy : AuthorizationPolicy) (actor : Actor) : Option Role :=
  if actor.uid = 0 ∨ actor.uid ∈ policy.administratorUids ∨
      actor.gid ∈ policy.administratorGids then
    some .administrator
  else if actor.uid ∈ policy.operatorUids ∨ actor.gid ∈ policy.operatorGids then
    some .operator
  else if actor.uid ∈ policy.readerUids ∨ actor.gid ∈ policy.readerGids then
    some .reader
  else none

def forbidden : ApiError where
  code := .forbidden
  message := "peer is not authorized for this request"
  retryable := false
  currentGeneration := none
  diagnostics := []

/-- Resolves the effective role and authorizes one request class. -/
def authorize (policy : AuthorizationPolicy) (actor : Actor) (requestClass : RequestClass) :
    Except ApiError Role :=
  let role := policy.role actor
  let allowed : Bool :=
    match requestClass with
    | .readOnly => role.isSome || policy.allowUnprivilegedReads
    | .mutation | .console => role.any fun role => .operator ≤ role
    | .administration => role = some .administrator
  if allowed then .ok (role.getD .reader) else .error forbidden

end AuthorizationPolicy

/-! ### Limits -/

/-- Configured concurrency limits for privileged service resources. -/
structure ServiceLimits where
  connections : ℕ
  mutations : ℕ
  consoles : ℕ
  deriving DecidableEq, Repr

/-- Bounded service resource. -/
inductive LimitKind
  | connection
  | mutation
  | console
  deriving DecidableEq, Repr

/-- How many permits of each kind are out. -/
structure LimitState where
  connections : ℕ
  mutations : ℕ
  consoles : ℕ
  deriving DecidableEq, Repr

/-- Concurrency limiter with release on drop. -/
structure ServiceLimiter where
  limits : ServiceLimits
  state : LimitState
  deriving DecidableEq, Repr

/-- Validates that each limit can admit at least one request. -/
def ServiceLimits.validate (limits : ServiceLimits) : Except ApiError ServiceLimits :=
  if limits.connections = 0 ∨ limits.mutations = 0 ∨ limits.consoles = 0 then
    .error {
      code := .internal
      message := "service concurrency limits are invalid"
      retryable := false
      currentGeneration := none
      diagnostics := [] }
  else .ok limits

namespace ServiceLimiter

/-- Creates a limiter from validated limits. -/
def new (limits : ServiceLimits) : Except ApiError ServiceLimiter :=
  match limits.validate with
  | .ok limits => .ok ⟨limits, ⟨0, 0, 0⟩⟩
  | .error error => .error error

def limit (limits : ServiceLimits) : LimitKind → ℕ
  | .connection => limits.connections
  | .mutation => limits.mutations
  | .console => limits.consoles

def current (state : LimitState) : LimitKind → ℕ
  | .connection => state.connections
  | .mutation => state.mutations
  | .console => state.consoles

def setCurrent (state : LimitState) (count : ℕ) : LimitKind → LimitState
  | .connection => { state with connections := count }
  | .mutation => { state with mutations := count }
  | .console => { state with consoles := count }

/-- Acquires one bounded service resource. -/
def acquire (limiter : ServiceLimiter) (kind : LimitKind) : Except ApiError ServiceLimiter :=
  let count := current limiter.state kind
  if count ≥ limit limiter.limits kind then
    .error {
      code := .backendUnavailable
      message := "service concurrency limit reached"
      retryable := true
      currentGeneration := none
      diagnostics := [] }
  else .ok { limiter with state := setCurrent limiter.state (count + 1) kind }

/-- A permit is dropped. -/
def release (limiter : ServiceLimiter) (kind : LimitKind) : ServiceLimiter :=
  { limiter with state := setCurrent limiter.state (current limiter.state kind - 1) kind }

end ServiceLimiter

end Kernmux.Daemon
