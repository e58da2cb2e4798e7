import Kernmux.Client.Response
import Kernmux.Daemon.OperationsSound
import Kernmux.Daemon.Router
import Kernmux.Gateway.Upload

/-!
# Kernmux.Client.Waiting

**Waiting for an operation.** A mutation is accepted before it is carried out;
who wants to know its end looks the operation up again and again. The client
library does so to report how it ended, the gateway to delete an upload that was
to be imported. Meanwhile the registry goes on and forgets old operations, and
answers get lost.

An operation that is over never changes (`lasting_of_mem`). What a look finds to
be over is therefore how the operation ends, however much later it is reported.
-/

namespace Kernmux.Client

open Api.V1 Daemon Daemon.HostApi Library

/-! ### The daemon -/

/-- The answer to a request for an operation. The generation is read after the operation, and the
registry may have gone on in between. -/
def operationAnswer (registry later : OperationRegistry) (id : OperationId) : Response Operation :=
  match registry.get id with
  | none => .error notFound
  | some operation => .result later.latestGeneration operation

/-- The name of a state in an answer. -/
def stateName : OperationState → String
  | .queued => "queued"
  | .running => "running"
  | .succeeded => "succeeded"
  | .failed => "failed"
  | .cancelled => "cancelled"
  | .indeterminate => "indeterminate"
  | .unknown => "unknown"

/-! ### The client -/

/-- Failure of a typed call, with what the daemon said about it. -/
structure CallError extends ClientError where
  apiError : Option ApiError
  operation : Option Operation
  deriving DecidableEq, Repr

/-- A failure with nothing from the daemon. -/
def CallError.of (error : ClientError) : CallError := ⟨error, none, none⟩

def CallError.rejected (error : ApiError) : CallError :=
  ⟨⟨.rejected, error.message⟩, some error, none⟩

/-- Debug output of a state. -/
def stateText : OperationState → String
  | .queued => "Queued"
  | .running => "Running"
  | .succeeded => "Succeeded"
  | .failed => "Failed"
  | .cancelled => "Cancelled"
  | .indeterminate => "Indeterminate"
  | .unknown => "Unknown"

def operationError (kind : ErrorKind) (operation : Operation) : CallError where
  kind := kind
  message := operation.error.elim
    ("operation entered terminal state " ++ stateText operation.state) ApiError.message
  apiError := operation.error
  operation := some operation

/-- How the wait for an operation ends, unless it is still going on. -/
def endVerdict (operation : Operation) : Option (Except CallError Operation) :=
  match operation.state with
  | .succeeded => some (.ok operation)
  | .failed => some (.error (operationError .operationFailed operation))
  | .cancelled => some (.error (operationError .operationCancelled operation))
  | .indeterminate | .unknown => some (.error (operationError .operationIndeterminate operation))
  | .queued | .running => none

/-- One turn of the loop. -/
def pollVerdict : Except ClientError (Response Operation) → Option (Except CallError Operation)
  | .error error => some (.error (.of error))
  | .ok (.error error) => some (.error (.rejected error))
  | .ok (.result _ operation) | .ok (.accepted operation) => endVerdict operation

/-- Waits for an operation; `received attempt` is what the call of a turn comes to. -/
def waitOperation (received : ℕ → Except ClientError (Response Operation)) (maxAttempts : ℕ) :
    Except CallError Operation :=
  if maxAttempts = 0 then .error (.of ⟨.timeout, "operation wait has no attempts"⟩)
  else
    match (List.range maxAttempts).findSome? fun attempt => pollVerdict (received attempt) with
    | some verdict => verdict
    | none => .error (.of ⟨.timeout, "operation did not finish within the polling limit"⟩)

/-! ### Looking at a run -/

/-- Looks at an operation during a run of the registry, each after a number of calls. -/
structure Looks where
  registry : OperationRegistry
  calls : ℕ → RegistryCall
  id : OperationId
  time : ℕ → ℕ
  inv : RegistryInv 0 registry
  time_lt : ∀ n, time n < 2 ^ 64 - 1

namespace Looks

variable {looks : Looks} {n : ℕ} {operation : Operation}

/-- The registry that a look finds. -/
def found (looks : Looks) (n : ℕ) : OperationRegistry :=
  registryAt looks.registry looks.calls (looks.time n)

/-- A look finds an operation that is over, and nothing else is ever found under its id. -/
structure EndsAs (looks : Looks) (n : ℕ) (operation : Operation) : Prop where
  mem : operation ∈ (looks.found n).state.operations
  id_eq : operation.id = looks.id
  terminal : isTerminal operation.state = true
  final : ∀ later, looks.time n ≤ later → later < 2 ^ 64 - 1 →
    ∀ other ∈ (registryAt looks.registry looks.calls later).state.operations,
      other.id = looks.id → other = operation

/-- A look finds an operation that is still going on. -/
def GoesOn (looks : Looks) (n : ℕ) : Prop :=
  ∃ operation ∈ (looks.found n).state.operations, operation.id = looks.id ∧
    isTerminal operation.state = false

/-- What is found is over for good, or still going on; no state in a registry is unknown. -/
theorem endsAs_or_goesOn (hget : (looks.found n).get looks.id = some operation) :
    looks.EndsAs n operation ∨ looks.GoesOn n ∧
      (operation.state = .queued ∨ operation.state = .running) := by
  obtain ⟨hmem, hid⟩ := mem_of_get hget
  have hknown : operation.state ≠ .unknown :=
    ((registryInv_registryAt looks.calls looks.inv (looks.time_lt n)).operations.known
      operation hmem).state
  cases hterminal : isTerminal operation.state with
  | false =>
      refine .inr ⟨⟨operation, hmem, hid, hterminal⟩, ?_⟩
      revert hterminal hknown
      cases operation.state <;> simp [isTerminal]
  | true =>
      refine .inl ⟨hmem, hid, hterminal, fun later hle hlater other hother hsame => ?_⟩
      exact (lasting_of_mem looks.calls looks.inv hle hlater hmem hother
        (hid.trans hsame.symm)).2 hterminal

/-- What a call may come to. It fails on its way, or the daemon refuses it before it looks for the
operation (a header that is not valid, a caller that is not allowed) or fails in doing so, or the
daemon answers it. -/
inductive Received (looks : Looks) (n : ℕ) : Except ClientError (Response Operation) → Prop
  | lost (error : ClientError) : Received looks n (.error error)
  | refused {error : ApiError} (h : error ≠ notFound) : Received looks n (.ok (.error error))
  | answered (later : OperationRegistry) :
      Received looks n (.ok (operationAnswer (looks.found n) later looks.id))

/-- The end of an operation that has not succeeded, and how it is reported. -/
inductive EndedWith : OperationState → ErrorKind → Prop
  | failed : EndedWith .failed .operationFailed
  | cancelled : EndedWith .cancelled .operationCancelled
  | indeterminate : EndedWith .indeterminate .operationIndeterminate

variable {received : ℕ → Except ClientError (Response Operation)} {attempts : ℕ}

variable (looks received attempts) in
/-- What a wait may report. -/
inductive Told : Except CallError Operation → Prop
  | succeeded {n : ℕ} {operation : Operation} (hn : n < attempts) (ends : looks.EndsAs n operation)
      (state : operation.state = .succeeded) : Told (.ok operation)
  | ended {n : ℕ} {operation : Operation} {kind : ErrorKind} (hn : n < attempts)
      (ends : looks.EndsAs n operation) (state : EndedWith operation.state kind) :
      Told (.error (operationError kind operation))
  | gone {n : ℕ} (hn : n < attempts)
      (none_found : ∀ operation ∈ (looks.found n).state.operations, operation.id ≠ looks.id) :
      Told (.error (.rejected notFound))
  | refused {n : ℕ} {error : ApiError} (hn : n < attempts)
      (hrefused : received n = .ok (.error error)) (hother : error ≠ notFound) :
      Told (.error (.rejected error))
  | lost {n : ℕ} {error : ClientError} (hn : n < attempts) (hlost : received n = .error error) :
      Told (.error (.of error))
  | goesOn {message : String} (every : ∀ n < attempts, looks.GoesOn n) :
      Told (.error (.of ⟨.timeout, message⟩))

/-- A turn that finds the operation at its end. -/
theorem told_of_endsAs (hn : n < attempts) (ends : looks.EndsAs n operation) :
    ∃ verdict, endVerdict operation = some verdict ∧ looks.Told received attempts verdict := by
  have hterminal := ends.terminal
  unfold endVerdict
  cases hstate : operation.state with
  | queued | running | unknown =>
      rw [hstate] at hterminal
      cases hterminal
  | succeeded => exact ⟨_, rfl, .succeeded hn ends hstate⟩
  | failed => exact ⟨_, rfl, .ended hn ends (hstate ▸ EndedWith.failed)⟩
  | cancelled => exact ⟨_, rfl, .ended hn ends (hstate ▸ EndedWith.cancelled)⟩
  | indeterminate => exact ⟨_, rfl, .ended hn ends (hstate ▸ EndedWith.indeterminate)⟩

/-- A turn ends the wait with the truth, or the operation is going on and so does the wait. -/
theorem told_or_goesOn (hn : n < attempts) (hreceived : looks.Received n (received n)) :
    (∃ verdict, pollVerdict (received n) = some verdict ∧ looks.Told received attempts verdict) ∨
      pollVerdict (received n) = none ∧ looks.GoesOn n := by
  generalize hcall : received n = call at hreceived
  cases hreceived with
  | lost error => exact .inl ⟨_, rfl, .lost hn hcall⟩
  | refused hother => exact .inl ⟨_, rfl, .refused hn hcall hother⟩
  | answered later =>
      rw [operationAnswer]
      cases hget : (looks.found n).get looks.id with
      | none =>
          refine .inl ⟨_, rfl, .gone hn fun operation hmem => ?_⟩
          simpa using List.find?_eq_none.mp hget operation hmem
      | some operation =>
          rcases endsAs_or_goesOn hget with hends | ⟨hgoes, hstate⟩
          · exact .inl (told_of_endsAs hn hends)
          · refine .inr ⟨?_, hgoes⟩
            show endVerdict operation = none
            rcases hstate with hstate | hstate <;> simp [endVerdict, hstate]

/-- **A wait tells the truth.** Whatever the registry does meanwhile and whichever calls are lost
or refused: success and failure are reported only when they are how the operation ends, that it is
not found only when it is no longer retained, another rejection only when the daemon has refused a
call, and a timeout only when every look has found the operation going on. -/
theorem waitOperation_truthful (hreceived : ∀ n, looks.Received n (received n)) :
    looks.Told received attempts (waitOperation received attempts) := by
  unfold waitOperation
  by_cases hzero : attempts = 0
  · rw [if_pos hzero]
    exact .goesOn fun n hn => absurd hn (by omega)
  rw [if_neg hzero]
  cases hpolls : (List.range attempts).findSome? fun attempt => pollVerdict (received attempt) with
  | some verdict =>
      obtain ⟨n, hn, hverdict⟩ := List.exists_of_findSome?_eq_some hpolls
      rcases told_or_goesOn (List.mem_range.mp hn) (hreceived n) with ⟨told, htold, h⟩ | ⟨hnone, -⟩
      · exact Option.some.inj (htold.symm.trans hverdict) ▸ h
      · cases hnone.symm.trans hverdict
  | none =>
      refine .goesOn fun n hn => ?_
      have hnone := List.findSome?_eq_none_iff.mp hpolls n (List.mem_range.mpr hn)
      rcases told_or_goesOn hn (hreceived n) with ⟨told, htold, -⟩ | ⟨-, hgoes⟩
      · cases htold.symm.trans hnone
      · exact hgoes

/-- An import that is queued, started and finished; the first look finds it running. -/
def ofImport : Looks where
  registry := ⟨1, 1, ⟨1, 1, ⟨0⟩, [], []⟩, Nat.one_pos, Nat.one_pos⟩
  calls
    | 0 => .create ⟨.importOsImage, ⟨1⟩, [], none, none, "now"⟩
    | 1 => .start (operationId 1)
    | _ => .finish (operationId 1) .succeeded none none "later"
  id := operationId 1
  time n := min (n + 2) 3
  inv := registryInv_new (rfl : OperationRegistry.new 1 1 = _)
  time_lt n := (Nat.min_le_right _ _).trans_lt (by decide)

theorem waitOperation_truthful_import : ∃ received operation, operation.state = .succeeded ∧
    ofImport.Told received 2 (.ok operation) := by
  let received (n : ℕ) : Except ClientError (Response Operation) :=
    .ok (operationAnswer (ofImport.found n) (ofImport.found 1) ofImport.id)
  obtain ⟨operation, hwait, hstate⟩ : ∃ operation, waitOperation received 2 = .ok operation ∧
      operation.state = .succeeded := ⟨_, rfl, rfl⟩
  refine ⟨received, operation, hstate, ?_⟩
  rw [← hwait]
  exact waitOperation_truthful fun _ => .answered _

/-! ### Uploads -/

/-- A state is taken for an end if it is one, or if it is unknown. -/
theorem isTerminal_stateName (state : OperationState) :
    Gateway.isTerminal (some (stateName state)) = (isTerminal state || state = .unknown) := by
  cases state <;> decide

/-- What the gateway may find in an answer: nothing, or the state of the operation. -/
def State (looks : Looks) (n : ℕ) (state : Option String) : Prop :=
  state = none ∨ state = ((looks.found n).get looks.id).map fun operation =>
    stateName operation.state

/-- A state that the gateway finds. -/
theorem State.cases {state : String} (h : looks.State n (some state)) :
    (∃ operation, looks.EndsAs n operation) ∧ Gateway.isTerminal (some state) = true ∨
      looks.GoesOn n ∧ Gateway.isTerminal (some state) = false := by
  obtain ⟨operation, hget, rfl⟩ := Option.map_eq_some_iff.mp (h.resolve_left (by simp)).symm
  rcases endsAs_or_goesOn hget with hends | ⟨hgoes, hstate⟩
  · exact .inl ⟨⟨operation, hends⟩, by simp [isTerminal_stateName, hends.terminal]⟩
  · refine .inr ⟨hgoes, ?_⟩
    rcases hstate with hstate | hstate <;> rw [hstate] <;> rfl

/-- **An upload is deleted after its import.** Whatever the registry does meanwhile and whichever
answers are lost: the file is deleted after the end of the operation was recorded, and if it is
left, then every look that found the operation has found it going on. -/
theorem cleanupAfterOperation_ended {polls : List (Option String)}
    (hpolls : ∀ n state, polls[n]? = some state → looks.State n state) (ε : Type)
    (ready : OsString) (folder : Folder OsString) :
    let after : Folder OsString :=
      (Gateway.cleanupAfterOperation ready (some looks.id.val) polls folder : Ended ε Unit × _).2
    (after.files = Function.update folder.files ready none ∧
      ∃ n < 120, ∃ operation, looks.EndsAs n operation) ∨
    after.files = folder.files ∧ ∀ n < 120, ∀ state, polls[n]? = some (some state) →
      looks.GoesOn n := by
  unfold Gateway.cleanupAfterOperation
  by_cases hany : (polls.take 120).any Gateway.isTerminal = true
  · refine .inl ⟨by simp [hany]; rfl, ?_⟩
    obtain ⟨found, hmem, hterminal⟩ := List.any_eq_true.mp hany
    obtain ⟨n, hn⟩ := List.mem_iff_getElem?.mp hmem
    rw [List.getElem?_take, Option.ite_none_right_eq_some] at hn
    obtain ⟨hlt, hn⟩ := hn
    cases found with
    | none => cases hterminal
    | some state =>
        rcases (hpolls n _ hn).cases with ⟨hends, -⟩ | ⟨-, hlive⟩
        · exact ⟨n, hlt, hends⟩
        · cases hlive.symm.trans hterminal
  · refine .inr ⟨by simp [hany]; rfl, fun n hn state hstate => ?_⟩
    rcases (hpolls n _ hstate).cases with ⟨-, hterminal⟩ | ⟨hgoes, -⟩
    · refine absurd (List.any_eq_true.mpr ⟨some state, ?_, hterminal⟩) hany
      exact List.mem_iff_getElem?.mpr ⟨n, by rw [List.getElem?_take, if_pos hn, hstate]⟩
    · exact hgoes

/-- The answer to the second look is lost. -/
theorem cleanupAfterOperation_ended_import :
    ∃ n < 120, ∃ operation, ofImport.EndsAs n operation := by
  have hpolls : ∀ n state, [some "running", none, some "succeeded"][n]? = some state →
      ofImport.State n state := by
    intro n state hstate
    rcases n with _ | _ | _ | n
    · exact .inr (Option.some.inj hstate.symm)
    · exact .inl (Option.some.inj hstate.symm)
    · exact .inr (Option.some.inj hstate.symm)
    · cases hstate
  rcases cleanupAfterOperation_ended hpolls Unit (.ofString "a.ready")
    (.fresh (fun _ => some []) fun _ => .done) with ⟨-, hended⟩ | ⟨hleft, -⟩
  · exact hended
  · cases congrFun hleft (.ofString "a.ready")

end Looks

end Kernmux.Client
