import Kernmux.Daemon.ResourcePool

/-!
# Kernmux.Daemon.Scheduler

Terminal results of mutation workers: how a reconciled outcome, or the error of
an execution that did not get that far, is reported in the operation that the
worker settles.
-/

namespace Kernmux.Daemon

open Api.V1

/-- Terminal result returned by one mutation worker. -/
structure OperationTaskResult where
  state : OperationState
  observedGeneration : Option Generation
  error : Option ApiError
  deriving DecidableEq, Repr

namespace OperationTaskResult

/-- Creates a successful task result. -/
def succeeded (generation : Generation) : OperationTaskResult := ⟨.succeeded, some generation, none⟩

/-- Creates a cooperatively cancelled task result. -/
def cancelled (generation : Option Generation) : OperationTaskResult :=
  ⟨.cancelled, generation, none⟩

/-- Creates a failed task result with an API-safe error. -/
def failed (error : ApiError) (generation : Option Generation) : OperationTaskResult :=
  ⟨.failed, generation, some error⟩

end OperationTaskResult

namespace Scheduler

def apiError (code : ErrorCode) (message : String) (retryable : Bool)
    (diagnostics : List Diagnostic) : ApiError where
  code := code
  message := message
  retryable := retryable
  currentGeneration := none
  diagnostics := diagnostics

/-- The report of a reconciled mutation. -/
def outcomeResult (state : OperationState) (generation : Generation)
    (diagnostics : List Diagnostic) : OperationTaskResult where
  state := state
  observedGeneration := some generation
  error :=
    match state with
    | .succeeded | .cancelled => none
    | .indeterminate => some (apiError .backendUnavailable "operation outcome is indeterminate"
        true diagnostics)
    | _ => some (apiError .backendUnavailable "host mutation did not reach the requested result"
        true diagnostics)

/-- The report of a mutation that was not attempted. -/
def failureResult (code : ErrorCode) (diagnostics : List Diagnostic) : OperationTaskResult where
  state := .failed
  observedGeneration := none
  error := some (apiError code "operation was rejected before execution"
    (code = .backendUnavailable ∨ code = .timeout) diagnostics)

/-- Converts a reconciled lifecycle result into an operation terminal result. -/
def lifecycleTaskResult {ε : Type} :
    Except (LifecycleExecutionError ε) LifecycleOutcome → OperationTaskResult
  | .ok outcome => outcomeResult outcome.state outcome.snapshot.generation outcome.diagnostics
  | .error error => failureResult error.errorCode []

/-- Converts a reconciled resource-pool result into an operation terminal result. -/
def resourcePoolTaskResult {ε : Type} :
    Except (ResourcePoolExecutionError ε) ResourcePoolOutcome → OperationTaskResult
  | .ok outcome => outcomeResult outcome.state outcome.snapshot.generation outcome.diagnostics
  | .error error => failureResult error.errorCode []

/-- The result recorded when a task panics. -/
def workerPanicResult : OperationTaskResult where
  state := .failed
  observedGeneration := none
  error := some (apiError .internal "operation worker terminated unexpectedly" false
    [{ code := "worker_panicked"
       severity := .error
       message := "operation worker terminated unexpectedly"
       detail := none
       redacted := true }])

/-- The report says that the mutation was rejected before execution. -/
def ReportsRejection (result : OperationTaskResult) : Prop :=
  ∃ error, result.error = some error ∧ error.message = "operation was rejected before execution"

theorem not_reportsRejection_outcomeResult (state : OperationState) (generation : Generation)
    (diagnostics : List Diagnostic) :
    ¬ ReportsRejection (outcomeResult state generation diagnostics) := by
  rintro ⟨error, herror, hmessage⟩
  cases state <;> simp only [outcomeResult, Option.some.injEq, reduceCtorEq] at herror <;>
    subst herror <;> simp [apiError] at hmessage

theorem reportsRejection_failureResult (code : ErrorCode) (diagnostics : List Diagnostic) :
    ReportsRejection (failureResult code diagnostics) := ⟨_, rfl, rfl⟩

/-- A lifecycle worker reports a rejection exactly when its execution failed. -/
theorem reportsRejection_lifecycleTaskResult {ε : Type}
    {result : Except (LifecycleExecutionError ε) LifecycleOutcome} :
    ReportsRejection (lifecycleTaskResult result) ↔ ∃ error, result = .error error := by
  cases result with
  | ok outcome =>
      simp only [lifecycleTaskResult, not_reportsRejection_outcomeResult, reduceCtorEq, exists_false]
  | error error =>
      simp only [lifecycleTaskResult, reportsRejection_failureResult, Except.error.injEq, exists_eq']

/-- A pool worker reports a rejection exactly when its execution failed. -/
theorem reportsRejection_resourcePoolTaskResult {ε : Type}
    {result : Except (ResourcePoolExecutionError ε) ResourcePoolOutcome} :
    ReportsRejection (resourcePoolTaskResult result) ↔ ∃ error, result = .error error := by
  cases result with
  | ok outcome =>
      simp only [resourcePoolTaskResult, not_reportsRejection_outcomeResult, reduceCtorEq,
        exists_false]
  | error error =>
      simp only [resourcePoolTaskResult, reportsRejection_failureResult, Except.error.injEq,
        exists_eq']

end Scheduler

end Kernmux.Daemon
