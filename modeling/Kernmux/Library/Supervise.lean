import Mathlib.Logic.Function.Iterate
import Mathlib.Tactic.Common

/-!
# Kernmux.Library.Supervise

**Observe, decide, act, observe again.** A supervised action looks at a system,
decides from what it saw whether and how to act, acts, and concludes from a
second look. Everything it touches is behind a `Backend` over one state `σ`, so
the system may do anything between two calls.

`supervise_spec` lists the ways in which such an action can end. The one that
matters for error reports is the *blind* one: the action was taken and nobody
could look afterwards. A backend that, once it has answered, keeps answering
(`Backend.Retains`) rules it out, and then an error says that nothing was done
(`Backend.Retains.history_of_supervise`).
-/

namespace Kernmux.Library

variable {σ ε δ ς ι ρ τ : Type}

/-- What a supervised action needs from its surroundings: `ς` is what a look
shows, `ι` the actions and `ρ` their results. -/
structure Backend (σ ε ς ι ρ : Type) where
  observe : σ → Except ε ς × σ
  act : ι → σ → ρ × σ

/-- One supervised action. -/
def supervise (backend : Backend σ ε ς ι ρ) (unavailable : ε → δ) (decide : ς → Except δ ι)
    (conclude : ς → ι → ρ → ς → τ) (state : σ) : Except δ τ × σ :=
  match backend.observe state with
  | (.error error, seen) => (.error (unavailable error), seen)
  | (.ok before, seen) =>
      match decide before with
      | .error error => (.error error, seen)
      | .ok action =>
          let (outcome, acted) := backend.act action seen
          match backend.observe acted with
          | (.error error, final) => (.error (unavailable error), final)
          | (.ok after, final) => (.ok (conclude before action outcome after), final)

/-! ### How it can end -/

variable (backend : Backend σ ε ς ι ρ) (unavailable : ε → δ) (decide : ς → Except δ ι)
  (conclude : ς → ι → ρ → ς → τ) (state : σ)

/-- The four ends of a supervised action. -/
inductive Supervised : Except δ τ × σ → Prop
  /-- Nothing could be seen. -/
  | unseen {error : ε} {seen : σ} (look : backend.observe state = (.error error, seen)) :
      Supervised (.error (unavailable error), seen)
  /-- What was seen speaks against acting. -/
  | refused {before : ς} {seen : σ} {error : δ} (look : backend.observe state = (.ok before, seen))
      (decision : decide before = .error error) :
      Supervised (.error error, seen)
  /-- The action was taken and its effect could not be seen. -/
  | blind {before : ς} {seen acted final : σ} {action : ι} {outcome : ρ} {error : ε}
      (look : backend.observe state = (.ok before, seen)) (decision : decide before = .ok action)
      (deed : backend.act action seen = (outcome, acted))
      (look' : backend.observe acted = (.error error, final)) :
      Supervised (.error (unavailable error), final)
  /-- The action was taken and judged by a second look. -/
  | concluded {before after : ς} {seen acted final : σ} {action : ι} {outcome : ρ}
      (look : backend.observe state = (.ok before, seen)) (decision : decide before = .ok action)
      (deed : backend.act action seen = (outcome, acted))
      (look' : backend.observe acted = (.ok after, final)) :
      Supervised (.ok (conclude before action outcome after), final)

theorem supervise_spec : Supervised backend unavailable decide conclude state
    (supervise backend unavailable decide conclude state) := by
  rcases hlook : backend.observe state with ⟨error | before, seen⟩
  · rw [supervise, hlook]
    exact .unseen hlook
  · cases hdecide : decide before with
    | error error =>
        simp only [supervise, hlook, hdecide]
        exact .refused hlook hdecide
    | ok action =>
        rcases hdeed : backend.act action seen with ⟨outcome, acted⟩
        rcases hlook' : backend.observe acted with ⟨error | after, final⟩
        · simp only [supervise, hlook, hdecide, hdeed, hlook']
          exact .blind hlook hdecide hdeed hlook'
        · simp only [supervise, hlook, hdecide, hdeed, hlook']
          exact .concluded hlook hdecide hdeed hlook'

variable {backend unavailable decide conclude state}

/-- A result is concluded from two looks and the deed between them. -/
theorem of_supervise_eq_ok {result : τ}
    (h : (supervise backend unavailable decide conclude state).1 = .ok result) :
    ∃ before seen action outcome acted after final,
      backend.observe state = (.ok before, seen) ∧ decide before = .ok action ∧
      backend.act action seen = (outcome, acted) ∧ backend.observe acted = (.ok after, final) ∧
      result = conclude before action outcome after := by
  have hspec := supervise_spec backend unavailable decide conclude state
  generalize supervise backend unavailable decide conclude state = reached at h hspec
  cases hspec with
  | unseen look | refused look decision | blind look decision deed look' => cases h
  | concluded look decision deed look' =>
      exact ⟨_, _, _, _, _, _, _, look, decision, deed, look', (Except.ok.inj h).symm⟩

/-- Two looks and the deed between them make a result. -/
theorem supervise_of_looks {before after : ς} {seen acted final : σ} {action : ι} {outcome : ρ}
    (hlook : backend.observe state = (.ok before, seen)) (hdecide : decide before = .ok action)
    (hdeed : backend.act action seen = (outcome, acted))
    (hlook' : backend.observe acted = (.ok after, final)) :
    (supervise backend unavailable decide conclude state).1 =
      .ok (conclude before action outcome after) := by
  simp only [supervise, hlook, hdecide, hdeed, hlook']

/-- An invariant of supervised actions. A look that succeeds may bring about more than the
invariant (`seen`), and the action may rely on it. -/
theorem supervise_invariant {inv seen : σ → Prop} (hinv : inv state)
    (hunseen : ∀ state error next, inv state → backend.observe state = (.error error, next) →
      inv next)
    (hseen : ∀ state shown next, inv state → backend.observe state = (.ok shown, next) → seen next)
    (hkeep : ∀ state, seen state → inv state)
    (hact : ∀ before reached action, backend.observe state = (.ok before, reached) →
      decide before = .ok action → seen reached → inv (backend.act action reached).2) :
    inv (supervise backend unavailable decide conclude state).2 := by
  have hspec := supervise_spec backend unavailable decide conclude state
  generalize supervise backend unavailable decide conclude state = reached at hspec
  cases hspec with
  | unseen look => exact hunseen _ _ _ hinv look
  | refused look decision => exact hkeep _ (hseen _ _ _ hinv look)
  | blind look decision deed look' =>
      have hacted := hact _ _ _ look decision (hseen _ _ _ hinv look)
      rw [deed] at hacted
      exact hunseen _ _ _ hacted look'
  | concluded look decision deed look' =>
      have hacted := hact _ _ _ look decision (hseen _ _ _ hinv look)
      rw [deed] at hacted
      exact hkeep _ (hseen _ _ _ hacted look')

/-! ### What was done on the way -/

/-- One call of a backend, with its result. -/
inductive Call (ε ς ι ρ : Type)
  | observed (result : Except ε ς)
  | acted (action : ι) (outcome : ρ)

/-- A call that did something. -/
def Call.IsAct : Call ε ς ι ρ → Prop
  | observed _ => False
  | acted _ _ => True

/-- The same backend with a history of the calls made to it. -/
def Backend.traced (backend : Backend σ ε ς ι ρ) : Backend (σ × List (Call ε ς ι ρ)) ε ς ι ρ where
  observe state :=
    let (result, next) := backend.observe state.1
    (result, next, state.2 ++ [.observed result])
  act action state :=
    let (outcome, next) := backend.act action state.1
    (outcome, next, state.2 ++ [.acted action outcome])

theorem Backend.traced_observe (history : List (Call ε ς ι ρ)) :
    backend.traced.observe (state, history) = ((backend.observe state).1, (backend.observe state).2,
        history ++ [.observed (backend.observe state).1]) := rfl

theorem Backend.traced_act (action : ι) (history : List (Call ε ς ι ρ)) :
    backend.traced.act action (state, history) =
      ((backend.act action state).1, (backend.act action state).2,
        history ++ [.acted action (backend.act action state).1]) := rfl

/-- Keeping a history changes neither the result nor the state. -/
theorem supervise_traced (history : List (Call ε ς ι ρ)) :
    let reached := supervise backend.traced unavailable decide conclude (state, history)
    (reached.1, reached.2.1) = supervise backend unavailable decide conclude state := by
  rcases hlook : backend.observe state with ⟨error | before, seen⟩
  · simp only [supervise, Backend.traced_observe, hlook]
  · cases hdecide : decide before with
    | error error => simp only [supervise, Backend.traced_observe, hlook, hdecide]
    | ok action =>
        rcases hdeed : backend.act action seen with ⟨outcome, acted⟩
        rcases hlook' : backend.observe acted with ⟨error | after, final⟩ <;>
          simp only [supervise, Backend.traced_observe, Backend.traced_act, hlook, hdecide, hdeed,
            hlook']

/-- Once the backend has answered it is in a `good` state, where it answers again;
acting does not leave these states. -/
structure Backend.Retains (backend : Backend σ ε ς ι ρ) (good : σ → Prop) : Prop where
  observe_good : ∀ state shown next, backend.observe state = (.ok shown, next) → good next
  good_observe : ∀ state, good state → ∃ shown next, backend.observe state = (.ok shown, next)
  act_good : ∀ action state, good state → good (backend.act action state).2

variable (decide conclude) in
/-- What a history and a result of a supervised action say about each other. -/
inductive History : Except δ τ → List (Call ε ς ι ρ) → Prop
  /-- An error: one look and no action. -/
  | rejected (error : δ) (look : Except ε ς) : History (.error error) [.observed look]
  /-- A result: the action was decided on what the first look showed, and the result is
  concluded from the second. -/
  | performed {before : ς} {action : ι} (outcome : ρ) (after : ς)
      (decision : decide before = .ok action) :
      History (.ok (conclude before action outcome after))
        [.observed (.ok before), .acted action outcome, .observed (.ok after)]

/-- With a backend that keeps answering no supervised action ends blind. -/
theorem Backend.Retains.history_of_supervise {good : σ → Prop} (h : backend.Retains good) :
    let reached := supervise backend.traced unavailable decide conclude (state, [])
    History decide conclude reached.1 reached.2.2 := by
  rcases hlook : backend.observe state with ⟨error | before, seen⟩
  · simp only [supervise, Backend.traced_observe, hlook, List.nil_append]
    exact .rejected _ _
  · cases hdecide : decide before with
    | error error =>
        simp only [supervise, Backend.traced_observe, hlook, hdecide, List.nil_append]
        exact .rejected _ _
    | ok action =>
        have hgood := h.act_good action seen (h.observe_good state before seen hlook)
        obtain ⟨after, final, hlook'⟩ := h.good_observe _ hgood
        simp only [supervise, Backend.traced_observe, Backend.traced_act, hlook, hdecide, hlook',
          List.nil_append, List.cons_append]
        exact .performed _ after hdecide

/-- In such a history an error stands for no action at all. -/
theorem History.error_iff {result : Except δ τ} {calls : List (Call ε ς ι ρ)}
    (h : History decide conclude result calls) :
    (∃ error, result = .error error) ↔ ∀ call ∈ calls, ¬ call.IsAct := by
  cases h with
  | rejected error look | performed outcome after decision => simp [Call.IsAct]

/-! ### One call at a time -/

/-- How far a supervised action has come. -/
inductive Progress (δ ς ι ρ τ : Type)
  | begun
  | seen (before : ς)
  | decided (before : ς) (action : ι)
  | acted (before : ς) (action : ι) (outcome : ρ)
  | ended (result : Except δ τ)
  deriving DecidableEq

/-- The next step of a supervised action. Others may use the backend between two steps. -/
def resume (backend : Backend σ ε ς ι ρ) (unavailable : ε → δ) (decide : ς → Except δ ι)
    (conclude : ς → ι → ρ → ς → τ) : Progress δ ς ι ρ τ × σ → Progress δ ς ι ρ τ × σ
  | (.begun, state) =>
      match backend.observe state with
      | (.error error, next) => (.ended (.error (unavailable error)), next)
      | (.ok before, next) => (.seen before, next)
  | (.seen before, state) =>
      match decide before with
      | .error error => (.ended (.error error), state)
      | .ok action => (.decided before action, state)
  | (.decided before action, state) =>
      let (outcome, next) := backend.act action state
      (.acted before action outcome, next)
  | (.acted before action outcome, state) =>
      match backend.observe state with
      | (.error error, next) => (.ended (.error (unavailable error)), next)
      | (.ok after, next) => (.ended (.ok (conclude before action outcome after)), next)
  | (.ended result, state) => (.ended result, state)

/-- What a supervised action has seen and is still to act on. -/
def Progress.reliesOn : Progress δ ς ι ρ τ → Option ς
  | seen before | decided before _ => some before
  | _ => none

/-- The next step of a supervised action is to act. -/
def Progress.isDecided : Progress δ ς ι ρ τ → Bool
  | decided _ _ => true
  | _ => false

/-- The action has been taken and is still to be judged. -/
def Progress.isActed : Progress δ ς ι ρ τ → Bool
  | acted _ _ _ => true
  | _ => false

/-- The action has not ended, and since its first look the system is in good states. -/
def Progress.Ready (good : σ → Prop) (state : σ) : Progress δ ς ι ρ τ → Prop
  | begun => True
  | seen _ => good state
  | decided _ _ => good state
  | acted _ _ _ => good state
  | ended _ => False

theorem Progress.Ready.mono {good : σ → Prop} {next : σ} {progress : Progress δ ς ι ρ τ}
    (h : progress.Ready good state) (hgood : good state → good next) :
    progress.Ready good next := by
  cases progress with
  | begun => exact trivial
  | seen before | decided before action | acted before action outcome => exact hgood h
  | ended result => exact h

theorem resume_isActed (progress : Progress δ ς ι ρ τ) :
    (resume backend unavailable decide conclude (progress, state)).1.isActed =
      progress.isDecided := by
  cases progress with
  | begun | seen before | acted before action outcome =>
      simp only [resume]
      split <;> rfl
  | decided before action | ended result => rfl

/-- Where a result comes from. -/
theorem resume_ended_ok {progress : Progress δ ς ι ρ τ} {value : τ}
    (hopen : ∀ result, progress ≠ .ended result)
    (h : (resume backend unavailable decide conclude (progress, state)).1 = .ended (.ok value)) :
    ∃ before action outcome after, progress = .acted before action outcome ∧ backend.observe state =
        (.ok after, (resume backend unavailable decide conclude (progress, state)).2) ∧
      value = conclude before action outcome after := by
  cases progress with
  | begun | seen before =>
      simp only [resume] at h
      split at h <;> cases h
  | decided before action => cases h
  | acted before action outcome =>
      rcases hlook : backend.observe state with ⟨error | after, next⟩
      · simp only [resume, hlook] at h
        cases h
      · simp only [resume, hlook, Progress.ended.injEq, Except.ok.injEq] at h ⊢
        exact ⟨before, action, outcome, after, rfl, rfl, h.symm⟩
  | ended result => exact absurd rfl (hopen result)

/-- With a backend that keeps answering, each step leaves the system good if it was, and the
step after the action comes to a result. -/
theorem Backend.Retains.resume_ready {good : σ → Prop} (h : backend.Retains good)
    {progress : Progress δ ς ι ρ τ} (hready : progress.Ready good state) :
    let reached := resume backend unavailable decide conclude (progress, state)
    (good state → good reached.2) ∧
      (reached.1.Ready good reached.2 ∨ ∃ result, reached.1 = .ended result) ∧
      (progress.isActed = true → ∃ value, reached.1 = .ended (.ok value)) := by
  have hlooks : good state → good (backend.observe state).2 := by
    intro hgood
    obtain ⟨shown, next, hlook⟩ := h.good_observe state hgood
    rw [hlook]
    exact h.observe_good state shown next hlook
  cases progress with
  | begun =>
      rcases hlook : backend.observe state with ⟨error | before, next⟩
      · rw [hlook] at hlooks
        simp only [resume, hlook]
        exact ⟨hlooks, .inr ⟨_, rfl⟩, nofun⟩
      · simp only [resume, hlook]
        have hgood := h.observe_good state before next hlook
        exact ⟨fun _ => hgood, .inl hgood, nofun⟩
  | seen before =>
      cases hdecide : decide before with
      | error error =>
          simp only [resume, hdecide]
          exact ⟨id, .inr ⟨_, rfl⟩, nofun⟩
      | ok action =>
          simp only [resume, hdecide]
          exact ⟨id, .inl hready, nofun⟩
  | decided before action =>
      have hgood := h.act_good action state hready
      exact ⟨fun _ => hgood, .inl hgood, nofun⟩
  | acted before action outcome =>
      obtain ⟨after, next, hlook⟩ := h.good_observe state hready
      rw [hlook] at hlooks
      simp only [resume, hlook]
      exact ⟨hlooks, .inr ⟨_, rfl⟩, fun _ => ⟨_, rfl⟩⟩
  | ended result => cases hready

/-- Four steps that nobody disturbs are a supervised action. -/
theorem resume_supervise : (resume backend unavailable decide conclude)^[4] (.begun, state) =
      (.ended (supervise backend unavailable decide conclude state).1,
        (supervise backend unavailable decide conclude state).2) := by
  simp only [Function.iterate_succ, Function.iterate_zero, Function.comp_apply, id_eq, resume,
    supervise]
  rcases hlook : backend.observe state with ⟨error | before, seen⟩
  · rfl
  · cases hdecide : decide before with
    | error error => simp only [hdecide]
    | ok action =>
        rcases hdeed : backend.act action seen with ⟨outcome, acted⟩
        rcases hlook' : backend.observe acted with ⟨error | after, final⟩ <;>
          simp only [hdecide, hdeed, hlook']

end Kernmux.Library
