import Mathlib.Tactic.Common

/-!
# Kernmux.Library.Transition

**Runs of a machine whose steps may be impossible.** A machine is a partial
step function on states `σ` and labels `ℓ`; a run is a list of labels, carried
out from left to right. A run is `Guarded` when each of its steps meets a
condition on the state before it. Since every beginning of a guarded run is
one, what holds after every guarded run holds in every state such a run passes
through.
-/

namespace Kernmux.Library

variable {σ ℓ : Type*} {step : σ → ℓ → Option σ} {guard : σ → ℓ → Prop}

/-- Carry out labels from left to right. -/
def run (step : σ → ℓ → Option σ) : σ → List ℓ → Option σ
  | state, [] => some state
  | state, label :: labels =>
      match step state label with
      | some next => run step next labels
      | none => none

/-- Every step is taken in a state where its guard holds. -/
def Guarded (step : σ → ℓ → Option σ) (guard : σ → ℓ → Prop) : σ → List ℓ → Prop
  | _, [] => True
  | state, label :: labels =>
      guard state label ∧ ∀ next, step state label = some next → Guarded step guard next labels

instance Guarded.decidable [∀ state label, Decidable (guard state label)] :
    ∀ state labels, Decidable (Guarded step guard state labels)
  | _, [] => .isTrue trivial
  | state, label :: labels =>
      match h : step state label with
      | none => decidable_of_iff (guard state label) (by simp [Guarded, h])
      | some next =>
          have := Guarded.decidable next labels
          decidable_of_iff (guard state label ∧ Guarded step guard next labels)
            (by simp [Guarded, h])

theorem run_cons {state : σ} {label : ℓ} {labels : List ℓ} {reached : σ} :
    run step state (label :: labels) = some reached ↔
      ∃ next, step state label = some next ∧ run step next labels = some reached := by
  rw [run]
  cases step state label with
  | none | some next => simp

/-- What a guarded step preserves holds after every guarded run. -/
theorem run_invariant {inv : σ → Prop}
    (hstep : ∀ state label next, inv state → guard state label →
      step state label = some next → inv next) :
    ∀ {labels : List ℓ} {state reached : σ}, inv state → Guarded step guard state labels →
      run step state labels = some reached → inv reached
  | [], _, _, hinv, _, hrun => Option.some.inj hrun ▸ hinv
  | _ :: _, state, _, hinv, hguard, hrun => by
      obtain ⟨next, hnext, hrun⟩ := run_cons.mp hrun
      exact run_invariant hstep (hstep state _ next hinv hguard.1 hnext) (hguard.2 next hnext) hrun

theorem guarded_true : ∀ (labels : List ℓ) (state : σ), Guarded step (fun _ _ => True) state labels
  | [], _ => trivial
  | _ :: labels, _ => ⟨trivial, fun next _ => guarded_true labels next⟩

/-- What every step preserves holds after every run. -/
theorem run_preserves {inv : σ → Prop}
    (hstep : ∀ state label next, inv state → step state label = some next → inv next)
    {labels : List ℓ} {state reached : σ} (hinv : inv state)
    (hrun : run step state labels = some reached) : inv reached :=
  run_invariant (fun state label next hinv _ hnext => hstep state label next hinv hnext) hinv
    (guarded_true labels state) hrun

/-! ### Long runs -/

theorem run_append {state middle reached : σ} {first second : List ℓ}
    (hfirst : run step state first = some middle) (hsecond : run step middle second = some reached) :
    run step state (first ++ second) = some reached := by
  induction first generalizing state with
  | nil =>
      cases hfirst
      exact hsecond
  | cons label labels ih =>
      obtain ⟨next, hnext, hrest⟩ := run_cons.mp hfirst
      exact run_cons.mpr ⟨next, hnext, ih hrest⟩

/-- A block of labels that can be carried out over and over again. -/
theorem run_repeat {inv : ℕ → σ → Prop} {block : List ℓ}
    (hblock : ∀ n state, inv n state → ∃ next, run step state block = some next ∧ inv (n + 1) next)
    (n : ℕ) {state : σ} (hinv : inv 0 state) :
    ∃ reached, run step state (List.replicate n block).flatten = some reached ∧ inv n reached := by
  induction n with
  | zero => exact ⟨state, rfl, hinv⟩
  | succ n ih =>
      obtain ⟨middle, hmiddle, hinv⟩ := ih
      obtain ⟨reached, hreached, hinv⟩ := hblock n middle hinv
      refine ⟨reached, ?_, hinv⟩
      rw [List.replicate_succ', List.flatten_append, List.flatten_singleton]
      exact run_append hmiddle hreached

/-- Blocks of labels, one for each number, that can be carried out one after the other. -/
theorem run_numbered {inv : ℕ → σ → Prop} {block : ℕ → List ℓ} {state : σ} (hinv : inv 0 state)
    (n : ℕ) (hblock : ∀ k < n, ∀ state, inv k state →
      ∃ next, run step state (block k) = some next ∧ inv (k + 1) next) :
    ∃ reached, run step state ((List.range n).flatMap block) = some reached ∧ inv n reached := by
  induction n with
  | zero => exact ⟨state, rfl, hinv⟩
  | succ n ih =>
      obtain ⟨middle, hmiddle, hinv⟩ := ih fun k hk => hblock k (Nat.lt_succ_of_lt hk)
      obtain ⟨reached, hreached, hinv⟩ := hblock n (Nat.lt_succ_self n) middle hinv
      refine ⟨reached, ?_, hinv⟩
      rw [List.range_succ, List.flatMap_append, List.flatMap_singleton]
      exact run_append hmiddle hreached

end Kernmux.Library
