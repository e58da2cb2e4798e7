import Mathlib.Order.Defs.Unbundled
import Mathlib.Tactic.Common

/-!
# Kernmux.Library.Faulty

**Computations that may fail, or stop for good at any of their steps.** A
computation works on a state `σ`. It ends with a value, with an error, or not
at all: the call it was in never returns, or the process is gone. What it did
to the state until then stays.

`wp` says what holds of the end and of the state that is left, and there is one
rule per combinator. A condition on `stopped` ends is a condition on every state
the computation passes through.
-/

namespace Kernmux.Library

/-- How a computation ends. -/
inductive Ended (ε α : Type*)
  | ok (value : α)
  | error (error : ε)
  | stopped
  deriving DecidableEq, Repr

/-- The computation has ended with a value. -/
def Ended.isOk {ε α : Type*} : Ended ε α → Bool
  | .ok _ => true
  | .error _ | .stopped => false

/-- The value, if the computation has one. -/
def Ended.value? {ε α : Type*} : Ended ε α → Option α
  | .ok value => some value
  | .error _ | .stopped => none

/-- A computation on a state. -/
def Faulty (σ ε α : Type) : Type := σ → Ended ε α × σ

namespace Faulty

variable {σ ε δ α β : Type}

/-- Go on after a value; errors and stops end the computation. -/
def andThen (first : Faulty σ ε α) (next : α → Faulty σ ε β) : Faulty σ ε β := fun state =>
  match first state with
  | (.ok value, reached) => next value reached
  | (.error error, reached) => (.error error, reached)
  | (.stopped, reached) => (.stopped, reached)

instance : Monad (Faulty σ ε) where
  pure value := fun state => (.ok value, state)
  bind := andThen

/-- End with an error. -/
def fail (error : ε) : Faulty σ ε α := fun state => (.error error, state)

/-- Never return. -/
def stop : Faulty σ ε α := fun state => (.stopped, state)

/-- The state. -/
def get : Faulty σ ε σ := fun state => (.ok state, state)

/-- Change the state. -/
def modify (change : σ → σ) : Faulty σ ε Unit := fun state => (.ok (), change state)

/-- An error becomes a value. -/
def attempt (action : Faulty σ ε α) : Faulty σ δ (Except ε α) := fun state =>
  match action state with
  | (.ok value, reached) => (.ok (.ok value), reached)
  | (.error error, reached) => (.ok (.error error), reached)
  | (.stopped, reached) => (.stopped, reached)

/-- An error becomes another one. -/
def mapError (change : ε → δ) (action : Faulty σ ε α) : Faulty σ δ α := fun state =>
  match action state with
  | (.ok value, reached) => (.ok value, reached)
  | (.error error, reached) => (.error (change error), reached)
  | (.stopped, reached) => (.stopped, reached)

/-- A pure check. -/
def ofExcept : Except ε α → Faulty σ ε α
  | .ok value => pure value
  | .error error => fail error

/-! ### Weakest preconditions -/

/-- `post` holds of the end and of the state that is left. -/
def wp (action : Faulty σ ε α) (post : Ended ε α → σ → Prop) (state : σ) : Prop :=
  post (action state).1 (action state).2

variable {action : Faulty σ ε α} {first : Faulty σ ε β} {next : β → Faulty σ ε α}
  {post mid : Ended ε α → σ → Prop} {state : σ}

theorem wp_mono (h : wp action mid state)
    (himp : ∀ ended reached, mid ended reached → post ended reached) : wp action post state :=
  himp _ _ h

theorem wp_and (hmid : wp action mid state) (hpost : wp action post state) :
    wp action (fun ended reached => mid ended reached ∧ post ended reached) state :=
  ⟨hmid, hpost⟩

@[simp] theorem wp_pure {value : α} :
    wp (pure value : Faulty σ ε α) post state ↔ post (.ok value) state := Iff.rfl

@[simp] theorem wp_fail {error : ε} :
    wp (fail error : Faulty σ ε α) post state ↔ post (.error error) state := Iff.rfl

@[simp] theorem wp_stop : wp (stop : Faulty σ ε α) post state ↔ post .stopped state := Iff.rfl

@[simp] theorem wp_get {post : Ended ε σ → σ → Prop} :
    wp (get : Faulty σ ε σ) post state ↔ post (.ok state) state := Iff.rfl

@[simp] theorem wp_modify {change : σ → σ} {post : Ended ε Unit → σ → Prop} :
    wp (modify change : Faulty σ ε Unit) post state ↔ post (.ok ()) (change state) := Iff.rfl

/-- Sequencing: what the first part may leave behind is enough for the second part, or for
the end. -/
theorem wp_bind {mid : Ended ε β → σ → Prop} (hfirst : wp first mid state)
    (hok : ∀ value reached, mid (.ok value) reached → wp (next value) post reached)
    (herror : ∀ error reached, mid (.error error) reached → post (.error error) reached)
    (hstopped : ∀ reached, mid .stopped reached → post .stopped reached) :
    wp (first >>= next) post state := by
  show post (andThen first next state).1 (andThen first next state).2
  unfold wp at hfirst
  unfold andThen
  rcases hcase : first state with ⟨ended, reached⟩
  rw [hcase] at hfirst
  cases ended with
  | ok value => exact hok value reached hfirst
  | error error => exact herror error reached hfirst
  | stopped => exact hstopped reached hfirst

theorem wp_get_bind {next : σ → Faulty σ ε α} :
    wp (get >>= next) post state ↔ wp (next state) post state := Iff.rfl

/-- Go on after an attempt, whether or not it has failed. -/
theorem wp_attempt_bind {action : Faulty σ δ β} {next : Except δ β → Faulty σ ε α}
    {mid : Ended δ β → σ → Prop} (h : wp action mid state)
    (hok : ∀ value reached, mid (.ok value) reached → wp (next (.ok value)) post reached)
    (herror : ∀ error reached, mid (.error error) reached → wp (next (.error error)) post reached)
    (hstopped : ∀ reached, mid .stopped reached → post .stopped reached) :
    wp (attempt action >>= next) post state := by
  show post (andThen (attempt action) next state).1 (andThen (attempt action) next state).2
  unfold wp at h
  unfold andThen attempt
  rcases hcase : action state with ⟨ended, reached⟩
  rw [hcase] at h
  cases ended with
  | ok value => exact hok value reached h
  | error error => exact herror error reached h
  | stopped => exact hstopped reached h

theorem wp_mapError {change : ε → δ} {action : Faulty σ ε β} {mid : Ended ε β → σ → Prop}
    {post : Ended δ β → σ → Prop} (h : wp action mid state)
    (hok : ∀ value reached, mid (.ok value) reached → post (.ok value) reached)
    (herror : ∀ error reached, mid (.error error) reached → post (.error (change error)) reached)
    (hstopped : ∀ reached, mid .stopped reached → post .stopped reached) :
    wp (mapError change action) post state := by
  unfold wp at h ⊢
  unfold mapError
  rcases hcase : action state with ⟨ended, reached⟩
  rw [hcase] at h
  cases ended with
  | ok value => exact hok value reached h
  | error error => exact herror error reached h
  | stopped => exact hstopped reached h

theorem wp_ofExcept {result : Except ε α}
    (hok : ∀ value, result = .ok value → post (.ok value) state)
    (herror : ∀ error, result = .error error → post (.error error) state) :
    wp (ofExcept result) post state := by
  cases result with
  | ok value => exact hok value rfl
  | error error => exact herror error rfl

/-! ### What a computation leaves alone -/

/-- The computation does not change what `view` shows of the state. -/
def Keeps (view : σ → δ) (action : Faulty σ ε α) : Prop :=
  ∀ state, view (action state).2 = view state

section Keeps

variable {γ : Type} {view : σ → γ}

theorem Keeps.wp (h : Keeps view action) (state : σ) :
    Faulty.wp action (fun _ reached => view reached = view state) state :=
  h state

theorem keeps_pure (value : α) : Keeps view (pure value : Faulty σ ε α) := fun _ => rfl

theorem keeps_get : Keeps view (get : Faulty σ ε σ) := fun _ => rfl

theorem keeps_fail (error : ε) : Keeps view (fail error : Faulty σ ε α) := fun _ => rfl

theorem Keeps.bind (hfirst : Keeps view first)
    (hnext : ∀ value, Keeps view (next value)) : Keeps view (first >>= next) := by
  intro state
  have hreached := hfirst state
  show view (andThen first next state).2 = view state
  unfold andThen
  rcases hcase : first state with ⟨ended, reached⟩
  rw [hcase] at hreached
  cases ended with
  | ok value => exact (hnext value reached).trans hreached
  | error | stopped => exact hreached

theorem Keeps.attempt (h : Keeps view action) :
    Keeps view (action.attempt : Faulty σ δ (Except ε α)) := by
  intro state
  have hreached := h state
  unfold Faulty.attempt
  rcases hcase : action state with ⟨_ | _ | _, reached⟩
  all_goals rw [hcase] at hreached; exact hreached

end Keeps

/-! ### Computations that end -/

/-- The computation ends with a value or with an error, and its end is a step of `rel`. -/
def EndsWithin (rel : σ → σ → Prop) (action : Faulty σ ε α) : Prop :=
  ∀ state, (action state).1 ≠ .stopped ∧ rel state (action state).2

section EndsWithin

variable {rel : σ → σ → Prop}

theorem endsWithin_pure [Std.Refl rel] (value : α) : EndsWithin rel (pure value : Faulty σ ε α) :=
  fun state => ⟨nofun, Std.Refl.refl state⟩

theorem endsWithin_fail [Std.Refl rel] (error : ε) : EndsWithin rel (fail error : Faulty σ ε α) :=
  fun state => ⟨nofun, Std.Refl.refl state⟩

theorem endsWithin_ofExcept [Std.Refl rel] (result : Except ε α) :
    EndsWithin rel (ofExcept result : Faulty σ ε α) := by
  cases result with
  | ok value => exact endsWithin_pure value
  | error error => exact endsWithin_fail error

theorem EndsWithin.bind [IsTrans σ rel] (hfirst : EndsWithin rel first)
    (hnext : ∀ value, EndsWithin rel (next value)) :
    EndsWithin rel (first >>= next) := by
  intro state
  obtain ⟨hended, hreached⟩ := hfirst state
  show (andThen first next state).1 ≠ .stopped ∧ rel state (andThen first next state).2
  unfold andThen
  rcases hcase : first state with ⟨ended, reached⟩
  rw [hcase] at hended hreached
  cases ended with
  | ok value =>
      obtain ⟨hended, hlast⟩ := hnext value reached
      exact ⟨hended, IsTrans.trans _ _ _ hreached hlast⟩
  | error error => exact ⟨nofun, hreached⟩
  | stopped => exact absurd rfl hended

theorem EndsWithin.mapError (h : EndsWithin rel action) (change : ε → δ) :
    EndsWithin rel (action.mapError change) := by
  intro state
  obtain ⟨hended, hreached⟩ := h state
  unfold Faulty.mapError
  rcases hcase : action state with ⟨ended, reached⟩
  rw [hcase] at hended hreached
  cases ended with
  | ok value | error error => exact ⟨nofun, hreached⟩
  | stopped => exact absurd rfl hended

end EndsWithin

/-! ### What a computation moves along -/

/-- From states with `pre` every end is a step of `rel`, whether it is a value, an error or a
stop; and a value meets `post`. -/
def Steps (rel : σ → σ → Prop) (pre : σ → Prop) (action : Faulty σ ε α) (post : α → σ → Prop) :
    Prop :=
  ∀ state, pre state → wp action
    (fun ended reached => rel state reached ∧ ∀ value, ended = .ok value → post value reached) state

namespace Steps

variable {rel : σ → σ → Prop} {pre : σ → Prop} {post : α → σ → Prop}

theorem mono {weaker : σ → Prop} {stronger : α → σ → Prop} (h : Steps rel weaker action stronger)
    (hpre : ∀ state, pre state → weaker state)
    (hpost : ∀ value state, stronger value state → post value state) :
    Steps rel pre action post := fun state hstate =>
  ⟨(h state (hpre state hstate)).1,
    fun value hvalue => hpost value _ ((h state (hpre state hstate)).2 value hvalue)⟩

/-- What is known of one run that ends with a value. -/
theorem of_ok {state reached : σ} {value : α} (h : Steps rel pre action post) (hpre : pre state)
    (hrun : action state = (.ok value, reached)) :
    rel state reached ∧ post value reached := by
  have hend := h state hpre
  unfold wp at hend
  rw [hrun] at hend
  exact ⟨hend.1, hend.2 value rfl⟩

theorem weaken {wider : σ → σ → Prop} (h : Steps rel pre action post)
    (hwider : ∀ before after, rel before after → wider before after) :
    Steps wider pre action post := fun state hstate =>
  ⟨hwider _ _ (h state hstate).1, (h state hstate).2⟩

/-- Name what a precondition says to exist. -/
theorem of_exists {ι : Type} {pre : ι → σ → Prop} (h : ∀ index, Steps rel (pre index) action post) :
    Steps rel (fun state => ∃ index, pre index state) action post := by
  rintro state ⟨index, hpre⟩
  exact h index state hpre

/-- Name the part of a precondition that is not about the state. -/
theorem of_and {fact : Prop} (h : fact → Steps rel pre action post) :
    Steps rel (fun state => pre state ∧ fact) action post := by
  intro state hstate
  exact h hstate.2 state hstate.1

/-- What every step of `rel` keeps holds afterwards too. -/
theorem frame {kept : σ → Prop} (h : Steps rel pre action post)
    (hkept : ∀ before after, rel before after → kept before → kept after) :
    Steps rel (fun state => pre state ∧ kept state) action
      fun value state => post value state ∧ kept state := fun state hstate =>
  have hend := h state hstate.1
  ⟨hend.1, fun value hvalue => ⟨hend.2 value hvalue, hkept _ _ hend.1 hstate.2⟩⟩

theorem bind [IsTrans σ rel] {mid : β → σ → Prop} (hfirst : Steps rel pre first mid)
    (hnext : ∀ value, Steps rel (mid value) (next value) post) :
    Steps rel pre (first >>= next) post := by
  intro state hstate
  refine wp_bind (hfirst state hstate) ?_ ?_ ?_
  · intro value reached hreached
    have hend := hnext value reached (hreached.2 value rfl)
    exact wp_mono hend fun ended last hlast =>
      ⟨IsTrans.trans _ _ _ hreached.1 hlast.1, hlast.2⟩
  · intro error reached hreached
    exact ⟨hreached.1, nofun⟩
  · intro reached hreached
    exact ⟨hreached.1, nofun⟩

theorem pure [Std.Refl rel] {value : α} (h : ∀ state, pre state → post value state) :
    Steps rel pre (Pure.pure value : Faulty σ ε α) post := fun state hstate =>
  ⟨Std.Refl.refl state, fun _ hvalue => Ended.ok.inj hvalue ▸ h state hstate⟩

theorem fail [Std.Refl rel] (error : ε) : Steps rel pre (Faulty.fail error : Faulty σ ε α) post :=
  fun state _ => ⟨Std.Refl.refl state, nofun⟩

theorem ofExcept [Std.Refl rel] {result : Except ε α}
    (h : ∀ value state, result = .ok value → pre state → post value state) :
    Steps rel pre (Faulty.ofExcept result) post := by
  cases result with
  | ok value => exact Steps.pure fun state hstate => h value state rfl hstate
  | error error => exact Steps.fail error

theorem stop [Std.Refl rel] : Steps rel pre (Faulty.stop : Faulty σ ε α) post :=
  fun state _ => ⟨Std.Refl.refl state, nofun⟩

/-- Go on after a pure check with what it has shown. -/
theorem ofExcept_bind [Std.Refl rel] {result : Except ε β}
    (h : ∀ value, result = .ok value → Steps rel pre (next value) post) :
    Steps rel pre (Faulty.ofExcept result >>= next) post := by
  cases result with
  | ok value => exact h value rfl
  | error error => exact Steps.fail error

theorem mapError (h : Steps rel pre action post) (change : ε → δ) :
    Steps rel pre (action.mapError change) post := by
  intro state hstate
  refine wp_mapError (h state hstate) ?_ ?_ ?_
  · intro value reached hreached
    refine ⟨hreached.1, fun other hother => ?_⟩
    obtain rfl := Ended.ok.inj hother
    exact hreached.2 value rfl
  · intro error reached hreached
    exact ⟨hreached.1, nofun⟩
  · intro reached hreached
    exact ⟨hreached.1, nofun⟩

/-- After an attempt its value still meets `post`; of a failure nothing is known but that it
was a step. -/
theorem attempt (h : Steps rel pre action post) :
    Steps rel pre (action.attempt : Faulty σ δ (Except ε α))
      fun outcome state => ∀ value, outcome = .ok value → post value state := by
  intro state hstate
  have hend := h state hstate
  unfold wp at hend ⊢
  unfold Faulty.attempt
  rcases hcase : action state with ⟨ended, reached⟩
  rw [hcase] at hend
  refine ⟨?_, fun outcome houtcome value hvalue => ?_⟩
  · cases ended <;> exact hend.1
  · subst hvalue
    cases ended with
    | ok result =>
        obtain rfl := Except.ok.inj (Ended.ok.inj houtcome)
        exact hend.2 result rfl
    | error error => cases Ended.ok.inj houtcome
    | stopped => cases houtcome

end Steps

/-! ### Properties that sequencing keeps -/

variable {value : α} {reached : σ} {error : ε} {result : Except ε β} {change : ε → δ}

theorem bind_of_ok {value : β}
    (h : first state = (.ok value, reached)) : (first >>= next) state = next value reached := by
  show andThen first next state = next value reached
  rw [andThen, h]

/-- A sequence has a value when both parts have one. -/
theorem bind_eq_ok : (first >>= next) state = (.ok value, reached) ↔
      ∃ mid between, first state = (.ok mid, between) ∧ next mid between = (.ok value, reached) := by
  constructor
  · intro h
    have hrun : andThen first next state = (.ok value, reached) := h
    unfold andThen at hrun
    rcases hfirst : first state with ⟨ended, between⟩
    rw [hfirst] at hrun
    cases ended with
    | ok mid => exact ⟨mid, between, rfl, hrun⟩
    | error error | stopped => cases hrun
  · intro ⟨mid, between, hfirst, hnext⟩
    rw [bind_of_ok hfirst, hnext]

theorem ofExcept_eq_ok {result : Except ε α} :
    ofExcept result state = (.ok value, reached) ↔ result = .ok value ∧ reached = state := by
  cases result with
  | ok found =>
      show ((.ok found, state) : Ended ε α × σ) = _ ↔ _
      rw [Prod.mk.injEq, Ended.ok.injEq, Except.ok.injEq, eq_comm (a := state)]
  | error error =>
      show ((.error error, state) : Ended ε α × σ) = _ ↔ _
      simp

theorem ofExcept_bind_eq_ok : (ofExcept result >>= next) state = (.ok value, reached) ↔
      ∃ mid, result = .ok mid ∧ next mid state = (.ok value, reached) := by
  cases result with
  | ok mid =>
      refine ⟨fun h => ⟨mid, rfl, h⟩, ?_⟩
      intro ⟨found, hfound, hnext⟩
      cases hfound
      exact hnext
  | error error =>
      refine ⟨fun h => ?_, ?_⟩
      · cases h
      · intro ⟨found, hfound, _⟩
        cases hfound

theorem mapError_of_ok (h : action state = (.ok value, reached)) :
    action.mapError change state = (.ok value, reached) := by
  rw [mapError, h]

@[simp] theorem mapError_eq_ok :
    action.mapError change state = (.ok value, reached) ↔ action state = (.ok value, reached) := by
  unfold mapError
  rcases action state with ⟨_ | _ | _, between⟩ <;> simp

theorem attempt_of_ok (h : action state = (.ok value, reached)) :
    (action.attempt : Faulty σ δ (Except ε α)) state = (.ok (.ok value), reached) := by
  rw [attempt, h]

theorem attempt_of_error (h : action state = (.error error, reached)) :
    (action.attempt : Faulty σ δ (Except ε α)) state = (.ok (.error error), reached) := by
  rw [attempt, h]

theorem bind_of_error (h : first state = (.error error, reached)) :
    (first >>= next) state = (.error error, reached) := by
  show andThen first next state = _
  rw [andThen, h]

theorem mapError_of_error (h : action state = (.error error, reached)) :
    action.mapError change state = (.error (change error), reached) := by
  rw [mapError, h]

theorem ofExcept_bind_of_ok {value : β}
    (h : result = .ok value) : (ofExcept result >>= next) state = next value state := by
  subst h
  rfl

theorem ofExcept_bind_of_error
    (h : result = .error error) : (ofExcept result >>= next) state = (.error error, state) := by
  subst h
  rfl

end Faulty

end Kernmux.Library
