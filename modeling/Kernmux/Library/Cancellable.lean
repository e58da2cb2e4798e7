import Mathlib.Tactic.Common

/-!
# Kernmux.Library.Cancellable

**Programs that can be called off at their checks.** A program takes and
releases mutexes, performs actions and looks, at its checks, at a flag that
anybody may set at any time. An action of kind `k` goes through stages `S k`
and ends with an answer `A k`, on which the rest of the program depends.

What can be said of a program is said of its syntax and kept by its steps:

* it `Yields` results with a property, as long as its actions answer as
  expected;
* it `Honours` the flag when, from here on, it performs no decisive action
  before its next check, so that setting the flag settles how it ends;
  `HonoursUntil m` says so of every point up to the moment at which the mutex
  `m` is acquired;
* it is `AtLast` when nothing can call it off or hold it up any more, and it
  `Decides` when each of its decisive actions brings it there.
-/

namespace Kernmux.Library

/-- A cancellable program with results `ρ`. -/
inductive Program (μ : Type) {K : Type} (S A : K → Type) (ρ : Type) : Type
  | done (result : ρ)
  | check (next : Program μ S A ρ)
  | lock (mutex : μ) (next : Program μ S A ρ)
  | unlock (mutex : μ) (next : Program μ S A ρ)
  | act (kind : K) (stage : S kind) (next : A kind → Program μ S A ρ)

namespace Program

variable {μ K : Type} {S A : K → Type} {ρ : Type} {goes : (kind : K) → S kind → S kind → Prop}
  {answers : (kind : K) → S kind → A kind → Prop} {flag : Bool} {turned : ρ}

variable (goes answers flag turned) in
/-- One step of a program while the flag is as given; `turned` is the result of a check that
finds it set. The relations `goes` and `answers` say what an action may come to in this step. -/
inductive Step : Program μ S A ρ → Program μ S A ρ → Prop
  | passed (next : Program μ S A ρ) (hflag : flag = false) : Step (.check next) next
  | turnedAway (next : Program μ S A ρ) (hflag : flag = true) : Step (.check next) (.done turned)
  | locked (mutex : μ) (next : Program μ S A ρ) : Step (.lock mutex next) next
  | unlocked (mutex : μ) (next : Program μ S A ρ) : Step (.unlock mutex next) next
  | continued (kind : K) (stage later : S kind) (next : A kind → Program μ S A ρ)
      (hgoes : goes kind stage later) : Step (.act kind stage next) (.act kind later next)
  | answered (kind : K) (stage : S kind) (answer : A kind) (next : A kind → Program μ S A ρ)
      (hanswers : answers kind stage answer) : Step (.act kind stage next) (next answer)

/-! ### Results -/

/-- Every action begins in a stage that is ready, and if every action answers as expected, every
result without a cancellation satisfies `post`. -/
def Yields (ready : (kind : K) → S kind → Prop) (expected : (kind : K) → A kind → Prop)
    (post : ρ → Prop) : Program μ S A ρ → Prop
  | .done result => post result
  | .check next => next.Yields ready expected post
  | .lock _ next => next.Yields ready expected post
  | .unlock _ next => next.Yields ready expected post
  | .act kind stage next =>
      ready kind stage ∧ ∀ answer, expected kind answer → (next answer).Yields ready expected post

section Results

variable {ready ready' : (kind : K) → S kind → Prop} {expected : (kind : K) → A kind → Prop}
  {post : ρ → Prop} {program next : Program μ S A ρ}

theorem Yields.mono (h : program.Yields ready expected post)
    (hready : ∀ kind stage, ready kind stage → ready' kind stage) :
    program.Yields ready' expected post := by
  induction program with
  | done result => exact h
  | check next ih | lock mutex next ih | unlock mutex next ih => exact ih h
  | act kind stage next ih =>
      exact ⟨hready kind stage h.1, fun answer hanswer => ih answer (h.2 answer hanswer)⟩

theorem Yields.step (h : program.Yields ready expected post) (hturned : post turned)
    (hstep : Step goes answers flag turned program next)
    (hgoes : ∀ kind stage later, ready kind stage → goes kind stage later → ready' kind later)
    (hanswers : ∀ kind stage answer, ready kind stage → answers kind stage answer →
      expected kind answer)
    (hready : ∀ kind stage, ready kind stage → ready' kind stage) :
    next.Yields ready' expected post := by
  cases hstep with
  | passed next hflag | locked mutex next | unlocked mutex next => exact Yields.mono h hready
  | turnedAway next hflag => exact hturned
  | continued kind stage later next hlater =>
      refine ⟨hgoes kind stage later h.1 hlater, fun answer hanswer => ?_⟩
      exact (h.2 answer hanswer).mono hready
  | answered kind stage answer next hanswer =>
      exact (h.2 answer (hanswers kind stage answer h.1 hanswer)).mono hready

end Results

/-! ### Honouring the flag -/

/-- Before its next check the program performs no decisive action, and if there is no further
check its result is an allowed one. -/
def Honours (decisive : K → Prop) (allowed : ρ → Prop) : Program μ S A ρ → Prop
  | .done result => allowed result
  | .check _ => True
  | .lock _ next => next.Honours decisive allowed
  | .unlock _ next => next.Honours decisive allowed
  | .act kind _ next => ¬ decisive kind ∧ ∀ answer, (next answer).Honours decisive allowed

/-- The program honours the flag at each of its points until it acquires `mutex`. -/
def HonoursUntil (decisive : K → Prop) (allowed : ρ → Prop) (mutex : μ) : Program μ S A ρ → Prop
  | .done result => allowed result
  | .check next => next.HonoursUntil decisive allowed mutex
  | .lock other next =>
      next.Honours decisive allowed ∧ (other = mutex ∨ next.HonoursUntil decisive allowed mutex)
  | .unlock _ next => next.HonoursUntil decisive allowed mutex
  | .act kind _ next =>
      ¬ decisive kind ∧ ∀ answer, (next answer).HonoursUntil decisive allowed mutex

variable {decisive : K → Prop} {allowed allowed' : ρ → Prop} {program next : Program μ S A ρ}

theorem Honours.mono (h : program.Honours decisive allowed)
    (hallowed : ∀ result, allowed result → allowed' result) :
    program.Honours decisive allowed' := by
  induction program with
  | done result => exact hallowed result h
  | check next _ => exact trivial
  | lock mutex next ih | unlock mutex next ih => exact ih h
  | act kind stage next ih => exact ⟨h.1, fun answer => ih answer (h.2 answer)⟩

theorem HonoursUntil.mono {mutex : μ} (h : program.HonoursUntil decisive allowed mutex)
    (hallowed : ∀ result, allowed result → allowed' result) :
    program.HonoursUntil decisive allowed' mutex := by
  induction program with
  | done result => exact hallowed result h
  | check next ih | unlock other next ih => exact ih h
  | lock other next ih => exact ⟨h.1.mono hallowed, h.2.imp_right ih⟩
  | act kind stage next ih => exact ⟨h.1, fun answer => ih answer (h.2 answer)⟩

/-- Once the flag is set, a program that honours it goes on doing so. -/
theorem Honours.step (h : program.Honours decisive allowed) (hturned : allowed turned)
    (hstep : Step goes answers true turned program next) : next.Honours decisive allowed := by
  cases hstep with
  | passed next hflag => cases hflag
  | turnedAway next hflag => exact hturned
  | locked mutex next | unlocked mutex next | continued kind stage later next hlater => exact h
  | answered kind stage answer next hanswer => exact h.2 answer

theorem HonoursUntil.honours {mutex : μ} (h : program.HonoursUntil decisive allowed mutex) :
    program.Honours decisive allowed := by
  induction program with
  | done result => exact h
  | check next _ => exact trivial
  | lock other next _ => exact h.1
  | unlock other next ih => exact ih h
  | act kind stage next ih => exact ⟨h.1, fun answer => ih answer (h.2 answer)⟩

/-- Only the step that acquires the mutex leaves the points that honour the flag. -/
theorem HonoursUntil.step {mutex : μ}
    (h : program.HonoursUntil decisive allowed mutex) (hturned : allowed turned)
    (hstep : Step goes answers flag turned program next) (hfree : program ≠ .lock mutex next) :
    next.HonoursUntil decisive allowed mutex := by
  cases hstep with
  | passed next hflag | unlocked other next | continued kind stage later next hlater => exact h
  | turnedAway next hflag => exact hturned
  | locked other next =>
      rcases h.2 with hother | hnext
      · rw [hother] at hfree
        exact absurd rfl hfree
      · exact hnext
  | answered kind stage answer next hanswer => exact h.2 answer

/-! ### Last actions -/

/-- The program is over with a result that satisfies `post`, or performs its last action, after
which it will be so. -/
def AtLast (expected : (kind : K) → A kind → Prop) (post : ρ → Prop) : Program μ S A ρ → Prop
  | .done result => post result
  | .act kind _ next =>
      ∀ answer, expected kind answer → ∃ result, next answer = .done result ∧ post result
  | .check _ => False
  | .lock _ _ => False
  | .unlock _ _ => False

/-- Each decisive action is the last one. -/
def Decides (decisive : K → Prop) (expected : (kind : K) → A kind → Prop) (post : ρ → Prop) :
    Program μ S A ρ → Prop
  | .done _ => True
  | .check next => next.Decides decisive expected post
  | .lock _ next => next.Decides decisive expected post
  | .unlock _ next => next.Decides decisive expected post
  | .act kind stage next =>
      (decisive kind → (act kind stage next).AtLast expected post) ∧
        ∀ answer, (next answer).Decides decisive expected post

section Last

variable {expected : (kind : K) → A kind → Prop} {post : ρ → Prop}

theorem AtLast.step (h : program.AtLast expected post)
    (hstep : Step goes answers flag turned program next)
    (hanswers : ∀ kind stage rest answer, program = .act kind stage rest →
      answers kind stage answer → expected kind answer) :
    next.AtLast expected post := by
  cases hstep with
  | passed next hflag | turnedAway next hflag | locked mutex next | unlocked mutex next => cases h
  | continued kind stage later next hlater => exact h
  | answered kind stage answer next hanswer =>
      obtain ⟨result, hresult, hpost⟩ := h answer (hanswers kind stage next answer rfl hanswer)
      rw [hresult]
      exact hpost

theorem Decides.step (h : program.Decides decisive expected post)
    (hstep : Step goes answers flag turned program next) :
    next.Decides decisive expected post := by
  cases hstep with
  | passed next hflag | locked mutex next | unlocked mutex next
  | continued kind stage later next hlater => exact h
  | turnedAway next hflag => exact trivial
  | answered kind stage answer next hanswer => exact h.2 answer

end Last

end Program

end Kernmux.Library
