import Mathlib.Tactic.Common

/-!
# Kernmux.Library.Result

**Fallible checks in sequence.** A validator is a list of guards, each of which
either lets the computation go on or ends it with an error. The combinators
here are the guards (`rejectIf`, `rejectSome`, `okOr`, `checkEach`) and the one
change of error type (`mapErr`); the lemmas say when each of them succeeds, so
that an accepted request yields one fact per guard and no validator is ever
unfolded twice.
-/

namespace Kernmux.Library

variable {α β ε δ : Type}

/-- End with `error` when `bad` holds. -/
def rejectIf (bad : Prop) [Decidable bad] (error : ε) : Except ε Unit :=
  if bad then .error error else .ok ()

/-- End with the error of an offending item, when there is one. -/
def rejectSome (found : Option α) (error : α → ε) : Except ε Unit :=
  match found with
  | some item => .error (error item)
  | none => .ok ()

/-- The value of an option, or `error`. -/
def okOr (value : Option α) (error : ε) : Except ε α :=
  match value with
  | some item => .ok item
  | none => .error error

/-- Run a check on every item in order, ending at the first failure. -/
def checkEach : List α → (α → Except ε Unit) → Except ε Unit
  | [], _ => .ok ()
  | item :: rest, check => (check item).bind fun _ => checkEach rest check

/-- Collect what a fallible function makes of every item, ending at the first failure. -/
def collectEach : List α → (α → Except ε β) → Except ε (List β)
  | [], _ => .ok []
  | item :: rest, visit => do
      let value ← visit item
      let values ← collectEach rest visit
      return value :: values

/-- Change the type of the error. -/
def mapErr (wrap : ε → δ) : Except ε α → Except δ α
  | .ok value => .ok value
  | .error error => .error (wrap error)

/-! ### When a check succeeds -/

/-- A sequence succeeds exactly when its first part does and the rest does with
the value of the first. -/
theorem bind_eq_ok {first : Except ε α} {next : α → Except ε β} {result : β} :
    (first >>= next) = .ok result ↔ ∃ value, first = .ok value ∧ next value = .ok result := by
  cases first with
  | error error =>
      constructor
      · intro h
        exact absurd h (by simp [bind, Except.bind])
      · intro h
        obtain ⟨value, h, -⟩ := h
        cases h
  | ok value =>
      constructor
      · intro h
        exact ⟨value, rfl, h⟩
      · intro h
        obtain ⟨value', h, hnext⟩ := h
        cases h
        exact hnext

/-- A guard in front of a computation: both succeed. -/
theorem guard_eq_ok {guard : Except ε Unit} {next : Unit → Except ε β} {result : β} :
    (guard >>= next) = .ok result ↔ guard = .ok () ∧ next () = .ok result := by
  cases guard with
  | error error | ok value => simp [bind, Except.bind]

theorem pure_eq_ok {value result : α} : (pure value : Except ε α) = .ok result ↔ value = result :=
  ⟨fun h => Except.ok.inj h, fun h => congrArg Except.ok h⟩

@[simp] theorem rejectIf_eq_ok {bad : Prop} [Decidable bad] {error : ε} :
    rejectIf bad error = .ok () ↔ ¬ bad := by
  unfold rejectIf
  split <;> simp [*]

theorem rejectIf_of {bad : Prop} [Decidable bad] {error : ε} (h : bad) :
    rejectIf bad error = .error error := if_pos h

@[simp] theorem rejectSome_eq_ok {found : Option α} {error : α → ε} :
    rejectSome found error = .ok () ↔ found = none := by
  cases found <;> simp [rejectSome]

@[simp] theorem okOr_eq_ok {value : Option α} {error : ε} {result : α} :
    okOr value error = .ok result ↔ value = some result := by
  cases value <;> simp [okOr]

@[simp] theorem mapErr_eq_ok {wrap : ε → δ} {value : Except ε α} {result : α} :
    mapErr wrap value = .ok result ↔ value = .ok result := by
  cases value <;> simp [mapErr]

/-- All checks of a loop succeed exactly when each of them does. -/
@[simp] theorem checkEach_eq_ok {items : List α} {check : α → Except ε Unit} :
    checkEach items check = .ok () ↔ ∀ item ∈ items, check item = .ok () := by
  induction items with
  | nil => simp [checkEach]
  | cons item rest ih =>
      have hbind : checkEach (item :: rest) check = (check item >>= fun _ => checkEach rest check) :=
        rfl
      rw [hbind, guard_eq_ok, ih]
      simp

theorem collectEach_eq_ok {items : List α} {visit : α → Except ε β} {values : List β} :
    collectEach items visit = .ok values ↔
      List.Forall₂ (fun item value => visit item = .ok value) items values := by
  induction items generalizing values with
  | nil =>
      constructor
      · intro h
        cases h
        exact .nil
      · intro h
        cases h
        rfl
  | cons item rest ih =>
      simp only [collectEach, bind_eq_ok, pure_eq_ok, ih]
      constructor
      · intro h
        obtain ⟨value, hvalue, others, hothers, rfl⟩ := h
        exact .cons hvalue hothers
      · intro h
        cases h with
        | cons hvalue hothers => exact ⟨_, hvalue, _, hothers, rfl⟩

/-- What was collected comes from the items. -/
theorem exists_of_mem_collectEach {items : List α} {visit : α → Except ε β} {values : List β}
    (h : collectEach items visit = .ok values) {value : β} (hvalue : value ∈ values) :
    ∃ item ∈ items, visit item = .ok value := by
  have hall := collectEach_eq_ok.mp h
  clear h
  induction hall with
  | nil => exact absurd hvalue List.not_mem_nil
  | cons hfirst _ ih =>
      rcases List.mem_cons.mp hvalue with rfl | hrest
      · exact ⟨_, List.mem_cons_self, hfirst⟩
      · obtain ⟨item, hitem, hvisit⟩ := ih hrest
        exact ⟨item, List.mem_cons_of_mem _ hitem, hvisit⟩

/-- Every item was collected. -/
theorem mem_collectEach_of_mem {items : List α} {visit : α → Except ε β} {values : List β}
    (h : collectEach items visit = .ok values) {item : α} (hitem : item ∈ items) :
    ∃ value ∈ values, visit item = .ok value := by
  have hall := collectEach_eq_ok.mp h
  clear h
  induction hall with
  | nil => exact absurd hitem List.not_mem_nil
  | cons hfirst _ ih =>
      rcases List.mem_cons.mp hitem with rfl | hrest
      · exact ⟨_, List.mem_cons_self, hfirst⟩
      · obtain ⟨value, hvalue, hvisit⟩ := ih hrest
        exact ⟨value, List.mem_cons_of_mem _ hvalue, hvisit⟩

/-- A traversal succeeds when every visit does. -/
theorem exists_collectEach {items : List α} {visit : α → Except ε β}
    (h : ∀ item ∈ items, ∃ value, visit item = .ok value) :
    ∃ values, collectEach items visit = .ok values := by
  induction items with
  | nil => exact ⟨[], rfl⟩
  | cons item rest ih =>
      obtain ⟨value, hvalue⟩ := h item List.mem_cons_self
      obtain ⟨values, hvalues⟩ := ih fun other hother => h other (List.mem_cons_of_mem _ hother)
      exact ⟨value :: values, collectEach_eq_ok.mpr (.cons hvalue (collectEach_eq_ok.mp hvalues))⟩

/-! ### Which errors there are -/

/-- Every error of a computation is of one sort. -/
def Blames (sort : ε → Prop) (result : Except ε α) : Prop :=
  ∀ error, result = .error error → sort error

section Blames

variable {sort : ε → Prop}

theorem blames_ok (value : α) : Blames sort (.ok value : Except ε α) := by
  intro error h
  cases h

theorem blames_pure (value : α) : Blames sort (pure value : Except ε α) := blames_ok value

theorem blames_error {error : ε} (h : sort error) : Blames sort (.error error : Except ε α) := by
  intro other hother
  cases hother
  exact h

theorem blames_rejectIf {bad : Prop} [Decidable bad] {error : ε} (h : sort error) :
    Blames sort (rejectIf bad error) := by
  unfold rejectIf
  split
  · exact blames_error h
  · exact blames_ok ()

theorem blames_okOr {value : Option α} {error : ε} (h : sort error) :
    Blames sort (okOr value error) := by
  cases value with
  | none => exact blames_error h
  | some item => exact blames_ok item

theorem Blames.bind {first : Except ε α} {next : α → Except ε β} (hfirst : Blames sort first)
    (hnext : ∀ value, Blames sort (next value)) : Blames sort (first >>= next) := by
  cases first with
  | error error => exact blames_error (hfirst error rfl)
  | ok value => exact hnext value

theorem blames_foldlM {step : β → α → Except ε β} (h : ∀ state item, Blames sort (step state item))
    (items : List α) (state : β) : Blames sort (items.foldlM step state) := by
  induction items generalizing state with
  | nil => exact blames_ok state
  | cons item items ih =>
      rw [List.foldlM_cons]
      exact (h state item).bind ih

end Blames

end Kernmux.Library
