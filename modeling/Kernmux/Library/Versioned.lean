import Mathlib.Data.Nat.Basic
import Mathlib.Order.Basic
import Mathlib.Tactic.Common

/-!
# Kernmux.Library.Versioned

**Version numbers for observed contents.** A cell is shown a sequence of
contents and stamps each with a version: the first gets version one, a content
equal to the one in the cell keeps its version, any other gets the next one.
How the next version is found is a parameter (`bump`), because machine counters
stop somewhere.

What matters is a fact about whole histories (`Evolves.precedes`): versions
never go back, and below the bound where counting still counts, a version names
one content.

Somebody who acts on a version needs it to be `Current`, that is, to name what
there is to be observed. A version whose content was changed is `Spent`: whatever
is observed later, it will not become current again.
-/

namespace Kernmux.Library

/-- A content with the version it was stamped with. -/
structure Versioned (γ : Type*) where
  version : ℕ
  content : γ

namespace Versioned

variable {γ : Type*}

/-! ### What one version can say about a later one -/

/-- The state `later` may follow `earlier` in a cell that counts properly below `limit`. -/
def Precedes (limit : ℕ) (earlier later : Versioned γ) : Prop :=
  earlier.version ≤ later.version ∧
    (earlier.version < limit → earlier.version = later.version → earlier.content = later.content)

theorem Precedes.refl (limit : ℕ) (cell : Versioned γ) : Precedes limit cell cell :=
  ⟨Nat.le_refl _, fun _ _ => rfl⟩

/-! ### The cell -/

variable [DecidableEq γ] (bump : ℕ → ℕ)

/-- Show a content to the cell. -/
def observe : Option (Versioned γ) → γ → Versioned γ
  | none, content => ⟨1, content⟩
  | some cell, content =>
      if cell.content = content then cell else ⟨bump cell.version, content⟩

@[simp] theorem observe_content (cell : Option (Versioned γ)) (content : γ) :
    (observe bump cell content).content = content := by
  cases cell with
  | none => rfl
  | some cell =>
      rw [observe]
      split
      case isTrue h => exact h
      case isFalse => rfl

theorem observe_same {cell : Versioned γ} {content : γ} (h : cell.content = content) :
    observe bump (some cell) content = cell := if_pos h

theorem observe_changed {cell : Versioned γ} {content : γ} (h : cell.content ≠ content) :
    observe bump (some cell) content = ⟨bump cell.version, content⟩ := if_neg h

variable {bump} {limit : ℕ}

/-- One observation moves the cell forward. -/
theorem observe_precedes (hle : ∀ n, n ≤ bump n) (hlt : ∀ n, n < limit → n < bump n)
    {earlier cell : Versioned γ} (h : Precedes limit earlier cell) (content : γ) :
    Precedes limit earlier (observe bump (some cell) content) := by
  by_cases hc : cell.content = content
  · rw [observe_same bump hc]
    exact h
  · rw [observe_changed bump hc]
    have hcell := hle cell.version
    refine ⟨Nat.le_trans h.1 hcell, fun hlim heq => ?_⟩
    -- the version did not move, so the bump was past the limit
    have hsame : earlier.version = cell.version := Nat.le_antisymm h.1 (heq ▸ hcell)
    have := hlt cell.version (hsame ▸ hlim)
    exact absurd heq (by simp only; omega)

/-! ### Whole histories -/

/-- The states of a cell over time: each is the one before it, or what the one
before it becomes when it is shown some content. -/
def Evolves (bump : ℕ → ℕ) (cells : ℕ → Option (Versioned γ)) : Prop :=
  ∀ n, cells (n + 1) = cells n ∨ ∃ content, cells (n + 1) = some (observe bump (cells n) content)

/-- Once a cell holds something, every later state comes after it. -/
theorem Evolves.precedes {cells : ℕ → Option (Versioned γ)} (hcells : Evolves bump cells)
    (hle : ∀ n, n ≤ bump n) (hlt : ∀ n, n < limit → n < bump n) {m n : ℕ} (hmn : m ≤ n)
    {earlier : Versioned γ} (h : cells m = some earlier) :
    ∃ later, cells n = some later ∧ Precedes limit earlier later := by
  induction n, hmn using Nat.le_induction with
  | base => exact ⟨earlier, h, Precedes.refl limit earlier⟩
  | succ n _ ih =>
      obtain ⟨later, hlater, hprec⟩ := ih
      rcases hcells n with hsame | ⟨content, hnext⟩
      · exact ⟨later, hsame.trans hlater, hprec⟩
      · rw [hlater] at hnext
        exact ⟨_, hnext, observe_precedes hle hlt hprec content⟩

/-! ### Acting on a version -/

/-- The cell holds `seen`, and the system still has its content. -/
def Current (cell : Option (Versioned γ)) (content : γ) (seen : Versioned γ) : Prop :=
  cell = some seen ∧ seen.content = content

/-- The cell is past the version, or will be when it is shown the content next. -/
def Spent (cell : Option (Versioned γ)) (content : γ) (version : ℕ) : Prop :=
  ∃ held, cell = some held ∧
    (version < held.version ∨ version = held.version ∧ held.content ≠ content)

variable {cell : Option (Versioned γ)} {content changed : γ} {seen : Versioned γ} {version : ℕ}

theorem current_observe (bump : ℕ → ℕ) (cell : Option (Versioned γ)) (content : γ) :
    Current (some (observe bump cell content)) content (observe bump cell content) :=
  ⟨rfl, observe_content bump cell content⟩

theorem Current.observe (h : Current cell content seen) :
    Current (some (observe bump cell content)) content seen := by
  obtain ⟨rfl, rfl⟩ := h
  exact ⟨congrArg some (observe_same bump rfl), rfl⟩

omit [DecidableEq γ] in
/-- To change the content is to spend the version. -/
theorem Current.spent (h : Current cell content seen) (hne : content ≠ changed) :
    Spent cell changed seen.version := by
  obtain ⟨rfl, rfl⟩ := h
  exact ⟨seen, rfl, .inr ⟨rfl, hne⟩⟩

omit [DecidableEq γ] in
/-- What is spent lies behind what is current. -/
theorem Spent.lt_current (h : Spent cell content version) (hcurrent : Current cell content seen) :
    version < seen.version := by
  obtain ⟨rfl, rfl⟩ := hcurrent
  obtain ⟨held, hheld, hcase⟩ := h
  cases hheld
  rcases hcase with hlt | ⟨-, hne⟩
  · exact hlt
  · exact absurd rfl hne

omit [DecidableEq γ] in
theorem Spent.change (h : Spent cell content version) (hcurrent : Current cell content seen)
    (changed : γ) : Spent cell changed version :=
  ⟨seen, hcurrent.1, .inl (h.lt_current hcurrent)⟩

theorem Spent.observe (h : Spent cell content version) (hle : ∀ n, n ≤ bump n)
    (hlt : ∀ n, n < limit → n < bump n) (hversion : version < limit) :
    Spent (some (observe bump cell content)) content version := by
  obtain ⟨held, rfl, hcase⟩ := h
  refine ⟨_, rfl, .inl ?_⟩
  by_cases hsame : held.content = content
  · rw [observe_same bump hsame]
    rcases hcase with hbehind | ⟨-, hne⟩
    · exact hbehind
    · exact absurd hsame hne
  · rw [observe_changed bump hsame]
    rcases hcase with hbehind | ⟨rfl, -⟩
    · exact Nat.lt_of_lt_of_le hbehind (hle held.version)
    · exact hlt held.version hversion

end Versioned

end Kernmux.Library
