import Mathlib.Algebra.BigOperators.Group.List.Basic
import Mathlib.Algebra.GroupWithZero.Nat
import Mathlib.Data.Nat.Basic
import Mathlib.Tactic.Common

/-!
# Kernmux.Library.Word

**64-bit arithmetic with an explicit overflow mode.** A program that adds two
64-bit words says what happens past the last word: `checkedAdd` refuses,
`saturatingAdd` and `saturatingSub` stop at the bound, `wrappingSum` goes
round. Every operation comes with the one equation on `toNat` that callers
use, so that no proof above this module unfolds a machine operation.
-/

namespace Kernmux.Library

/-! ### Addition that refuses to overflow -/

/-- Sum of two words, or nothing when it does not fit. -/
def checkedAdd (a b : UInt64) : Option UInt64 :=
  if a.toNat + b.toNat < 2 ^ 64 then some (a + b) else none

/-- A checked sum is the sum of the two numbers. -/
theorem checkedAdd_eq_some {a b c : UInt64} :
    checkedAdd a b = some c ↔ c.toNat = a.toNat + b.toNat := by
  have hc := c.toNat_lt
  unfold checkedAdd
  constructor
  · intro h
    split at h
    · cases h
      rw [UInt64.toNat_add]
      omega
    · cases h
  · intro h
    rw [if_pos (by omega)]
    congr 1
    apply UInt64.toNat_inj.mp
    rw [UInt64.toNat_add]
    omega

theorem checkedAdd_eq_none {a b : UInt64} : checkedAdd a b = none ↔ 2 ^ 64 ≤ a.toNat + b.toNat := by
  unfold checkedAdd
  split <;> simp <;> omega

/-! ### Saturating arithmetic -/

/-- Largest word. -/
def maxWord : UInt64 := 18446744073709551615

@[simp] theorem toNat_maxWord : maxWord.toNat = 2 ^ 64 - 1 := rfl

theorem toNat_le_maxWord (a : UInt64) : a.toNat ≤ 2 ^ 64 - 1 := by
  have := a.toNat_lt
  omega

theorem toNat_lt_of_ne_maxWord {a : UInt64} (h : a ≠ maxWord) : a.toNat < 2 ^ 64 - 1 :=
  Nat.lt_of_le_of_ne (toNat_le_maxWord a) fun hEq => h (UInt64.toNat_inj.mp hEq)

/-- Sum of two words, stopping at the largest one. -/
def saturatingAdd (a b : UInt64) : UInt64 := (checkedAdd a b).getD maxWord

/-- Difference of two words, stopping at zero. -/
def saturatingSub (a b : UInt64) : UInt64 := if b ≤ a then a - b else 0

theorem toNat_saturatingAdd (a b : UInt64) :
    (saturatingAdd a b).toNat = min (a.toNat + b.toNat) (2 ^ 64 - 1) := by
  unfold saturatingAdd
  cases h : checkedAdd a b with
  | none =>
      have := checkedAdd_eq_none.mp h
      rw [Option.getD_none, toNat_maxWord]
      omega
  | some c =>
      have hc := checkedAdd_eq_some.mp h
      have := c.toNat_lt
      rw [Option.getD_some]
      omega

theorem toNat_saturatingSub (a b : UInt64) : (saturatingSub a b).toNat = a.toNat - b.toNat := by
  unfold saturatingSub
  split
  case isTrue h => exact UInt64.toNat_sub_of_le a b h
  case isFalse h =>
    have hlt : a.toNat < b.toNat := UInt64.lt_iff_toNat_lt.mp (UInt64.not_le.mp h)
    rw [UInt64.toNat_zero]
    omega

/-- Counting up by one below the largest word is ordinary addition. -/
theorem toNat_saturatingAdd_one {a : UInt64} (h : a.toNat < 2 ^ 64 - 1) :
    (saturatingAdd a 1).toNat = a.toNat + 1 := by
  rw [toNat_saturatingAdd, UInt64.toNat_one]
  omega

/-! ### Sums that go round -/

/-- Sum of a list of words, modulo `2 ^ 64`. -/
def wrappingSum (words : List UInt64) : UInt64 := words.foldl (· + ·) 0

theorem toNat_foldl_add (words : List UInt64) (start : UInt64) :
    (words.foldl (· + ·) start).toNat = (start.toNat + (words.map UInt64.toNat).sum) % 2 ^ 64 := by
  induction words generalizing start with
  | nil =>
      have := start.toNat_lt
      simp only [List.foldl_nil, List.map_nil, List.sum_nil]
      omega
  | cons word rest ih =>
      rw [List.foldl_cons, ih, UInt64.toNat_add, List.map_cons, List.sum_cons]
      omega

theorem toNat_wrappingSum (words : List UInt64) :
    (wrappingSum words).toNat = (words.map UInt64.toNat).sum % 2 ^ 64 := by
  rw [wrappingSum, toNat_foldl_add, UInt64.toNat_zero, Nat.zero_add]

end Kernmux.Library
