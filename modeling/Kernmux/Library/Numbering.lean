import Mathlib.Data.List.Basic
import Mathlib.Data.List.Nodup
import Mathlib.Tactic.Common

/-!
# Kernmux.Library.Numbering

**Numbers within groups.** Items fall into groups by a key. When the numbers in
every group differ, group and number together tell all items apart.
-/

namespace Kernmux.Library

variable {α κ ι : Type*} [DecidableEq κ]

/-- The items with a key, in their order. -/
def withKey (key : α → κ) (k : κ) (items : List α) : List α := items.filter fun item => key item = k

section Equations

variable {key : α → κ} {k : κ} {item : α} {items : List α}

@[simp] theorem withKey_nil : withKey key k [] = [] := rfl

theorem withKey_cons_of_eq (h : key item = k) :
    withKey key k (item :: items) = item :: withKey key k items := by
  simp [withKey, h]

theorem withKey_cons_of_ne (h : key item ≠ k) :
    withKey key k (item :: items) = withKey key k items := by
  simp [withKey, h]

@[simp] theorem mem_withKey : item ∈ withKey key k items ↔ item ∈ items ∧ key item = k := by
  simp [withKey]

theorem length_withKey_le : (withKey key k items).length ≤ items.length := List.length_filter_le _ _

end Equations

/-- Numbers that differ within each group tell all items apart. -/
theorem nodup_map_of_withKey {key : α → κ} {index : α → ι} {items : List α}
    (h : ∀ k, ((withKey key k items).map index).Nodup) :
    (items.map fun item => (key item, index item)).Nodup := by
  induction items with
  | nil => exact List.nodup_nil
  | cons item items ih =>
      rw [List.map_cons, List.nodup_cons]
      constructor
      · intro hmem
        obtain ⟨other, hother, heq⟩ := List.mem_map.mp hmem
        obtain ⟨hkey, hindex⟩ := Prod.mk.inj heq
        have hgroup := h (key item)
        rw [withKey_cons_of_eq rfl, List.map_cons, List.nodup_cons] at hgroup
        exact hgroup.1 (List.mem_map.mpr ⟨other, mem_withKey.mpr ⟨hother, hkey⟩, hindex⟩)
      · refine ih fun k => ?_
        have hgroup := h k
        by_cases hkey : key item = k
        · rw [withKey_cons_of_eq hkey, List.map_cons] at hgroup
          exact hgroup.of_cons
        · rw [withKey_cons_of_ne hkey] at hgroup
          exact hgroup

end Kernmux.Library
