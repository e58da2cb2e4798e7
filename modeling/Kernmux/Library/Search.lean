import Mathlib.Data.List.Infix
import Mathlib.Tactic.Common

/-!
# Kernmux.Library.Search

**The first place where a pattern stands.** A reader that looks for a pattern in
what it has received so far finds it as soon as the pattern is complete, and
what is received later does not move it (`findPattern_append_iff`).
-/

namespace Kernmux.Library

variable {α : Type*} [DecidableEq α] {pattern items more : List α} {index : ℕ}

/-- Where the pattern begins for the first time. -/
def findPattern (pattern : List α) : List α → Option ℕ
  | [] => if pattern = [] then some 0 else none
  | item :: items =>
      if pattern <+: item :: items then some 0 else (findPattern pattern items).map (· + 1)

/-- Enough of the items is enough to find the pattern. -/
theorem findPattern_append_iff (hne : pattern ≠ []) : findPattern pattern items = some index ↔
      findPattern pattern (items ++ more) = some index ∧ index + pattern.length ≤ items.length := by
  have hlength : 0 < pattern.length := List.length_pos_iff.mpr hne
  induction items generalizing index with
  | nil => simp [findPattern, hne]
  | cons item items ih =>
      by_cases hhere : pattern <+: item :: items
      · have hthere : pattern <+: item :: (items ++ more) := hhere.trans (List.prefix_append _ _)
        have hle := hhere.length_le
        rw [List.cons_append, findPattern, findPattern, if_pos hhere, if_pos hthere]
        constructor
        · intro h
          cases h
          exact ⟨rfl, by omega⟩
        · exact And.left
      · -- a pattern that ends within the items begins there
        have hshort : pattern <+: item :: (items ++ more) → items.length + 1 < pattern.length := by
          intro hthere
          by_contra hle
          exact hhere (List.prefix_of_prefix_length_le hthere (List.prefix_append (item :: items) more)
            (by simp only [List.length_cons]; omega))
        rw [List.cons_append, findPattern, findPattern, if_neg hhere, List.length_cons]
        constructor
        · intro h
          obtain ⟨later, hlater, rfl⟩ := Option.map_eq_some_iff.mp h
          obtain ⟨hfound, hle⟩ := ih.mp hlater
          have hlast : ¬ pattern <+: item :: (items ++ more) := fun hthere => by
            have := hshort hthere
            omega
          rw [if_neg hlast, hfound]
          exact ⟨rfl, by omega⟩
        · rintro ⟨hfound, hle⟩
          have hlast : ¬ pattern <+: item :: (items ++ more) := fun hthere => by
            have := hshort hthere
            omega
          rw [if_neg hlast] at hfound
          obtain ⟨later, hlater, rfl⟩ := Option.map_eq_some_iff.mp hfound
          rw [ih.mpr ⟨hlater, by omega⟩]
          rfl

/-- The pattern stands where it is found, and nowhere before. -/
theorem findPattern_eq_some (hne : pattern ≠ []) : findPattern pattern items = some index ↔
      (∃ before after, items = before ++ pattern ++ after ∧ before.length = index) ∧
        ∀ before after, items = before ++ pattern ++ after → index ≤ before.length := by
  induction items generalizing index with
  | nil => simp [findPattern, hne]
  | cons item items ih =>
      rw [findPattern]
      by_cases hhere : pattern <+: item :: items
      · rw [if_pos hhere]
        obtain ⟨rest, hrest⟩ := hhere
        constructor
        · intro h
          cases h
          exact ⟨⟨[], rest, hrest.symm, rfl⟩, fun _ _ _ => Nat.zero_le _⟩
        · intro h
          have hle := h.2 [] rest hrest.symm
          rw [Nat.le_zero.mp hle]
      · rw [if_neg hhere]
        -- every occurrence is behind the first item
        have hbehind : ∀ before after, item :: items = before ++ pattern ++ after →
            ∃ earlier, before = item :: earlier ∧ items = earlier ++ pattern ++ after := by
          intro before after hitems
          cases before with
          | nil => exact absurd ⟨after, hitems.symm⟩ hhere
          | cons first earlier =>
              obtain ⟨rfl, hrest⟩ := List.cons.inj hitems
              exact ⟨earlier, rfl, hrest⟩
        constructor
        · intro h
          obtain ⟨later, hlater, rfl⟩ := Option.map_eq_some_iff.mp h
          obtain ⟨⟨before, after, hitems, hlength⟩, hfirst⟩ := ih.mp hlater
          refine ⟨⟨item :: before, after, by rw [hitems]; rfl, by simp [hlength]⟩, ?_⟩
          intro other rest hother
          obtain ⟨earlier, rfl, hearlier⟩ := hbehind other rest hother
          have := hfirst earlier rest hearlier
          simpa using this
        · rintro ⟨⟨before, after, hitems, rfl⟩, hfirst⟩
          obtain ⟨earlier, rfl, hearlier⟩ := hbehind before after hitems
          have hlater : findPattern pattern items = some earlier.length := by
            refine ih.mpr ⟨⟨earlier, after, hearlier, rfl⟩, fun other rest hother => ?_⟩
            have := hfirst (item :: other) rest (by rw [hother]; rfl)
            simpa using this
          rw [hlater]
          rfl

end Kernmux.Library
