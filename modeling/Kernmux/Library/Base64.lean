import Mathlib.Data.List.TakeWhile
import Mathlib.Tactic.Common

/-!
# Kernmux.Library.Base64

**Bytes as digits of six bits.** Three bytes are four digits; one or two bytes at
the end are two or three digits, the last of which is filled up with zeros. An
encoding writes each digit with a letter of its alphabet, so two encodings that
differ only in their letters are compared letter by letter, and an encoding can
be read back as soon as its letters are distinct (`sextets_injective`).
-/

namespace Kernmux.Library

/-! ### Groups of three -/

/-- Groups of three, and what is left at the end. -/
def groupsOfThree {α : Type*} : List α → List (List α)
  | [] => []
  | [first] => [[first]]
  | [first, second] => [[first, second]]
  | first :: second :: third :: rest => [first, second, third] :: groupsOfThree rest

/-- What is done to each group alone is done to the whole list. -/
theorem flatMap_groupsOfThree {α β : Type*} (group whole : List α → List β)
    (hnil : whole [] = []) (hone : ∀ first, whole [first] = group [first])
    (htwo : ∀ first second, whole [first, second] = group [first, second])
    (hmore : ∀ first second third rest,
      whole (first :: second :: third :: rest) = group [first, second, third] ++ whole rest)
    (input : List α) : (groupsOfThree input).flatMap group = whole input := by
  fun_induction groupsOfThree input with
  | case1 => exact hnil.symm
  | case2 first => simp [hone]
  | case3 first second => simp [htwo]
  | case4 first second third rest ih => rw [List.flatMap_cons, ih, hmore]

/-! ### Digits -/

/-- The digits of some bytes. -/
def sextets : List UInt8 → List ℕ
  | [] => []
  | [first] => [first.toNat / 4, first.toNat % 4 * 16]
  | [first, second] =>
      [first.toNat / 4, first.toNat % 4 * 16 + second.toNat / 16, second.toNat % 16 * 4]
  | first :: second :: third :: rest =>
      first.toNat / 4 :: (first.toNat % 4 * 16 + second.toNat / 16) ::
        (second.toNat % 16 * 4 + third.toNat / 64) :: third.toNat % 64 :: sextets rest

theorem sextets_lt {bytes : List UInt8} : ∀ digit ∈ sextets bytes, digit < 64 := by
  fun_induction sextets bytes with
  | case1 => simp
  | case2 first =>
      have := first.toNat_lt
      simp only [List.forall_mem_cons, List.not_mem_nil, false_imp_iff, forall_const, and_true]
      omega
  | case3 first second =>
      have := first.toNat_lt
      have := second.toNat_lt
      simp only [List.forall_mem_cons, List.not_mem_nil, false_imp_iff, forall_const, and_true]
      omega
  | case4 first second third rest ih =>
      have := first.toNat_lt
      have := second.toNat_lt
      have := third.toNat_lt
      simp only [List.forall_mem_cons]
      exact ⟨by omega, by omega, by omega, by omega, ih⟩

theorem length_sextets (bytes : List UInt8) :
    (sextets bytes).length = (4 * bytes.length + 2) / 3 := by
  fun_induction sextets bytes with
  | case1 | case2 | case3 => simp
  | case4 first second third rest ih =>
      simp only [List.length_cons, ih]
      omega

theorem sextets_injective : Function.Injective sextets := by
  intro left right h
  fun_induction sextets left generalizing right with
  | case1 =>
      have hlength := congrArg List.length h
      rw [length_sextets] at hlength
      exact (List.eq_nil_of_length_eq_zero (by simp at hlength; omega)).symm
  | case2 first =>
      match right with
      | [] | [_, _] | _ :: _ :: _ :: _ => simp [sextets] at h
      | [other] =>
          simp only [sextets, List.cons.injEq, and_true] at h
          have hfirst : first = other := UInt8.toNat_inj.mp (by omega)
          rw [hfirst]
  | case3 first second =>
      match right with
      | [] | [_] => simp [sextets] at h
      | _ :: _ :: _ :: _ => simp [sextets] at h
      | [third, fourth] =>
          have := second.toNat_lt
          have := fourth.toNat_lt
          simp only [sextets, List.cons.injEq, and_true] at h
          have hfirst : first = third := UInt8.toNat_inj.mp (by omega)
          have hsecond : second = fourth := UInt8.toNat_inj.mp (by omega)
          rw [hfirst, hsecond]
  | case4 first second third rest ih =>
      match right with
      | [] | [_] | [_, _] => simp [sextets] at h
      | first' :: second' :: third' :: rest' =>
          have := second.toNat_lt
          have := second'.toNat_lt
          have := third.toNat_lt
          have := third'.toNat_lt
          simp only [sextets, List.cons.injEq] at h
          obtain ⟨h1, h2, h3, h4, hrest⟩ := h
          have hfirst : first = first' := UInt8.toNat_inj.mp (by omega)
          have hsecond : second = second' := UInt8.toNat_inj.mp (by omega)
          have hthird : third = third' := UInt8.toNat_inj.mp (by omega)
          rw [hfirst, hsecond, hthird, ih hrest]

end Kernmux.Library
