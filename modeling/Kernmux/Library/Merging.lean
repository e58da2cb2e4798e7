import Mathlib.Data.List.Dedup
import Mathlib.Data.List.Perm.Basic
import Mathlib.Data.List.Sort
import Mathlib.Order.Defs.Unbundled

/-!
# Kernmux.Library.Merging

**Adding what is missing.** `xs ∪ ys` is `ys` with each item of `xs` that it does
not hold, once. Up to their order the results depend on what is added only, and
sorting makes them the same.
-/

namespace Kernmux.Library

section Union

variable {α : Type} [DecidableEq α]

theorem count_insert_eq (item other : α) (items : List α) : (items.insert item).count other =
      if item = other ∧ item ∉ items then 1 else items.count other := by
  by_cases hmem : item ∈ items
  · rw [List.insert_of_mem hmem, if_neg (fun h => h.2 hmem)]
  · rw [List.insert_of_not_mem hmem, List.count_cons]
    by_cases heq : item = other
    · subst heq
      simp [hmem, List.count_eq_zero_of_not_mem]
    · simp [heq]

/-- How often an item is in the union. -/
theorem count_union_eq (added items : List α) (item : α) :
    (added ∪ items).count item = if item ∈ added ∧ item ∉ items then 1 else items.count item := by
  induction added with
  | nil => simp
  | cons first added ih =>
      rw [List.cons_union, count_insert_eq, ih]
      by_cases hfirst : first = item
      · subst hfirst
        by_cases hitem : first ∈ items
        · simp [hitem]
        · by_cases hadded : first ∈ added
          · simp [hitem, hadded]
          · simp [hitem, hadded]
      · simp [hfirst, Ne.symm hfirst]

/-- Only what is added matters, not how often and in which order. -/
theorem union_perm_union {first second items : List α} (h : ∀ item, item ∈ first ↔ item ∈ second) :
    (first ∪ items).Perm (second ∪ items) := by
  rw [List.perm_iff_count]
  intro item
  simp only [count_union_eq, h]

/-- Adding one after the other. -/
theorem union_insert_perm (added items : List α) (item : α) :
    (added ∪ items.insert item).Perm ((item :: added) ∪ items) := by
  induction added with
  | nil => exact .refl _
  | cons first added ih =>
      rw [List.cons_union, List.cons_union, List.cons_union]
      refine (ih.insert first).trans ?_
      rw [List.cons_union]
      exact List.perm_insert_swap first item (added ∪ items)

end Union

/-- One of the lists has gained an item, and so have all of them together. -/
theorem flatMap_perm_cons {ι α : Type} {before after : ι → List α} {index : ι} {item : α}
    {indices : List ι} (hnodup : indices.Nodup) (hmem : index ∈ indices)
    (hgained : (after index).Perm (item :: before index))
    (hothers : ∀ other ≠ index, after other = before other) :
    (indices.flatMap after).Perm (item :: indices.flatMap before) := by
  induction indices with
  | nil => cases hmem
  | cons first indices ih =>
      obtain ⟨hfirst, hrest⟩ := List.nodup_cons.mp hnodup
      rw [List.flatMap_cons, List.flatMap_cons]
      by_cases heq : first = index
      · subst heq
        have hsame : indices.flatMap after = indices.flatMap before := by
          refine List.flatMap_congr ?_
          intro other hother
          exact hothers other fun heq => hfirst (heq ▸ hother)
        rw [hsame]
        exact hgained.append_right _
      · have hrest := ih hrest ((List.mem_cons.mp hmem).resolve_left (Ne.symm heq))
        rw [hothers first heq]
        exact (hrest.append_left _).trans List.perm_middle

/-- Sorting forgets the order. -/
theorem insertionSort_eq_of_perm {α : Type} [Ord α] [Std.TransOrd α] [Std.LawfulEqOrd α]
    {first second : List α} (h : first.Perm second) :
    (first.insertionSort fun left right => (compare left right).isLE) =
      second.insertionSort fun left right => (compare left right).isLE := by
  have htrans : IsTrans α fun left right => (compare left right).isLE = true :=
    ⟨fun _ _ _ => Std.TransCmp.isLE_trans⟩
  have hantisymm : Std.Antisymm fun left right : α => (compare left right).isLE = true :=
    ⟨fun _ _ hle hge => Std.LawfulEqCmp.eq_of_compare (Std.OrientedCmp.isLE_antisymm hle hge)⟩
  have htotal : Std.Total fun left right : α => (compare left right).isLE = true := by
    refine ⟨fun left right => ?_⟩
    rw [Std.OrientedOrd.eq_swap (a := right)]
    cases compare left right <;> simp
  refine List.Perm.eq_of_pairwise' (List.pairwise_insertionSort _ first)
    (List.pairwise_insertionSort _ second) ?_
  exact (List.perm_insertionSort _ first).trans (h.trans (List.perm_insertionSort _ second).symm)

/-- Two readings of what has no order. -/
def Relists {ε α : Type} : Except ε (List α) → Except ε (List α) → Prop
  | .ok listing, .ok relisted => listing.Perm relisted
  | .error _, .error _ => True
  | _, _ => False

theorem Relists.refl {ε α : Type} (reading : Except ε (List α)) : Relists reading reading := by
  cases reading with
  | error error => trivial
  | ok listing => exact List.Perm.refl listing

/-- What does not depend on the order is the same for both readings. -/
theorem Relists.same {ε α β : Type} {first second : Except ε (List α)} (h : Relists first second)
    {missing : β} {view : List α → β}
    (hview : ∀ listing relisted, listing.Perm relisted → view relisted = view listing) :
    second.toOption.elim missing view = first.toOption.elim missing view := by
  cases first with
  | error error =>
      cases second with
      | error error => rfl
      | ok relisted => exact h.elim
  | ok listing =>
      cases second with
      | error error => exact h.elim
      | ok relisted => exact hview listing relisted h

section Keys

variable {α κ : Type} [LE κ] [DecidableLE κ] [IsTrans κ (· ≤ ·)] [Std.Total (α := κ) (· ≤ ·)]

/-- Sorting by a key gives a sorted list of the same items. -/
theorem insertionSort_by_key (key : α → κ) (items : List α) :
    (items.insertionSort fun left right => key left ≤ key right).Perm items ∧
      (items.insertionSort fun left right => key left ≤ key right).Pairwise
        fun left right => key left ≤ key right := by
  have htrans : IsTrans α fun left right => key left ≤ key right :=
    ⟨fun _ _ _ => IsTrans.trans (r := (· ≤ ·)) _ _ _⟩
  have htotal : Std.Total fun left right : α => key left ≤ key right :=
    ⟨fun _ _ => Std.Total.total _ _⟩
  exact ⟨List.perm_insertionSort _ items, List.pairwise_insertionSort _ items⟩

variable [Std.Antisymm (α := κ) (· ≤ ·)]

/-- Items with keys of their own have one sorted order. -/
theorem insertionSort_eq_of_keys {key : α → κ} {items sorted : List α}
    (hperm : sorted.Perm items) (hsorted : sorted.Pairwise fun left right => key left ≤ key right)
    (hkeys : (sorted.map key).Nodup) :
    (items.insertionSort fun left right => key left ≤ key right) = sorted := by
  obtain ⟨hsame, hordered⟩ := insertionSort_by_key key items
  refine (hsame.trans hperm.symm).eq_of_pairwise ?_ hordered hsorted
  intro left right hleft hright hle hge
  have hleft := hperm.mem_iff.mpr (hsame.mem_iff.mp hleft)
  exact List.inj_on_of_nodup_map hkeys hleft hright (Std.Antisymm.antisymm _ _ hle hge)

/-- What some items are once they are sorted, if the keys tell them apart. -/
theorem exists_insertionSort_iff {key : α → κ} {sorted : List α} {p : List α → Prop}
    (hkeys : (sorted.map key).Nodup) :
    (∃ items, p items ∧ (items.insertionSort fun left right => key left ≤ key right) = sorted) ↔
      sorted.Pairwise (fun left right => key left ≤ key right) ∧
        ∃ items, sorted.Perm items ∧ p items := by
  constructor
  · rintro ⟨items, hitems, rfl⟩
    obtain ⟨hperm, hsorted⟩ := insertionSort_by_key key items
    exact ⟨hsorted, items, hperm, hitems⟩
  · rintro ⟨hsorted, items, hperm, hitems⟩
    exact ⟨items, hitems, insertionSort_eq_of_keys hperm hsorted hkeys⟩

/-- Sorting gives the sorted list of the same items. -/
theorem insertionSort_eq_iff {items sorted : List κ} :
    items.insertionSort (· ≤ ·) = sorted ↔ sorted.Pairwise (· ≤ ·) ∧ sorted.Perm items := by
  constructor
  · rintro rfl
    exact ⟨List.pairwise_insertionSort _ _, List.perm_insertionSort _ _⟩
  · rintro ⟨hsorted, hperm⟩
    exact ((List.perm_insertionSort _ _).trans hperm.symm).eq_of_pairwise
      (fun _ _ _ _ => Std.Antisymm.antisymm _ _) (List.pairwise_insertionSort _ _) hsorted

end Keys

end Kernmux.Library
