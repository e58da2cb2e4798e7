import Mathlib.Data.List.Dedup
import Mathlib.Data.List.Sort
import Mathlib.Tactic.Common

/-!
# Kernmux.Library.Ordered

**Ordered sets and ordered maps as lists.** A set collected from a sequence is
the ascending list of its distinct elements (`elements`), so that comparing two
sets is comparing two lists and iterating over one is reading it off. A map
collected from a sequence keeps, for every key, the entry that came last
(`lookupLast`); its values are iterated in the order of their keys
(`orderedValues`).
-/

namespace Kernmux.Library

/-! ### Sets -/

section Sets

variable {α : Type*} [LE α] [DecidableLE α] [DecidableEq α]

/-- The set collected from `items`: its distinct elements in ascending order. -/
def elements (items : List α) : List α := items.dedup.insertionSort (· ≤ ·)

@[simp] theorem mem_elements {a : α} {items : List α} : a ∈ elements items ↔ a ∈ items := by
  rw [elements, List.mem_insertionSort, List.mem_dedup]

theorem elements_nodup (items : List α) : (elements items).Nodup :=
  (List.perm_insertionSort _ _).nodup_iff.mpr (List.nodup_dedup items)

/-- Collecting loses no element exactly when there was no duplicate. -/
theorem length_elements_eq_iff {items : List α} :
    (elements items).length = items.length ↔ items.Nodup := by
  rw [elements, List.length_insertionSort]
  constructor
  · intro h
    exact List.dedup_eq_self.mp ((List.dedup_sublist items).eq_of_length h)
  · intro h
    rw [h.dedup]

variable [IsTrans α (· ≤ ·)] [Std.Total (α := α) (· ≤ ·)]

theorem elements_pairwise (items : List α) : (elements items).Pairwise (· ≤ ·) :=
  List.pairwise_insertionSort _ _

variable [Std.Antisymm (α := α) (· ≤ ·)]

/-- Two collected sets are equal exactly when they have the same members. -/
theorem elements_eq_iff {items others : List α} :
    elements items = elements others ↔ ∀ a, a ∈ items ↔ a ∈ others := by
  constructor
  · intro h a
    rw [← mem_elements, h, mem_elements]
  · intro h
    have hperm : (elements items).Perm (elements others) :=
      (List.perm_ext_iff_of_nodup (elements_nodup items) (elements_nodup others)).mpr
        (fun a => by rw [mem_elements, mem_elements]; exact h a)
    exact hperm.eq_of_pairwise (fun a b _ _ hab hba => Std.Antisymm.antisymm a b hab hba)
      (elements_pairwise items) (elements_pairwise others)

/-- A set is the only ascending list without duplicates that has its members. -/
theorem eq_elements {items result : List α} (hnodup : result.Nodup)
    (hsorted : result.Pairwise (· ≤ ·)) (hmem : ∀ a, a ∈ result ↔ a ∈ items) :
    result = elements items := by
  have hperm : result.Perm (elements items) :=
    (List.perm_ext_iff_of_nodup hnodup (elements_nodup items)).mpr fun a => by
      rw [mem_elements, hmem]
  exact hperm.eq_of_pairwise (fun a b _ _ hab hba => Std.Antisymm.antisymm a b hab hba) hsorted
    (elements_pairwise items)

end Sets

/-! ### Maps -/

section Maps

variable {α β : Type*} [DecidableEq α]

/-- The value a map collected from `entries` holds under `k`: a later entry has
replaced every earlier one with its key. -/
def lookupLast (key : β → α) (entries : List β) (k : α) : Option β :=
  entries.reverse.find? fun entry => key entry = k

theorem lookupLast_some {key : β → α} {entries : List β} {k : α} {entry : β}
    (h : lookupLast key entries k = some entry) : entry ∈ entries ∧ key entry = k := by
  constructor
  · exact List.mem_reverse.mp (List.mem_of_find?_eq_some h)
  · simpa using List.find?_some h

theorem lookupLast_isSome_iff {key : β → α} {entries : List β} {k : α} :
    (lookupLast key entries k).isSome ↔ ∃ entry ∈ entries, key entry = k := by
  simp [lookupLast, List.find?_isSome]

variable [LE α] [DecidableLE α]

/-- The values of the map collected from `entries`, in the order of their keys. -/
def orderedValues (key : β → α) (entries : List β) : List β :=
  (elements (entries.map key)).filterMap (lookupLast key entries)

/-- The values of a map have keys of their own, and each is one of the entries. -/
theorem orderedValues_spec (key : β → α) (entries : List β) :
    ((orderedValues key entries).map key).Nodup ∧
      ∀ entry ∈ orderedValues key entries, entry ∈ entries := by
  have hkeys : (orderedValues key entries).map key =
      (elements (entries.map key)).filter fun k => (lookupLast key entries k).isSome := by
    rw [orderedValues, List.map_filterMap, ← List.filterMap_eq_filter]
    congr 1
    funext k
    cases hlookup : lookupLast key entries k with
    | none => simp [Option.guard, hlookup]
    | some entry => simp [Option.guard, hlookup, (lookupLast_some hlookup).2]
  refine ⟨hkeys ▸ (elements_nodup _).filter _, fun entry hentry => ?_⟩
  obtain ⟨k, -, hlookup⟩ := List.mem_filterMap.mp hentry
  exact (lookupLast_some hlookup).1

end Maps

end Kernmux.Library
