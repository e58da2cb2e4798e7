import Mathlib.Algebra.BigOperators.Group.List.Basic
import Mathlib.Algebra.GroupWithZero.Nat
import Mathlib.Data.Finset.Card
import Mathlib.Data.Set.Basic

/-!
# Kernmux.Library.Ownership

**Exclusive ownership of things drawn from a pool.** Owners `ι` hold things
`κ`; `owns i k` says that `i` holds `k`. Ownership is `Exclusive` when nothing
has two owners, and a pool is `Balanced` when in addition everything held
belongs to the pool and what is free is exactly the rest of it.

An owner's holdings are only ever replaced as a whole (`reassign`): taking
nothing is giving everything back. The two operations keep the balance under
the conditions one would check: an owner may take what is free or its own, and
a pool may be cut down to anything that still covers what is held.

Owners are often the records of a list, told apart by a key (`Holds`). Adding a
record, changing what the record with a key holds and removing it are all
`reassign`.

Where holdings are finite they can be counted: parts that do not overlap have no
more together than the whole they are parts of.
-/

namespace Kernmux.Library

variable {ι κ : Type*}

/-- Nothing has two owners. -/
def Exclusive (owns : ι → κ → Prop) : Prop :=
  ∀ i j k, owns i k → owns j k → i = j

/-- The owner `i` holds `things` instead of what it held. -/
def reassign (owns : ι → κ → Prop) (i : ι) (things : Set κ) : ι → κ → Prop :=
  fun j k => (j = i ∧ k ∈ things) ∨ (j ≠ i ∧ owns j k)

theorem reassign_self {owns : ι → κ → Prop} {i : ι} {things : Set κ} {k : κ} :
    reassign owns i things i k ↔ k ∈ things := by
  simp [reassign]

/-- Taking what nobody else holds keeps ownership exclusive. -/
theorem Exclusive.reassign {owns : ι → κ → Prop} (h : Exclusive owns) {i : ι} {things : Set κ}
    (hfree : ∀ k ∈ things, ∀ j, j ≠ i → ¬ owns j k) :
    Exclusive (reassign owns i things) := by
  intro j j' k hj hj'
  rcases hj with ⟨rfl, hk⟩ | ⟨hne, hown⟩
  · rcases hj' with ⟨rfl, -⟩ | ⟨hne', hown'⟩
    · rfl
    · exact absurd hown' (hfree k hk j' hne')
  · rcases hj' with ⟨rfl, hk⟩ | ⟨-, hown'⟩
    · exact absurd hown (hfree k hk j hne)
    · exact h j j' k hown hown'

/-- What is left of a pool when everything held is taken out. -/
def remainder (pool : Set κ) (owns : ι → κ → Prop) : Set κ :=
  {k | k ∈ pool ∧ ∀ i, ¬ owns i k}

/-- Ownership is exclusive, stays inside the pool, and what is free is the rest. -/
structure Balanced (pool free : Set κ) (owns : ι → κ → Prop) : Prop where
  exclusive : Exclusive owns
  contained : ∀ i k, owns i k → k ∈ pool
  free_eq : free = remainder pool owns

/-- An owner may exchange what it holds for free things and things of its own. -/
theorem Balanced.reassign {pool free : Set κ} {owns : ι → κ → Prop} (h : Balanced pool free owns)
    {i : ι} {things : Set κ} (hthings : ∀ k ∈ things, k ∈ free ∨ owns i k) :
    Balanced pool (remainder pool (reassign owns i things)) (reassign owns i things) where
  exclusive := by
    refine h.exclusive.reassign fun k hk j hne hown => ?_
    rcases hthings k hk with hfree | hself
    · rw [h.free_eq] at hfree
      exact hfree.2 j hown
    · exact hne (h.exclusive j i k hown hself)
  contained j k hown := by
    rcases hown with ⟨rfl, hk⟩ | ⟨-, hown⟩
    · rcases hthings k hk with hfree | hself
      · rw [h.free_eq] at hfree
        exact hfree.1
      · exact h.contained j k hself
    · exact h.contained j k hown
  free_eq := rfl

/-- A pool may be exchanged for any other that still covers what is held. -/
theorem Balanced.resize {pool free : Set κ} {owns : ι → κ → Prop} (h : Balanced pool free owns)
    {pool' : Set κ} (hcovers : ∀ i k, owns i k → k ∈ pool') :
    Balanced pool' (remainder pool' owns) owns where
  exclusive := h.exclusive
  contained := hcovers
  free_eq := rfl

/-! ### Records that hold things -/

section Records

variable {α β : Type*} {key : α → ι} {held : α → Set κ} {records : List α}

/-- The record with key `i` holds `k`. -/
def Holds (key : α → ι) (held : α → Set κ) (records : List α) (i : ι) (k : κ) : Prop :=
  ∃ record ∈ records, key record = i ∧ k ∈ held record

theorem holds_append {record : α} (hfresh : ∀ old ∈ records, key old ≠ key record) :
    Holds key held (records ++ [record]) =
      reassign (Holds key held records) (key record) (held record) := by
  funext i k
  refine propext ⟨fun hown => ?_, fun hown => ?_⟩
  · obtain ⟨found, hfound, rfl, hk⟩ := hown
    rcases List.mem_append.mp hfound with hold | hnew
    · exact .inr ⟨hfresh found hold, found, hold, rfl, hk⟩
    · obtain rfl := List.mem_singleton.mp hnew
      exact .inl ⟨rfl, hk⟩
  · rcases hown with ⟨rfl, hk⟩ | ⟨-, found, hfound, rfl, hk⟩
    · exact ⟨record, List.mem_append_right _ (List.mem_singleton_self _), rfl, hk⟩
    · exact ⟨found, List.mem_append_left _ hfound, rfl, hk⟩

variable [DecidableEq ι]

theorem holds_filter (i : ι) :
    Holds key held (records.filter (key · ≠ i)) = reassign (Holds key held records) i ∅ := by
  funext j k
  refine propext ⟨fun hown => ?_, fun hown => ?_⟩
  · obtain ⟨record, hrecord, rfl, hk⟩ := hown
    obtain ⟨hmem, hne⟩ := List.mem_filter.mp hrecord
    exact .inr ⟨of_decide_eq_true hne, record, hmem, rfl, hk⟩
  · rcases hown with ⟨-, hk⟩ | ⟨hne, record, hmem, rfl, hk⟩
    · exact hk.elim
    · exact ⟨record, List.mem_filter.mpr ⟨hmem, decide_eq_true hne⟩, rfl, hk⟩

variable {change : α → α} {i : ι}

/-- The records with a key are changed: what a record of the new list was. -/
theorem mem_update {record : α}
    (h : record ∈ records.map fun old => if key old = i then change old else old) :
    (∃ old ∈ records, key old = i ∧ record = change old) ∨ record ∈ records ∧ key record ≠ i := by
  obtain ⟨old, hold, rfl⟩ := List.mem_map.mp h
  by_cases hkey : key old = i
  · rw [if_pos hkey]
    exact .inl ⟨old, hold, hkey, rfl⟩
  · rw [if_neg hkey]
    exact .inr ⟨hold, hkey⟩

/-- A part of the records that the change leaves alone. -/
theorem map_update {view : α → β} (hview : ∀ record, view (change record) = view record) :
    (records.map fun old => if key old = i then change old else old).map view =
      records.map view := by
  rw [List.map_map]
  refine List.map_congr_left fun record _ => ?_
  simp only [Function.comp_apply]
  split
  · exact hview record
  · rfl

theorem holds_update {target : α} (htarget : target ∈ records) {things : Set κ}
    (hkey : ∀ record, key (change record) = key record)
    (hheld : ∀ record, held (change record) = things) :
    Holds key held (records.map fun old => if key old = key target then change old else old) =
      reassign (Holds key held records) (key target) things := by
  funext j k
  refine propext ⟨fun hown => ?_, fun hown => ?_⟩
  · obtain ⟨record, hrecord, rfl, hk⟩ := hown
    rcases mem_update hrecord with ⟨old, hold, hsame, rfl⟩ | ⟨hold, hne⟩
    · exact .inl ⟨(hkey old).trans hsame, hheld old ▸ hk⟩
    · exact .inr ⟨hne, record, hold, rfl, hk⟩
  · rcases hown with ⟨rfl, hk⟩ | ⟨hne, record, hrecord, rfl, hk⟩
    · refine ⟨change target, List.mem_map.mpr ⟨target, htarget, if_pos rfl⟩, hkey target, ?_⟩
      rw [hheld]
      exact hk
    · exact ⟨record, List.mem_map.mpr ⟨record, hrecord, if_neg hne⟩, rfl, hk⟩

end Records

/-! ### Records told apart by their place -/

section Places

variable {α : Type*} {held : α → Set κ} {records : List α}

/-- The record in place `i` holds `k`. -/
def HoldsAt (held : α → Set κ) (records : List α) (i : ℕ) (k : κ) : Prop :=
  ∃ record, records[i]? = some record ∧ k ∈ held record

theorem holdsAt_append (record : α) : HoldsAt held (records ++ [record]) =
      reassign (HoldsAt held records) records.length (held record) := by
  funext i k
  refine propext ⟨fun ⟨found, hfound, hk⟩ => ?_, fun hown => ?_⟩
  · rcases Nat.lt_trichotomy i records.length with hlt | rfl | hgt
    · rw [List.getElem?_append_left hlt] at hfound
      exact .inr ⟨Nat.ne_of_lt hlt, found, hfound, hk⟩
    · rw [List.getElem?_concat_length] at hfound
      cases hfound
      exact .inl ⟨rfl, hk⟩
    · rw [List.getElem?_eq_none (by rw [List.length_append]; exact hgt)] at hfound
      cases hfound
  · rcases hown with ⟨rfl, hk⟩ | ⟨-, found, hfound, hk⟩
    · exact ⟨record, List.getElem?_concat_length, hk⟩
    · refine ⟨found, ?_, hk⟩
      rw [List.getElem?_append_left (List.getElem?_eq_some_iff.mp hfound).1]
      exact hfound

theorem holdsAt_set {i : ℕ} {old : α} (hold : records[i]? = some old) (record : α) :
    HoldsAt held (records.set i record) = reassign (HoldsAt held records) i (held record) := by
  have hlt := (List.getElem?_eq_some_iff.mp hold).1
  funext j k
  refine propext ⟨fun ⟨found, hfound, hk⟩ => ?_, fun hown => ?_⟩
  · by_cases hji : j = i
    · subst hji
      rw [List.getElem?_set_self hlt] at hfound
      cases hfound
      exact .inl ⟨rfl, hk⟩
    · rw [List.getElem?_set_ne (Ne.symm hji)] at hfound
      exact .inr ⟨hji, found, hfound, hk⟩
  · rcases hown with ⟨rfl, hk⟩ | ⟨hne, found, hfound, hk⟩
    · exact ⟨record, List.getElem?_set_self hlt, hk⟩
    · exact ⟨found, (List.getElem?_set_ne (Ne.symm hne)).trans hfound, hk⟩

end Places

/-! ### Counting -/

section Counting

variable [DecidableEq κ] {parts : List (Finset κ)} {whole : Finset κ}

/-- Parts of a whole that do not overlap count no more than the whole. -/
theorem sum_card_le (hapart : parts.Pairwise Disjoint) (hinside : ∀ part ∈ parts, part ⊆ whole) :
    (parts.map Finset.card).sum ≤ whole.card := by
  induction parts generalizing whole with
  | nil => exact Nat.zero_le _
  | cons part parts ih =>
      obtain ⟨hfirst, hapart⟩ := List.pairwise_cons.mp hapart
      -- the other parts lie in what is left of the whole
      have hrest : (parts.map Finset.card).sum ≤ (whole \ part).card := by
        refine ih hapart fun other hother => ?_
        have hother' := hinside other (List.mem_cons_of_mem _ hother)
        exact Finset.subset_sdiff.mpr ⟨hother', (hfirst other hother).symm⟩
      have hleft := Finset.card_sdiff_add_card_eq_card (hinside part List.mem_cons_self)
      rw [List.map_cons, List.sum_cons]
      omega

/-- Everything that some parts have together. -/
def together (parts : List (Finset κ)) : Finset κ := parts.foldr (· ∪ ·) ∅

theorem subset_together {part : Finset κ} (h : part ∈ parts) : part ⊆ together parts := by
  induction parts with
  | nil => exact absurd h List.not_mem_nil
  | cons first parts ih =>
      rcases List.mem_cons.mp h with rfl | hrest
      · exact Finset.subset_union_left
      · exact (ih hrest).trans Finset.subset_union_right

theorem card_together_le (parts : List (Finset κ)) :
    (together parts).card ≤ (parts.map Finset.card).sum := by
  induction parts with
  | nil => exact Nat.le_refl _
  | cons first parts ih =>
      have hunion := Finset.card_union_le first (together parts)
      rw [List.map_cons, List.sum_cons]
      exact hunion.trans (Nat.add_le_add_left ih _)

end Counting

end Kernmux.Library
