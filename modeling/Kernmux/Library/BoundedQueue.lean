import Mathlib.Data.List.Basic
import Mathlib.Data.List.Nodup
import Mathlib.Data.List.Range
import Mathlib.Data.List.Pairwise
import Mathlib.Tactic.Common

/-!
# Kernmux.Library.BoundedQueue

**A queue that forgets its oldest entry.** `pushBounded` appends an entry and
drops the front one when the queue is full. Whatever holds of the entries one
by one, of any two of them in order, or of their numbering without a gap
(`Numbered`), survives this.

A log that is numbered from one (`Logged`) is read by position: a slice of it
is the set of its entries with a number in an interval (`Logged.mem_slice`),
and this is what a queue that keeps only the end of the log can still tell a
reader who knows how far they have come.
-/

namespace Kernmux.Library

variable {α : Type*}

/-- Append an entry; a full queue first loses its oldest one. -/
def pushBounded (capacity : ℕ) (queue : List α) (item : α) : List α :=
  (if queue.length = capacity then queue.tail else queue) ++ [item]

variable {capacity : ℕ} {queue : List α} {item : α}

/-- A queue with room for one item holds the last one. -/
theorem pushBounded_one (h : queue.length ≤ 1) : pushBounded 1 queue item = [item] := by
  match queue, h with
  | [], _ => rfl
  | [_], _ => rfl

theorem length_pushBounded_le (hpos : 0 < capacity) (h : queue.length ≤ capacity) :
    (pushBounded capacity queue item).length ≤ capacity := by
  unfold pushBounded
  split
  case isTrue hfull =>
    rw [List.length_append, List.length_tail, List.length_singleton]
    omega
  case isFalse hroom =>
    rw [List.length_append, List.length_singleton]
    omega

theorem mem_pushBounded_self : item ∈ pushBounded capacity queue item :=
  List.mem_append_right _ (List.mem_singleton_self item)

theorem mem_of_mem_pushBounded {other : α} (h : other ∈ pushBounded capacity queue item) :
    other ∈ queue ∨ other = item := by
  rcases List.mem_append.mp h with hold | hnew
  · split at hold
    · exact .inl (List.mem_of_mem_tail hold)
    · exact .inl hold
  · exact .inr (List.mem_singleton.mp hnew)

/-- Only the oldest entry of a full queue is lost. -/
theorem mem_pushBounded_of_mem {other : α} (h : other ∈ queue)
    (holdest : queue.length = capacity → queue.head? ≠ some other) :
    other ∈ pushBounded capacity queue item := by
  refine List.mem_append_left _ ?_
  split
  case isFalse => exact h
  case isTrue hfull =>
    cases queue with
    | nil => exact h
    | cons head rest =>
        rcases List.mem_cons.mp h with rfl | hrest
        · exact absurd rfl (holdest hfull)
        · exact hrest

/-- A search that finds an entry of the queue finds it as long as it is kept. -/
theorem find?_pushBounded_of_mem {other : α} {p : α → Bool} (h : other ∈ queue)
    (holdest : queue.length = capacity → queue.head? ≠ some other) (hp : p other = true)
    (hunique : ∀ entry ∈ queue, p entry = true → entry = other) :
    (pushBounded capacity queue item).find? p = some other := by
  have hfind : ∀ kept : List α, other ∈ kept → (∀ entry ∈ kept, entry ∈ queue) →
      (kept ++ [item]).find? p = some other := by
    intro kept hkept hold
    obtain ⟨found, hfound⟩ := Option.isSome_iff_exists.mp (List.find?_isSome.mpr ⟨other, hkept, hp⟩)
    rw [List.find?_append, hfound, Option.some_or,
      hunique found (hold found (List.mem_of_find?_eq_some hfound)) (List.find?_some hfound)]
  unfold pushBounded
  split
  case isFalse => exact hfind queue h fun _ hentry => hentry
  case isTrue hfull =>
    refine hfind queue.tail ?_ fun _ hentry => List.mem_of_mem_tail hentry
    cases queue with
    | nil => exact h
    | cons head rest =>
        rcases List.mem_cons.mp h with rfl | hrest
        · exact absurd rfl (holdest hfull)
        · exact hrest

theorem getLast?_pushBounded : (pushBounded capacity queue item).getLast? = some item := by
  simp [pushBounded]

/-- A queue with the end of a log goes on to have the end of the log. -/
theorem pushBounded_suffix {log : List α} (h : queue <:+ log) :
    pushBounded capacity queue item <:+ log ++ [item] := by
  unfold pushBounded
  refine List.suffix_append_self_iff.mpr ?_
  split
  · exact (List.tail_suffix queue).trans h
  · exact h

/-- What holds of any two entries in order. -/
theorem pairwise_pushBounded {r : α → α → Prop} (h : queue.Pairwise r)
    (hitem : ∀ other ∈ queue, r other item) : (pushBounded capacity queue item).Pairwise r := by
  have hkept : (if queue.length = capacity then queue.tail else queue).Sublist queue := by
    split
    · exact List.tail_sublist queue
    · exact List.Sublist.refl queue
  refine List.pairwise_append.mpr ⟨h.sublist hkept, List.pairwise_singleton r item, ?_⟩
  intro other hother last hlast
  rw [List.mem_singleton.mp hlast]
  exact hitem other (hkept.subset hother)

/-! ### Numbered queues -/

section Numbered

variable {β : Type*} {label : ℕ → β} {key : α → β} {next : ℕ}

/-- The keys of the entries are the labels of consecutive numbers, and the next entry would
get number `next`. -/
def Numbered (label : ℕ → β) (key : α → β) (next : ℕ) (queue : List α) : Prop :=
  ∃ first, queue.map key = (List.range' first queue.length).map label ∧ first + queue.length = next

theorem numbered_nil : Numbered label key next [] := ⟨next, rfl, rfl⟩

section

variable (h : Numbered label key next queue)

include h

theorem Numbered.tail : Numbered label key next queue.tail := by
  cases queue with
  | nil => exact h
  | cons head rest =>
      obtain ⟨first, hkeys, hnext⟩ := h
      rw [List.length_cons] at hnext
      rw [List.map_cons, List.length_cons, List.range'_succ, List.map_cons, List.cons.injEq] at hkeys
      refine ⟨first + 1, hkeys.2, ?_⟩
      rw [List.tail_cons]
      omega

theorem Numbered.append (hitem : key item = label next) :
    Numbered label key (next + 1) (queue ++ [item]) := by
  obtain ⟨first, hkeys, hnext⟩ := h
  refine ⟨first, ?_, ?_⟩
  · rw [List.map_append, hkeys, List.map_singleton, hitem, ← hnext, List.length_append,
      List.length_singleton, List.range'_1_concat, List.map_append, List.map_singleton]
  · rw [List.length_append, List.length_singleton, ← hnext, Nat.add_assoc]

theorem Numbered.push (hitem : key item = label next) :
    Numbered label key (next + 1) (pushBounded capacity queue item) := by
  unfold pushBounded
  split
  · exact h.tail.append hitem
  · exact h.append hitem

/-- Every entry was given one of the numbers before `next`. -/
theorem Numbered.exists_lt {other : α}
    (hother : other ∈ queue) : ∃ number < next, key other = label number := by
  obtain ⟨first, hkeys, hnext⟩ := h
  have hmem : key other ∈ (List.range' first queue.length).map label := by
    rw [← hkeys]
    exact List.mem_map_of_mem hother
  obtain ⟨number, hnumber, hlabel⟩ := List.mem_map.mp hmem
  rw [List.mem_range'_1] at hnumber
  exact ⟨number, by omega, hlabel.symm⟩

omit h in
/-- The newest of several entries is not the oldest. -/
theorem Numbered.head?_ne (h : Numbered label key (next + 1) queue)
    (hlabel : Function.Injective label) {newest : α} (hnewest : key newest = label next)
    (hlength : 1 < queue.length) : queue.head? ≠ some newest := by
  obtain ⟨first, hkeys, hnext⟩ := h
  cases queue with
  | nil => exact nofun
  | cons head rest =>
      intro heq
      cases heq
      rw [List.map_cons, List.length_cons, List.range'_succ, List.map_cons, List.cons.injEq] at hkeys
      have hfirst := hlabel (hkeys.1.symm.trans hnewest)
      omega

/-- Distinct labels make distinct keys. -/
theorem Numbered.nodup (hlabel : Function.Injective label) : (queue.map key).Nodup := by
  obtain ⟨first, hkeys, -⟩ := h
  rw [hkeys]
  exact List.Nodup.map hlabel List.nodup_range'

/-- Only the keys count. -/
theorem Numbered.of_map_eq {queue' : List α}
    (hkeys : queue'.map key = queue.map key) : Numbered label key next queue' := by
  have hlength : queue'.length = queue.length := by
    rw [← List.length_map (f := key), hkeys, List.length_map]
  obtain ⟨first, hrange, hnext⟩ := h
  exact ⟨first, by rw [hkeys, hrange, hlength], by rw [hlength, hnext]⟩

end

end Numbered

/-! ### Logs -/

section Logged

variable {key : α → ℕ} {log : List α}

/-- Every entry of the log carries its position, counted from one. -/
def Logged (key : α → ℕ) (log : List α) : Prop := log.map key = List.range' 1 log.length

theorem logged_nil : Logged key [] := rfl

theorem Logged.concat (h : Logged key log) (hitem : key item = log.length + 1) :
    Logged key (log ++ [item]) := by
  unfold Logged at h ⊢
  rw [List.map_append, h, List.map_singleton, hitem, List.length_append, List.length_singleton,
    List.range'_1_concat, Nat.add_comm 1]

theorem Logged.key_getElem (h : Logged key log) {index : ℕ} (hindex : index < log.length) :
    key log[index] = index + 1 := by
  have hat : (log.map key)[index]? = some (index + 1) := by
    rw [show log.map key = List.range' 1 log.length from h, List.getElem?_range' hindex]
    simp only [Nat.one_mul, Nat.add_comm]
  rw [List.getElem?_map, List.getElem?_eq_getElem hindex] at hat
  exact Option.some.inj hat

theorem Logged.pairwise (h : Logged key log) :
    log.Pairwise fun one other => key one < key other := by
  refine List.pairwise_map.mp ?_
  rw [show log.map key = List.range' 1 log.length from h]
  exact List.pairwise_lt_range'

/-- The entries at positions after `low` and up to `high`. -/
theorem Logged.mem_slice (h : Logged key log) {low high : ℕ} :
    item ∈ (log.take high).drop low ↔ item ∈ log ∧ low < key item ∧ key item ≤ high := by
  constructor
  · intro hmem
    obtain ⟨index, hindex, rfl⟩ := List.getElem_of_mem hmem
    rw [List.length_drop, List.length_take] at hindex
    rw [List.getElem_drop, List.getElem_take, h.key_getElem (by omega)]
    exact ⟨List.getElem_mem _, by omega, by omega⟩
  · intro ⟨hmem, hlow, hhigh⟩
    obtain ⟨index, hindex, rfl⟩ := List.getElem_of_mem hmem
    rw [h.key_getElem hindex] at hlow hhigh
    refine List.mem_iff_getElem.mpr ⟨index - low, ?_, ?_⟩
    · rw [List.length_drop, List.length_take]
      omega
    · rw [List.getElem_drop, List.getElem_take]
      congr 1
      omega

/-- What is left of a log, read by somebody who has come to position `cursor`. -/
theorem Logged.filter_drop (h : Logged key log) {kept : ℕ} (hkept : kept ≤ log.length)
    (cursor : ℕ) :
    (log.drop kept).filter (fun entry => cursor < key entry) = log.drop (max cursor kept) := by
  have hsplit : log.drop kept =
      (log.take (max cursor kept)).drop kept ++ log.drop (max cursor kept) := by
    rw [← List.drop_append_of_le_length (by rw [List.length_take]; omega), List.take_append_drop]
  rw [hsplit, List.filter_append]
  have hknown : ((log.take (max cursor kept)).drop kept).filter
      (fun entry => cursor < key entry) = [] := by
    refine List.filter_eq_nil_iff.mpr fun entry hentry => ?_
    obtain ⟨-, hlow, hhigh⟩ := h.mem_slice.mp hentry
    simp only [decide_eq_true_eq]
    omega
  have hnew : (log.drop (max cursor kept)).filter (fun entry => cursor < key entry) =
      log.drop (max cursor kept) := by
    refine List.filter_eq_self.mpr fun entry hentry => ?_
    rw [← List.take_length (l := log)] at hentry
    obtain ⟨-, hlow, -⟩ := h.mem_slice.mp hentry
    exact decide_eq_true (by omega)
  rw [hknown, hnew, List.nil_append]

end Logged

end Kernmux.Library
