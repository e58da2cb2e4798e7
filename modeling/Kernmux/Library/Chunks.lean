import Mathlib.Data.List.Basic
import Mathlib.Tactic.Common

/-!
# Kernmux.Library.Chunks

**Chunks of one size.** A list is cut into chunks of a fixed size; items that do
not fill a chunk are left out. When nothing is left out, the chunks are the only
ones of that size that make up the list.
-/

namespace Kernmux.Library

variable {α : Type*} {size : ℕ}

/-- The full chunks of a list, from its beginning. -/
def asChunks (size : ℕ) (items : List α) : List (List α) :=
  (List.range (items.length / size)).map fun index => (items.drop (index * size)).take size

theorem asChunks_append {chunk : List α} (hpos : 0 < size) (hchunk : chunk.length = size)
    (items : List α) : asChunks size (chunk ++ items) = chunk :: asChunks size items := by
  have hcount : (chunk ++ items).length / size = items.length / size + 1 := by
    rw [List.length_append, hchunk, Nat.add_comm, Nat.add_div_right _ hpos]
  rw [asChunks, hcount, List.range_succ_eq_map, List.map_cons, List.map_map]
  congr 1
  · rw [Nat.zero_mul, List.drop_zero, ← hchunk, List.take_left]
  · refine List.map_congr_left fun index _ => ?_
    have hskip : index.succ * size = chunk.length + index * size := by
      rw [Nat.succ_mul, hchunk, Nat.add_comm]
    rw [Function.comp_apply, hskip, List.drop_length_add_append]

theorem asChunks_of_length_lt {items : List α} (h : items.length < size) :
    asChunks size items = [] := by
  rw [asChunks, Nat.div_eq_of_lt h]
  rfl

/-- Chunks of one size are found again in what they make up. -/
theorem asChunks_flatten (hpos : 0 < size) {chunks : List (List α)}
    (h : ∀ chunk ∈ chunks, chunk.length = size) : asChunks size chunks.flatten = chunks := by
  induction chunks with
  | nil => exact asChunks_of_length_lt hpos
  | cons chunk chunks ih =>
      obtain ⟨hchunk, hchunks⟩ := List.forall_mem_cons.mp h
      rw [List.flatten_cons, asChunks_append hpos hchunk, ih hchunks]

theorem dvd_length_flatten {chunks : List (List α)} (h : ∀ chunk ∈ chunks, chunk.length = size) :
    size ∣ chunks.flatten.length := by
  induction chunks with
  | nil => exact Nat.dvd_zero size
  | cons chunk chunks ih =>
      obtain ⟨hchunk, hchunks⟩ := List.forall_mem_cons.mp h
      rw [List.flatten_cons, List.length_append, hchunk]
      exact Nat.dvd_add (Nat.dvd_refl size) (ih hchunks)

/-- A list whose length is a multiple of the size is made up of its chunks. -/
theorem asChunks_eq_iff (hpos : 0 < size) {items : List α} (hdvd : size ∣ items.length)
    {chunks : List (List α)} :
    asChunks size items = chunks ↔
      items = chunks.flatten ∧ ∀ chunk ∈ chunks, chunk.length = size := by
  constructor
  · intro h
    obtain ⟨count, hcount⟩ := hdvd
    induction count generalizing items chunks with
    | zero =>
        have hnil : items = [] := List.eq_nil_of_length_eq_zero (by rw [hcount, Nat.mul_zero])
        subst hnil
        rw [asChunks_of_length_lt hpos] at h
        subst h
        exact ⟨rfl, by simp⟩
    | succ count ih =>
        rw [Nat.mul_succ] at hcount
        have hfirst : (items.take size).length = size := by
          rw [List.length_take, hcount, Nat.min_eq_left (Nat.le_add_left _ _)]
        have hrest : (items.drop size).length = size * count := by
          rw [List.length_drop, hcount, Nat.add_sub_cancel]
        obtain ⟨hflatten, hlengths⟩ := ih rfl hrest
        rw [← List.take_append_drop size items, asChunks_append hpos hfirst] at h
        subst h
        exact ⟨by rw [List.flatten_cons, ← hflatten, List.take_append_drop],
          List.forall_mem_cons.mpr ⟨hfirst, hlengths⟩⟩
  · intro ⟨hitems, hlengths⟩
    rw [hitems, asChunks_flatten hpos hlengths]

end Kernmux.Library
