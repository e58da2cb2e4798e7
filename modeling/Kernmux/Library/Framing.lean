import Mathlib.Data.List.Basic
import Mathlib.Tactic.Common

/-!
# Kernmux.Library.Framing

**Frames in a byte stream that arrives in pieces.** A format writes a frame
(`emit`) and reads one from the beginning of some bytes (`parse`), or finds that
more bytes are needed. A receiver keeps what it cannot use yet and takes the
frames there are from the buffer whenever bytes arrive.

However the stream is cut, the frames taken are those that have arrived
completely (`within`), and what is kept is shorter than the frame it begins
(`Pending`): this is what `takeFrames_of_append` carries from one piece to the
next.
-/

namespace Kernmux.Library

variable {φ β : Type*}

/-- The pieces make up the stream; none is empty or longer than `limit`. -/
structure Cut (limit : ℕ) (stream : List β) (pieces : List (List β)) : Prop where
  flatten_eq : pieces.flatten = stream
  ne_nil : ∀ piece ∈ pieces, piece ≠ []
  length_le : ∀ piece ∈ pieces, piece.length ≤ limit

/-- What the beginning of a byte stream shows. -/
inductive Parsed (φ β : Type*)
  | frame (frame : φ) (rest : List β)
  | more
  | malformed

/-- A format for frames `φ` in a stream of `β`. -/
structure Framing (φ β : Type*) where
  emit : φ → List β
  parse : List β → Parsed φ β
  /-- Frames that the format is for. -/
  valid : φ → Prop
  parse_nil : parse [] = .more
  parse_emit : ∀ {frame : φ} (rest : List β), valid frame →
    parse (emit frame ++ rest) = .frame frame rest
  parse_short : ∀ {frame : φ} {bytes missing : List β}, valid frame → missing ≠ [] →
    emit frame = bytes ++ missing → parse bytes = .more
  parse_shrinks : ∀ {bytes rest : List β} {frame : φ}, parse bytes = .frame frame rest →
    rest.length < bytes.length

namespace Framing

variable (format : Framing φ β)

/-- The frames at the beginning of some bytes and the bytes after them; nothing when one of
them is malformed. -/
def takeFrames (bytes : List β) : Option (List φ × List β) :=
  match _ : format.parse bytes with
  | .malformed => none
  | .more => some ([], bytes)
  | .frame first rest => do
      let (frames, left) ← takeFrames rest
      return (first :: frames, left)
termination_by bytes.length
decreasing_by exact format.parse_shrinks ‹_›

theorem takeFrames_of_more {bytes : List β} (h : format.parse bytes = .more) :
    format.takeFrames bytes = some ([], bytes) := by
  unfold takeFrames
  split <;> simp_all

theorem takeFrames_of_frame {bytes rest left : List β} {first : φ} {frames : List φ}
    (h : format.parse bytes = .frame first rest)
    (hrest : format.takeFrames rest = some (frames, left)) :
    format.takeFrames bytes = some (first :: frames, left) := by
  unfold takeFrames
  split <;> simp_all

/-- The frames that are complete within the first `count` bytes. -/
def within : ℕ → List φ → List φ
  | _, [] => []
  | count, frame :: frames =>
      if (format.emit frame).length ≤ count then
        frame :: within (count - (format.emit frame).length) frames
      else []

/-- The bytes begin the next frame and do not complete it. -/
def Pending (bytes : List β) (frames : List φ) : Prop :=
  ∀ frame ∈ frames.head?, bytes.length < (format.emit frame).length

variable {format}

theorem within_append (complete frames : List φ) (count : ℕ) :
    format.within ((complete.flatMap format.emit).length + count) (complete ++ frames) =
      complete ++ format.within count frames := by
  induction complete with
  | nil => rw [List.flatMap_nil, List.length_nil, Nat.zero_add, List.nil_append, List.nil_append]
  | cons frame complete ih =>
      have hcount : (format.emit frame).length + (complete.flatMap format.emit).length + count -
          (format.emit frame).length = (complete.flatMap format.emit).length + count := by omega
      rw [List.flatMap_cons, List.length_append, List.cons_append, within, if_pos (by omega),
        hcount, ih, List.cons_append]

theorem Pending.within_eq_nil {bytes : List β} {frames : List φ}
    (h : format.Pending bytes frames) : format.within bytes.length frames = [] := by
  cases frames with
  | nil => rfl
  | cons frame frames => rw [within, if_neg (Nat.not_le.mpr (h frame rfl))]

/-- From the bytes of a stream of valid frames the complete ones are taken. What is left goes
on with the rest of the stream, and begins a frame that it does not complete. -/
theorem takeFrames_of_append {frames : List φ} {bytes future : List β}
    (hvalid : ∀ frame ∈ frames, format.valid frame)
    (hstream : bytes ++ future = frames.flatMap format.emit) :
    ∃ complete pending left, frames = complete ++ pending ∧
      format.takeFrames bytes = some (complete, left) ∧
      bytes = complete.flatMap format.emit ++ left ∧
      left ++ future = pending.flatMap format.emit ∧ format.Pending left pending := by
  induction frames generalizing bytes with
  | nil =>
      obtain ⟨rfl, rfl⟩ := List.append_eq_nil_iff.mp hstream
      refine ⟨[], [], [], rfl, format.takeFrames_of_more format.parse_nil, rfl, rfl, ?_⟩
      exact fun frame hframe => absurd hframe (by simp)
  | cons frame frames ih =>
      have hframe := hvalid frame List.mem_cons_self
      rw [List.flatMap_cons] at hstream
      by_cases hlong : (format.emit frame).length ≤ bytes.length
      · -- the first frame is complete: go on behind it
        have htake := congrArg (List.take (format.emit frame).length) hstream
        have hdrop := congrArg (List.drop (format.emit frame).length) hstream
        rw [List.take_append_of_le_length hlong, List.take_left] at htake
        rw [List.drop_append_of_le_length hlong, List.drop_left] at hdrop
        obtain ⟨complete, pending, left, hframes, htaken, hbytes, hfuture, hpending⟩ :=
          ih (fun other hother => hvalid other (List.mem_cons_of_mem _ hother)) hdrop
        have hsplit : bytes = format.emit frame ++ bytes.drop (format.emit frame).length := by
          rw [← htake, List.length_take, Nat.min_eq_left hlong, List.take_append_drop]
        refine ⟨frame :: complete, pending, left, by rw [hframes, List.cons_append],
          format.takeFrames_of_frame ?_ htaken, ?_, hfuture, hpending⟩
        · have hparse := format.parse_emit (bytes.drop (format.emit frame).length) hframe
          rwa [← hsplit] at hparse
        · rw [List.flatMap_cons, List.append_assoc, ← hbytes]
          exact hsplit
      · -- the bytes end within the first frame
        have hbegins := List.prefix_of_prefix_length_le (List.prefix_append bytes future)
          (hstream ▸ List.prefix_append (format.emit frame) _) (Nat.le_of_not_le hlong)
        obtain ⟨missing, hmissing⟩ := hbegins
        have hne : missing ≠ [] := by
          intro hnil
          rw [hnil, List.append_nil] at hmissing
          exact hlong (Nat.le_of_eq (by rw [hmissing]))
        refine ⟨[], frame :: frames, bytes, rfl,
          format.takeFrames_of_more (format.parse_short hframe hne hmissing.symm), rfl, ?_, ?_⟩
        · rw [hstream, List.flatMap_cons]
        · intro other hother
          obtain rfl : frame = other := Option.some.inj hother
          exact Nat.lt_of_not_le hlong

end Framing

end Kernmux.Library
