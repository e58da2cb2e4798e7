import Kernmux.Library.Faulty
import Mathlib.Algebra.GroupWithZero.Nat
import Mathlib.Data.List.Basic

/-!
# Kernmux.Library.Stream

**Byte streams that answer as they like.** A read may return any piece of what
has arrived, a write may accept any part of what it is given, and both may fail
in any way, in any order. A stream is the list of answers it is going to give;
when the list is at its end the next call never returns, so that what holds for
all lists holds at every moment of every run.
-/

namespace Kernmux.Library

/-- Category of an I/O failure. -/
inductive IoErrorKind
  | interrupted
  | wouldBlock
  | notFound
  | brokenPipe
  | connectionAborted
  | connectionReset
  | unexpectedEof
  | writeZero
  | alreadyExists
  | other
  deriving DecidableEq, Repr

/-- An I/O failure, with the operating system's number where it has one. -/
structure IoError where
  kind : IoErrorKind
  rawOsError : Option Int
  deriving DecidableEq, Repr

/-- A failure that the operating system has no number for. -/
def IoError.ofKind (kind : IoErrorKind) : IoError := ⟨kind, none⟩

/-- What a read finds: bytes (none at all at the end of the stream) or a failure. -/
inductive ReadReply
  | data (bytes : List UInt8)
  | failed (error : IoError)
  deriving DecidableEq, Repr

/-- What a write meets: room for some bytes, or a failure. -/
inductive WriteReply
  | accepts (limit : ℕ)
  | failed (error : IoError)
  deriving DecidableEq, Repr

/-- The answers a stream is going to give. -/
structure ByteStream where
  reads : List ReadReply
  writes : List WriteReply
  deriving DecidableEq, Repr

/-- One read into a buffer of `limit` bytes. What does not fit stays for the next one. -/
def readSome (limit : ℕ) : List ReadReply → Ended IoError (List UInt8) × List ReadReply
  | [] => (.stopped, [])
  | .failed error :: rest => (.error error, rest)
  | .data bytes :: rest =>
      (.ok (bytes.take limit),
        if bytes.length ≤ limit then rest else .data (bytes.drop limit) :: rest)

/-- Fill a buffer of `count` bytes; interruptions are ignored. -/
def readExact : ℕ → List ReadReply → Ended IoError (List UInt8) × List ReadReply
  | 0, replies => (.ok [], replies)
  | _ + 1, [] => (.stopped, [])
  | count + 1, .failed error :: rest =>
      if error.kind = .interrupted then readExact (count + 1) rest else (.error error, rest)
  | count + 1, .data bytes :: rest =>
      if bytes = [] then (.error (.ofKind .unexpectedEof), rest)
      else if count + 1 < bytes.length then
        (.ok (bytes.take (count + 1)), .data (bytes.drop (count + 1)) :: rest)
      else
        match readExact (count + 1 - bytes.length) rest with
        | (.ok more, left) => (.ok (bytes ++ more), left)
        | ended => ended

/-- What is still to be read: every answer counts, and every byte. -/
def backlog (replies : List ReadReply) : ℕ :=
  (replies.map fun
    | .data bytes => bytes.length + 1
    | .failed _ => 1).sum

@[simp] theorem backlog_cons_data (bytes : List UInt8) (replies : List ReadReply) :
    backlog (.data bytes :: replies) = bytes.length + 1 + backlog replies := rfl

@[simp] theorem backlog_cons_failed (error : IoError) (replies : List ReadReply) :
    backlog (.failed error :: replies) = 1 + backlog replies := rfl

/-- The bytes that are still to be read. -/
def arriving (replies : List ReadReply) : List UInt8 :=
  replies.flatMap fun
    | .data bytes => bytes
    | .failed _ => []

@[simp] theorem arriving_cons_data (bytes : List UInt8) (replies : List ReadReply) :
    arriving (.data bytes :: replies) = bytes ++ arriving replies := rfl

@[simp] theorem arriving_cons_failed (error : IoError) (replies : List ReadReply) :
    arriving (.failed error :: replies) = arriving replies := rfl

/-- These bytes were taken from what was still to be read. -/
structure Took (replies : List ReadReply) (taken : List UInt8) (left : List ReadReply) : Prop where
  bytes : arriving replies = taken ++ arriving left
  backlog : backlog left + taken.length ≤ backlog replies

theorem Took.refl (replies : List ReadReply) : Took replies [] replies := ⟨rfl, Nat.le_refl _⟩

variable {replies : List ReadReply} {bytes : List UInt8} {count : ℕ}

theorem Took.trans {middle left : List ReadReply} {first second : List UInt8}
    (hfirst : Took replies first middle) (hsecond : Took middle second left) :
    Took replies (first ++ second) left := by
  refine ⟨by rw [hfirst.bytes, hsecond.bytes, List.append_assoc], ?_⟩
  have := hfirst.backlog
  have := hsecond.backlog
  rw [List.length_append]
  omega

theorem took_failed (error : IoError) (replies : List ReadReply) :
    Took (.failed error :: replies) [] replies := by
  refine ⟨rfl, ?_⟩
  rw [backlog_cons_failed, List.length_nil]
  omega

theorem took_data (bytes : List UInt8) (replies : List ReadReply) :
    Took (.data bytes :: replies) bytes replies := by
  refine ⟨rfl, ?_⟩
  rw [backlog_cons_data]
  omega

/-- What does not fit stays. -/
theorem took_take (replies : List ReadReply) :
    Took (.data bytes :: replies) (bytes.take count) (.data (bytes.drop count) :: replies) := by
  refine ⟨by simp [← List.append_assoc], ?_⟩
  simp only [backlog_cons_data, List.length_drop, List.length_take]
  omega

/-- A read takes the bytes that it returns, which fit into the buffer. -/
theorem readSome_took (limit : ℕ) (replies : List ReadReply) :
    Took replies ((readSome limit replies).1.value?.getD []) (readSome limit replies).2 ∧
      ∀ bytes, (readSome limit replies).1 = .ok bytes → bytes.length ≤ limit := by
  match replies with
  | [] => exact ⟨.refl _, fun _ h => by cases h⟩
  | .failed error :: rest => exact ⟨took_failed error rest, fun _ h => by cases h⟩
  | .data bytes :: rest =>
      rw [readSome]
      refine ⟨?_, fun found hfound => Ended.ok.inj hfound ▸ List.length_take_le _ _⟩
      by_cases hfits : bytes.length ≤ limit
      · simpa [Ended.value?, hfits, List.take_of_length_le hfits] using took_data bytes rest
      · simpa [Ended.value?, hfits] using took_take rest

/-- A read that returns bytes makes the backlog smaller. -/
theorem backlog_readSome {limit : ℕ} {byte : UInt8}
    (h : (readSome limit replies).1 = .ok (byte :: bytes)) :
    backlog (readSome limit replies).2 < backlog replies := by
  have hless := (readSome_took limit replies).1.backlog
  rw [h, Ended.value?, Option.getD_some, List.length_cons] at hless
  omega

/-- The answers deliver these bytes and then the end of the stream: in pieces of any size, with
any number of interruptions. -/
inductive Delivers : List UInt8 → List ReadReply → Prop
  | finished (later : List ReadReply) : Delivers [] (.data [] :: later)
  | piece {piece bytes : List UInt8} {replies : List ReadReply} (hpiece : piece ≠ [])
      (h : Delivers bytes replies) : Delivers (piece ++ bytes) (.data piece :: replies)
  | interrupted {error : IoError} {bytes : List UInt8} {replies : List ReadReply}
      (herror : error.kind = .interrupted) (h : Delivers bytes replies) :
      Delivers bytes (.failed error :: replies)

/-- A buffer is filled with the next bytes, and the others are still to come. -/
theorem Delivers.readExact_of_le (h : Delivers bytes replies) (hcount : count ≤ bytes.length) :
    ∃ left, readExact count replies = (.ok (bytes.take count), left) ∧
      Delivers (bytes.drop count) left := by
  induction h generalizing count with
  | finished later =>
      obtain rfl : count = 0 := Nat.le_zero.mp hcount
      exact ⟨_, by rw [readExact, List.take_zero], .finished later⟩
  | @piece piece bytes replies hpiece h ih =>
      cases count with
      | zero => exact ⟨_, by rw [readExact, List.take_zero], .piece hpiece h⟩
      | succ count =>
          rw [List.length_append] at hcount
          by_cases hlong : count + 1 < piece.length
          · -- the piece is longer than the buffer
            have hrest : piece.drop (count + 1) ≠ [] := by
              intro hnil
              have := List.drop_eq_nil_iff.mp hnil
              omega
            refine ⟨.data (piece.drop (count + 1)) :: replies, ?_, ?_⟩
            · rw [readExact, if_neg hpiece, if_pos hlong,
                List.take_append_of_le_length (Nat.le_of_lt hlong)]
            · rw [List.drop_append_of_le_length (Nat.le_of_lt hlong)]
              exact .piece hrest h
          · have hle : piece.length ≤ count + 1 := Nat.le_of_not_lt hlong
            obtain ⟨left, hread, hleft⟩ := @ih (count + 1 - piece.length) (by omega)
            refine ⟨left, ?_, ?_⟩
            · rw [readExact, if_neg hpiece, if_neg hlong, hread, List.take_append,
                List.take_of_length_le hle]
            · rw [List.drop_append, List.drop_eq_nil_of_le hle, List.nil_append]
              exact hleft
  | @interrupted error bytes replies herror h ih =>
      cases count with
      | zero => exact ⟨_, by rw [readExact, List.take_zero], .interrupted herror h⟩
      | succ count =>
          obtain ⟨left, hread, hleft⟩ := ih hcount
          exact ⟨left, by rw [readExact, if_pos herror, hread], hleft⟩

/-- The end of the stream comes before the buffer is full. -/
theorem Delivers.readExact_of_lt (h : Delivers bytes replies) (hcount : bytes.length < count) :
    (readExact count replies).1 = .error (.ofKind .unexpectedEof) := by
  obtain ⟨count, rfl⟩ := Nat.exists_eq_succ_of_ne_zero (Nat.ne_zero_of_lt hcount)
  induction h generalizing count with
  | finished later => rw [readExact, if_pos rfl]
  | @piece piece bytes replies hpiece h ih =>
      rw [List.length_append] at hcount
      obtain ⟨rest, hrest⟩ : ∃ rest, count + 1 - piece.length = rest + 1 :=
        ⟨count - piece.length, by omega⟩
      have hread := ih rest (by omega)
      rw [readExact, if_neg hpiece, if_neg (by omega), hrest]
      split
      case h_1 more left hmore => simp [hmore] at hread
      case h_2 => exact hread
  | @interrupted error bytes replies herror h ih =>
      rw [readExact, if_pos herror]
      exact ih count hcount

/-- No read fails. -/
def NoFailure (replies : List ReadReply) : Prop := ∀ reply ∈ replies, ∃ bytes, reply = .data bytes

theorem NoFailure.tail {reply : ReadReply} (h : NoFailure (reply :: replies)) : NoFailure replies :=
  fun other hother => h other (List.mem_cons_of_mem _ hother)

theorem NoFailure.data (h : NoFailure replies) (bytes : List UInt8) :
    NoFailure (.data bytes :: replies) :=
  List.forall_mem_cons.mpr ⟨⟨bytes, rfl⟩, h⟩

/-- Pieces and the end of the stream. -/
theorem delivers_pieces {pieces : List (List UInt8)} (h : ∀ piece ∈ pieces, piece ≠ []) :
    Delivers pieces.flatten (pieces.map .data ++ [.data []]) ∧
      NoFailure (pieces.map .data ++ [.data []]) := by
  induction pieces with
  | nil => exact ⟨.finished [], by simp [NoFailure]⟩
  | cons piece pieces ih =>
      obtain ⟨hpiece, hpieces⟩ := List.forall_mem_cons.mp h
      obtain ⟨hrest, hdata⟩ := ih hpieces
      exact ⟨.piece hpiece hrest, hdata.data piece⟩

/-- One read takes a first part of what is still to come, and nothing only at the end. -/
theorem Delivers.readSome_of_noFailure (h : Delivers bytes replies) (hdata : NoFailure replies)
    {limit : ℕ} (hlimit : 0 < limit) :
    ∃ piece rest left, bytes = piece ++ rest ∧ readSome limit replies = (.ok piece, left) ∧
      (piece = [] → bytes = []) ∧ (piece ≠ [] → Delivers rest left ∧ NoFailure left) := by
  cases h with
  | finished later =>
      refine ⟨[], [], later, rfl, ?_, fun _ => rfl, fun hne => absurd rfl hne⟩
      simp [readSome]
  | @piece piece bytes replies hpiece h =>
      have hdata := hdata.tail
      have hsome : piece.take limit ≠ [] := by
        simp only [ne_eq, List.take_eq_nil_iff, not_or]
        exact ⟨by omega, hpiece⟩
      by_cases hfits : piece.length ≤ limit
      · refine ⟨piece, bytes, replies, rfl, ?_, fun hnil => absurd hnil hpiece, fun _ => ⟨h, hdata⟩⟩
        rw [readSome, if_pos hfits, List.take_of_length_le hfits]
      · have hrest : piece.drop limit ≠ [] := by
          intro hnil
          have := List.drop_eq_nil_iff.mp hnil
          omega
        refine ⟨piece.take limit, piece.drop limit ++ bytes, .data (piece.drop limit) :: replies,
          ?_, ?_, fun hnil => absurd hnil hsome, fun _ => ⟨.piece hrest h, hdata.data _⟩⟩
        · rw [← List.append_assoc, List.take_append_drop]
        · rw [readSome, if_neg hfits]
  | @interrupted error bytes replies herror h =>
      obtain ⟨bytes, hbytes⟩ := hdata _ List.mem_cons_self
      cases hbytes

theorem NoFailure.readExact (h : NoFailure replies) (count : ℕ) :
    NoFailure (readExact count replies).2 := by
  fun_induction Library.readExact count replies with
  | case1 | case2 => exact h
  | case3 count error rest _ ih => exact ih h.tail
  | case4 | case5 => exact h.tail
  | case6 count bytes rest => exact h.tail.data _
  | case7 count bytes rest _ _ more left hread ih =>
      rw [hread] at ih
      exact ih h.tail
  | case8 count bytes rest _ _ _ ih => exact ih h.tail

/-! ### Numbers on the wire -/

/-- Big-endian bytes of a 32-bit number. -/
def toBeBytes (number : ℕ) : List UInt8 :=
  [.ofNat (number / 2 ^ 24), .ofNat (number / 2 ^ 16), .ofNat (number / 2 ^ 8), .ofNat number]

/-- The number with these big-endian bytes. -/
def fromBeBytes (bytes : List UInt8) : ℕ :=
  bytes.foldl (fun number byte => number * 2 ^ 8 + byte.toNat) 0

theorem fromBeBytes_toBeBytes {number : ℕ} (h : number < 2 ^ 32) :
    fromBeBytes (toBeBytes number) = number := by
  simp only [fromBeBytes, toBeBytes, List.foldl_cons, List.foldl_nil, UInt8.toNat_ofNat']
  omega

/-- Four bytes are a number, and the number is these bytes. -/
theorem toBeBytes_fromBeBytes (h : bytes.length = 4) :
    fromBeBytes bytes < 2 ^ 32 ∧ toBeBytes (fromBeBytes bytes) = bytes := by
  match bytes, h with
  | [a, b, c, d], _ =>
      have ha := a.toNat_lt
      have hb := b.toNat_lt
      have hc := c.toNat_lt
      have hd := d.toNat_lt
      simp only [fromBeBytes, toBeBytes, List.foldl_cons, List.foldl_nil, List.cons.injEq,
        and_true, ← UInt8.toNat_inj, UInt8.toNat_ofNat']
      omega

theorem fromBeBytes_append {others : List UInt8} (h : others.length = 4) :
    fromBeBytes (bytes ++ others) = fromBeBytes bytes * 2 ^ 32 + fromBeBytes others := by
  match others, h with
  | [a, b, c, d], _ =>
      simp only [fromBeBytes, List.foldl_append, List.foldl_cons, List.foldl_nil]
      omega

end Kernmux.Library
