import Kernmux.Library.Text

/-!
# Kernmux.Library.PathText

**Paths as text.** A path is bytes and need not be text. Where a program writes
a path as text all the same, every stretch of bytes that is no character becomes
a replacement character, and the text then names another path. A path with a
name after it is text exactly when the path is.
-/

namespace Kernmux.Library

/-- The ranges of the bytes that have to follow a first byte; `none` when no character begins with
it. -/
def followRanges (first : UInt8) : Option (List (UInt8 × UInt8)) :=
  let any : UInt8 × UInt8 := (0x80, 0xbf)
  if first < 0x80 then some []
  else if first < 0xc2 then none
  else if first < 0xe0 then some [any]
  else if first = 0xe0 then some [(0xa0, 0xbf), any]
  else if first = 0xed then some [(0x80, 0x9f), any]
  else if first < 0xf0 then some [any, any]
  else if first = 0xf0 then some [(0x90, 0xbf), any, any]
  else if first < 0xf4 then some [any, any, any]
  else if first = 0xf4 then some [(0x80, 0x8f), any, any]
  else none

/-- How many of the bytes follow as they should. -/
def followCount : List (UInt8 × UInt8) → List UInt8 → ℕ
  | (low, high) :: ranges, byte :: bytes =>
      if low ≤ byte && byte ≤ high then followCount ranges bytes + 1 else 0
  | _, _ => 0

/-- The character whose bytes these are. -/
def decodeChar (first : UInt8) (follow : List UInt8) : Char :=
  let lead := first.toNat % 2 ^ (match follow.length with | 0 => 7 | count => 6 - count)
  Char.ofNat (follow.foldl (fun value byte => value * 64 + byte.toNat % 64) lead)

/-- The characters of the bytes; what begins a character and does not end it is replaced as one. -/
def lossyChars : ℕ → List UInt8 → List Char
  | fuel + 1, first :: rest =>
      match followRanges first with
      | none => '�' :: lossyChars fuel rest
      | some ranges =>
          let count := followCount ranges rest
          let char := if count = ranges.length then decodeChar first (rest.take count) else '�'
          char :: lossyChars fuel (rest.drop count)
  | _, _ => []

namespace OsString

/-- The text of a path, with replacements where it is no text. -/
def toStringLossy (path : OsString) : String :=
  path.toStr.getD (String.ofList (lossyChars path.bytes.length path.bytes))

example : toStringLossy ⟨[0x2f, 0xc3, 0xa9, 0xe2, 0x82, 0x61, 0xff]⟩ = "/é�a�" := by
  decide +kernel

/-- Written as text, only a path that is text names itself. -/
theorem ofString_toStringLossy {path : OsString} :
    ofString path.toStringLossy = path ↔ path.toStr.isSome = true := by
  constructor
  · intro h
    rw [← h, toStr_ofString]
    rfl
  · intro h
    obtain ⟨text, htext⟩ := Option.isSome_iff_exists.mp h
    rw [toStringLossy, htext, Option.getD_some, eq_ofString_of_toStr htext]

end OsString

/-- A byte below 128 does not stand in a longer character. -/
theorem utf8EncodeChar_eq_singleton {char : Char} {byte : UInt8}
    (hbyte : byte ∈ String.utf8EncodeChar char) (hascii : byte < 128) :
    String.utf8EncodeChar char = [byte] := by
  by_cases hsmall : char.val.toNat ≤ 127
  · rw [String.utf8EncodeChar, if_pos hsmall] at hbyte ⊢
    rw [List.mem_singleton.mp hbyte]
  · have hlarge : ∀ number : ℕ, 128 ≤ number → number < 256 → byte ≠ UInt8.ofNat number := by
      intro number hlow hhigh heq
      have hlt := UInt8.lt_iff_toNat_lt.mp hascii
      rw [heq, UInt8.toNat_ofNat', Nat.mod_eq_of_lt hhigh] at hlt
      exact absurd hlt (Nat.not_lt.mpr hlow)
    simp only [String.utf8EncodeChar, if_neg hsmall] at hbyte
    split_ifs at hbyte
    all_goals
      simp only [List.mem_cons, List.not_mem_nil, or_false] at hbyte
    · rcases hbyte with h | h <;> exact absurd h (hlarge _ (by omega) (by omega))
    · rcases hbyte with h | h | h <;> exact absurd h (hlarge _ (by omega) (by omega))
    · rcases hbyte with h | h | h | h <;> exact absurd h (hlarge _ (by omega) (by omega))

/-- Text that is cut before a byte below 128 is cut between two characters. -/
theorem exists_flatMap_eq {chars : List Char} {bytes rest : List UInt8} {byte : UInt8}
    (hascii : byte < 128) (h : chars.flatMap String.utf8EncodeChar = bytes ++ byte :: rest) :
    ∃ front : List Char, front.flatMap String.utf8EncodeChar = bytes := by
  induction chars generalizing bytes with
  | nil => simp at h
  | cons char chars ih =>
      rw [List.flatMap_cons] at h
      obtain ⟨more, hbytes, hrest⟩ | ⟨more, hchar, hrest⟩ := List.append_eq_append_iff.mp h
      · -- the first character lies before the cut
        obtain ⟨front, hfront⟩ := ih hrest
        exact ⟨char :: front, by rw [List.flatMap_cons, hfront, hbytes]⟩
      · cases more with
        | nil => exact ⟨[char], by simpa using hchar⟩
        | cons first more =>
            -- a character across the cut is the byte after it
            obtain ⟨rfl, _⟩ := List.cons.inj hrest
            have hsingle := utf8EncodeChar_eq_singleton
              (by rw [hchar]; exact List.mem_append_right _ List.mem_cons_self) hascii
            rw [hchar] at hsingle
            have hempty : bytes = [] := by
              have hlength := congrArg List.length hsingle
              simp only [List.length_append, List.length_cons, List.length_nil] at hlength
              exact List.eq_nil_of_length_eq_zero (by omega)
            exact ⟨[], by rw [hempty]; rfl⟩

namespace OsString

theorem toStr_isSome_iff {path : OsString} : path.toStr.isSome = true ↔ ∃ chars : List Char,
      chars.flatMap String.utf8EncodeChar = path.bytes := by
  rw [Option.isSome_iff_exists]
  constructor
  · intro ⟨text, htext⟩
    refine ⟨text.toList, ?_⟩
    rw [eq_ofString_of_toStr htext, ofString, ← utf8Bytes_eq_flatMap]
  · intro ⟨chars, hchars⟩
    refine ⟨String.ofList chars, ?_⟩
    have hpath : path = ofString (String.ofList chars) := by
      rw [ofString, utf8Bytes_eq_flatMap, String.toList_ofList, hchars]
    rw [hpath, toStr_ofString]

/-- A path with a name after it is text when the path is. -/
theorem toStr_join_isSome {path : OsString} {name : String} {byte : UInt8} {rest : List UInt8}
    (hname : utf8Bytes name = byte :: rest) (hascii : byte < 128) :
    (path.join (ofString name)).toStr.isSome = true ↔ path.toStr.isSome = true := by
  simp only [toStr_isSome_iff, join, ofString]
  split
  · constructor
    · intro ⟨chars, hchars⟩
      rw [hname] at hchars
      exact exists_flatMap_eq hascii hchars
    · intro ⟨chars, hchars⟩
      refine ⟨chars ++ name.toList, ?_⟩
      rw [List.flatMap_append, hchars, utf8Bytes_eq_flatMap]
  · constructor
    · intro ⟨chars, hchars⟩
      exact exists_flatMap_eq (by decide) hchars
    · intro ⟨chars, hchars⟩
      have hslash : String.utf8EncodeChar '/' = [47] := by decide
      refine ⟨chars ++ '/' :: name.toList, ?_⟩
      rw [List.flatMap_append, hchars, List.flatMap_cons, hslash, utf8Bytes_eq_flatMap]
      rfl

end OsString

end Kernmux.Library
