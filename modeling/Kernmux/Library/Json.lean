import Kernmux.Library.Text
import Mathlib.Algebra.GroupWithZero.Nat
import Mathlib.Tactic.Common

/-!
# Kernmux.Library.Json

**The scalars of compact JSON text, written and read back.** Strings are quoted
and escaped byte by byte, numbers are unsigned and decimal. A reader takes a
value off the front of the input and returns what follows it, so that its law
speaks of the written value followed by anything, and the laws of a record's
fields compose in the order in which they are written.
-/

namespace Kernmux.Library

/-- Take a value off the front of the input. -/
abbrev JsonReader (α : Type) := List UInt8 → Option (α × List UInt8)

/-! ### Escapes -/

def quoteByte : UInt8 := 34
def backslashByte : UInt8 := 92

/-- The escape letter of a byte that has one of its own. -/
def shortEscape (byte : UInt8) : Option UInt8 :=
  if byte = quoteByte then some quoteByte
  else if byte = backslashByte then some backslashByte
  else if byte = 8 then some 98
  else if byte = 9 then some 116
  else if byte = 10 then some 110
  else if byte = 12 then some 102
  else if byte = 13 then some 114
  else none

def hexDigitByte (value : ℕ) : UInt8 := UInt8.ofNat (if value < 10 then 48 + value else 87 + value)

/-- A byte of a string: escape letters, `\u00xx` for the other control characters. -/
def escapeByte (byte : UInt8) : List UInt8 :=
  match shortEscape byte with
  | some letter => [backslashByte, letter]
  | none =>
      if byte < 32 then
        [backslashByte, 117, 48, 48, hexDigitByte (byte.toNat / 16), hexDigitByte (byte.toNat % 16)]
      else [byte]

/-- The byte an escape letter stands for. -/
def unescapeLetter (letter : UInt8) : Option UInt8 :=
  if letter = quoteByte then some quoteByte
  else if letter = backslashByte then some backslashByte
  else if letter = 98 then some 8
  else if letter = 116 then some 9
  else if letter = 110 then some 10
  else if letter = 102 then some 12
  else if letter = 114 then some 13
  else none

def hexValue (digit : UInt8) : ℕ := if digit.toNat < 58 then digit.toNat - 48 else digit.toNat - 87

/-- What follows a backslash. -/
def readEscape : JsonReader UInt8
  | [] => none
  | letter :: rest =>
      match unescapeLetter letter, rest with
      | some byte, rest => some (byte, rest)
      | none, _ :: _ :: high :: low :: rest =>
          if letter = 117 then some (UInt8.ofNat (16 * hexValue high + hexValue low), rest)
          else none
      | none, _ => none

/-- One byte of a string, as `escapeByte` writes it. -/
def readEscaped : JsonReader UInt8
  | [] => none
  | byte :: rest => if byte = backslashByte then readEscape rest else some (byte, rest)

theorem unescapeLetter_of_shortEscape {byte letter : UInt8} (h : shortEscape byte = some letter) :
    unescapeLetter letter = some byte := by
  unfold shortEscape at h
  split_ifs at h with hquote hbackslash hb ht hn hf hr
  all_goals obtain rfl := Option.some.inj h; subst byte; rfl

theorem hexValue_hexDigitByte {value : ℕ} (h : value < 16) :
    hexValue (hexDigitByte value) = value := by
  revert value
  decide

theorem readEscaped_escapeByte (byte : UInt8) (rest : List UInt8) :
    readEscaped (escapeByte byte ++ rest) = some (byte, rest) := by
  unfold escapeByte
  cases hshort : shortEscape byte with
  | some letter =>
      show readEscape (letter :: rest) = some (byte, rest)
      simp only [readEscape, unescapeLetter_of_shortEscape hshort]
  | none =>
      have hplain : byte ≠ backslashByte := by
        intro hbyte
        rw [hbyte] at hshort
        cases hshort
      by_cases hcontrol : byte < 32
      · have hsplit : 16 * (byte.toNat / 16) + byte.toNat % 16 = byte.toNat := Nat.div_add_mod _ _
        have hhigh : byte.toNat / 16 < 16 := Nat.div_lt_of_lt_mul byte.toNat_lt
        simp only [hcontrol, if_true]
        show some (UInt8.ofNat (16 * hexValue (hexDigitByte (byte.toNat / 16)) +
          hexValue (hexDigitByte (byte.toNat % 16))), rest) = some (byte, rest)
        rw [hexValue_hexDigitByte hhigh, hexValue_hexDigitByte (Nat.mod_lt _ (by decide)), hsplit,
          UInt8.ofNat_toNat]
      · simp only [hcontrol, if_false]
        exact if_neg hplain

theorem length_escapeByte_le (byte : UInt8) : (escapeByte byte).length ≤ 6 := by
  unfold escapeByte
  split
  · exact Nat.le_of_ble_eq_true rfl
  · split <;> exact Nat.le_of_ble_eq_true rfl

/-- No byte is written as something that begins with a quote. -/
theorem escapeByte_eq_cons (byte : UInt8) :
    ∃ first more, escapeByte byte = first :: more ∧ first ≠ quoteByte := by
  unfold escapeByte
  cases hshort : shortEscape byte with
  | some letter => exact ⟨_, _, rfl, by decide⟩
  | none =>
      by_cases hcontrol : byte < 32
      · exact ⟨_, _, if_pos hcontrol, by decide⟩
      · refine ⟨byte, [], if_neg hcontrol, fun hquote => ?_⟩
        rw [hquote] at hshort
        cases hshort

/-! ### Strings -/

def writeString (text : String) : List UInt8 :=
  quoteByte :: ((utf8Bytes text).flatMap escapeByte ++ [quoteByte])

/-- Bytes up to the closing quote. -/
def readQuoted : ℕ → JsonReader (List UInt8)
  | 0, _ => none
  | _ + 1, [] => none
  | fuel + 1, byte :: rest =>
      if byte = quoteByte then some ([], rest)
      else do
        let (value, rest) ← readEscaped (byte :: rest)
        let (more, rest) ← readQuoted fuel rest
        return (value :: more, rest)

/-- A string; its bytes are text. -/
def readString : JsonReader String
  | [] => none
  | byte :: rest => do
      guard (byte = quoteByte)
      let (bytes, left) ← readQuoted (rest.length + 1) rest
      let text ← ofUtf8 bytes
      return (text, left)

theorem readQuoted_append {fuel : ℕ} (bytes rest : List UInt8) (hfuel : bytes.length < fuel) :
    readQuoted fuel (bytes.flatMap escapeByte ++ quoteByte :: rest) = some (bytes, rest) := by
  induction bytes generalizing fuel with
  | nil =>
      obtain ⟨fuel, rfl⟩ := Nat.exists_eq_succ_of_ne_zero (Nat.ne_of_gt hfuel)
      rfl
  | cons byte bytes ih =>
      obtain ⟨fuel, rfl⟩ := Nat.exists_eq_succ_of_ne_zero (Nat.ne_zero_of_lt hfuel)
      obtain ⟨first, more, hescape, hfirst⟩ := escapeByte_eq_cons byte
      have hread := readEscaped_escapeByte byte (bytes.flatMap escapeByte ++ quoteByte :: rest)
      rw [List.flatMap_cons, List.append_assoc]
      rw [hescape, List.cons_append] at hread ⊢
      rw [readQuoted, if_neg hfirst, hread]
      show (readQuoted fuel _ >>= fun _ => _) = _
      rw [ih (Nat.lt_of_succ_lt_succ hfuel)]
      rfl

theorem length_flatMap_escapeByte_le (bytes : List UInt8) :
    (bytes.flatMap escapeByte).length ≤ 6 * bytes.length := by
  induction bytes with
  | nil => exact Nat.le_refl _
  | cons byte bytes ih =>
      have hbyte := length_escapeByte_le byte
      simp only [List.flatMap_cons, List.length_append, List.length_cons]
      omega

theorem le_length_flatMap_escapeByte (bytes : List UInt8) :
    bytes.length ≤ (bytes.flatMap escapeByte).length := by
  induction bytes with
  | nil => exact Nat.le_refl _
  | cons byte bytes ih =>
      obtain ⟨first, more, hescape, -⟩ := escapeByte_eq_cons byte
      simp only [List.flatMap_cons, List.length_append, List.length_cons, hescape]
      omega

theorem length_writeString_le (text : String) :
    (writeString text).length ≤ 6 * (utf8Bytes text).length + 2 := by
  have hbytes := length_flatMap_escapeByte_le (utf8Bytes text)
  simp only [writeString, List.length_cons, List.length_append, List.length_nil]
  omega

theorem readString_append (text : String) (rest : List UInt8) :
    readString (writeString text ++ rest) = some (text, rest) := by
  have hfuel := le_length_flatMap_escapeByte (utf8Bytes text)
  have hread : readQuoted (((utf8Bytes text).flatMap escapeByte ++ quoteByte :: rest).length + 1)
      ((utf8Bytes text).flatMap escapeByte ++ quoteByte :: rest) = some (utf8Bytes text, rest) := by
    refine readQuoted_append _ _ ?_
    rw [List.length_append]
    omega
  rw [writeString, List.cons_append, List.append_assoc, List.singleton_append, readString, hread]
  simp only [guard, if_true, Option.pure_def, Option.bind_eq_bind, Option.bind_some,
    ofUtf8_utf8Bytes]

/-! ### Numbers -/

def digitByte (digit : Char) : UInt8 := UInt8.ofNat digit.toNat

def writeNumber (value : ℕ) : List UInt8 := (Nat.toDigits 10 value).map digitByte

/-- The digits at the front of the input, as a number below `limit`. -/
def readNumber (limit : ℕ) : JsonReader ℕ := fun input =>
  let digits := input.takeWhile isAsciiDigit
  let value := digits.foldl (fun value digit => 10 * value + (digit.toNat - 48)) 0
  if digits.isEmpty || limit ≤ value then none else some (value, input.dropWhile isAsciiDigit)

theorem toNat_digitByte {digit : Char} (h : digit.isDigit = true) :
    (digitByte digit).toNat = digit.toNat ∧ isAsciiDigit (digitByte digit) = true := by
  obtain ⟨hlow, hhigh⟩ : 48 ≤ digit.toNat ∧ digit.toNat ≤ 57 := by
    simpa [Char.isDigit, UInt32.le_iff_toNat_le] using h
  have hvalue : (digitByte digit).toNat = digit.toNat := by
    rw [digitByte, UInt8.toNat_ofNat']
    omega
  refine ⟨hvalue, ?_⟩
  simp only [isAsciiDigit, Bool.and_eq_true, decide_eq_true_eq, UInt8.le_iff_toNat_le, hvalue]
  exact ⟨hlow, hhigh⟩

/-- The bytes of digits have the value of the digits. -/
theorem foldl_digitByte (digits : List Char) (h : ∀ digit ∈ digits, digit.isDigit = true)
    (start : ℕ) :
    (digits.map digitByte).foldl (fun value digit => 10 * value + (digit.toNat - 48)) start =
      Nat.ofDigitChars 10 digits start := by
  induction digits generalizing start with
  | nil => rfl
  | cons digit digits ih =>
      have hdigit := toNat_digitByte (h digit List.mem_cons_self)
      rw [List.map_cons, List.foldl_cons, hdigit.1, Nat.ofDigitChars_cons]
      exact ih (fun other hother => h other (List.mem_cons_of_mem _ hother)) _

/-- A number ends where no digit follows. -/
theorem readNumber_append {limit value : ℕ} {rest : List UInt8} (hvalue : value < limit)
    (hrest : ∀ byte ∈ rest.head?, isAsciiDigit byte = false) :
    readNumber limit (writeNumber value ++ rest) = some (value, rest) := by
  have hdigits : ∀ digit ∈ Nat.toDigits 10 value, digit.isDigit = true := fun digit hdigit =>
    Nat.isDigit_of_mem_toDigits (by decide) (by decide) hdigit
  have hbytes : ∀ byte ∈ writeNumber value, isAsciiDigit byte = true := by
    intro byte hbyte
    obtain ⟨digit, hdigit, rfl⟩ := List.mem_map.mp hbyte
    exact (toNat_digitByte (hdigits digit hdigit)).2
  have hnone : rest.takeWhile isAsciiDigit = [] ∧ rest.dropWhile isAsciiDigit = rest := by
    cases rest with
    | nil => exact ⟨rfl, rfl⟩
    | cons byte rest =>
        have hbyte : isAsciiDigit byte = false := hrest byte rfl
        exact ⟨List.takeWhile_cons_of_neg (by simp [hbyte]),
          List.dropWhile_cons_of_neg (by simp [hbyte])⟩
  have htake : (writeNumber value ++ rest).takeWhile isAsciiDigit = writeNumber value := by
    rw [List.takeWhile_append_of_pos hbytes, hnone.1, List.append_nil]
  have hdrop : (writeNumber value ++ rest).dropWhile isAsciiDigit = rest := by
    rw [List.dropWhile_append_of_pos hbytes, hnone.2]
  have hfold : (writeNumber value).foldl (fun value digit => 10 * value + (digit.toNat - 48)) 0 =
      value := by
    rw [writeNumber, foldl_digitByte _ hdigits, Nat.ofDigitChars_ten_toDigits]
  have hsome : (writeNumber value).isEmpty = false := by
    simp [writeNumber, Nat.toDigits_ne_nil]
  simp only [readNumber, htake, hdrop, hfold, hsome, Bool.false_or, decide_eq_true_eq]
  exact if_neg (Nat.not_le.mpr hvalue)

theorem length_writeNumber_le {value digits : ℕ} (hdigits : 0 < digits) (h : value < 10 ^ digits) :
    (writeNumber value).length ≤ digits := by
  rw [writeNumber, List.length_map]
  exact (Nat.length_toDigits_le_iff (by omega) hdigits).mpr h

/-! ### Objects -/

/-- The name of a field, after the bracket or comma before it. -/
def writeField (opening : UInt8) (name : String) : List UInt8 :=
  opening :: (writeString name ++ [58])

def openBrace : UInt8 := 123
def closeBrace : UInt8 := 125
def comma : UInt8 := 44

/-- What follows the name of a field. -/
def readField (opening : UInt8) (name : String) : List UInt8 → Option (List UInt8) :=
  dropStart (writeField opening name)

theorem readField_append (opening : UInt8) (name : String) (rest : List UInt8) :
    readField opening name (writeField opening name ++ rest) = some rest :=
  dropStart_append _ _

end Kernmux.Library
