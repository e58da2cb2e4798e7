import Mathlib.Data.List.Basic
import Mathlib.Data.List.TakeWhile
import Mathlib.Data.Nat.Digits.Defs
import Mathlib.Tactic.Common

/-!
# Kernmux.Library.Text

**Text as bytes.** Strings are compared and validated through their UTF-8
bytes, and operating-system strings (arguments, paths) are arbitrary bytes that
need not be text at all. Strings are taken apart through their characters.
-/

namespace Kernmux.Library

variable {char separator : Char} {text start rest : String} {α : Type} {limit number : ℕ}

/-- The UTF-8 bytes of a string. -/
def utf8Bytes (text : String) : List UInt8 := text.toUTF8.data.toList

/-- The string with these UTF-8 bytes. -/
def ofUtf8 (bytes : List UInt8) : Option String := String.fromUTF8? ⟨bytes.toArray⟩

@[simp] theorem ofUtf8_utf8Bytes (text : String) : ofUtf8 (utf8Bytes text) = some text := by
  have hbytes : (⟨(utf8Bytes text).toArray⟩ : ByteArray) = text.toByteArray := rfl
  rw [ofUtf8, hbytes, String.fromUTF8?, dif_pos text.isValidUTF8]
  rfl

theorem utf8Bytes_injective : Function.Injective utf8Bytes := by
  intro text other h
  have hread := congrArg ofUtf8 h
  simpa using hread

theorem utf8Bytes_append (text rest : String) :
    utf8Bytes (text ++ rest) = utf8Bytes text ++ utf8Bytes rest := by
  simp [utf8Bytes]

theorem utf8Bytes_eq_flatMap (text : String) :
    utf8Bytes text = text.toList.flatMap String.utf8EncodeChar := by
  rw [utf8Bytes, String.toUTF8, ← String.utf8Encode_toList, List.utf8Encode]
  simp

/-- A character takes at most four bytes. -/
theorem length_utf8Bytes_le (text : String) : (utf8Bytes text).length ≤ 4 * text.toList.length := by
  rw [utf8Bytes_eq_flatMap]
  induction text.toList with
  | nil => exact Nat.le_refl _
  | cons char chars ih =>
      have hchar : (String.utf8EncodeChar char).length ≤ 4 := by
        rw [String.length_utf8EncodeChar]
        exact char.utf8Size_le_four
      simp only [List.flatMap_cons, List.length_append, List.length_cons]
      omega

/-- A character all of whose bytes are below 128 is its only byte. -/
theorem utf8EncodeChar_of_ascii (h : ∀ byte ∈ String.utf8EncodeChar char, byte < 128) :
    (String.utf8EncodeChar char).map (fun byte => Char.ofNat byte.toNat) = [char] := by
  by_cases hsmall : char.val.toNat ≤ 127
  · have hbyte : char.val.toNat % 2 ^ 8 = char.val.toNat := Nat.mod_eq_of_lt (by omega)
    rw [String.utf8EncodeChar, if_pos hsmall, List.map_singleton, UInt8.toNat_ofNat', hbyte]
    exact congrArg (fun char => [char]) (Char.ofNat_toNat char)
  · -- the last of several bytes carries six bits and a mark
    have hlast : UInt8.ofNat (char.val.toNat % 64 + 128) ∈ String.utf8EncodeChar char := by
      simp only [String.utf8EncodeChar, if_neg hsmall]
      split_ifs <;> simp
    have hlt := UInt8.lt_iff_toNat_lt.mp (h _ hlast)
    rw [UInt8.toNat_ofNat', Nat.mod_eq_of_lt (by omega)] at hlt
    exact absurd hlt (by simp)

/-- A string all of whose bytes are below 128 is made of them. -/
theorem toList_of_ascii (h : ∀ byte ∈ utf8Bytes text, byte < 128) :
    text.toList = (utf8Bytes text).map fun byte => Char.ofNat byte.toNat := by
  rw [utf8Bytes_eq_flatMap] at h ⊢
  generalize text.toList = chars at h ⊢
  induction chars with
  | nil => rfl
  | cons char chars ih =>
      rw [List.flatMap_cons] at h
      rw [List.flatMap_cons, List.map_append,
        utf8EncodeChar_of_ascii fun byte hbyte => h byte (List.mem_append_left _ hbyte),
        ← ih fun byte hbyte => h byte (List.mem_append_right _ hbyte), List.singleton_append]

/-- An ASCII character of a string is one of its bytes. -/
theorem mem_utf8Bytes_of_mem (hascii : char.val.toNat ≤ 127)
    (h : char ∈ text.toList) : UInt8.ofNat char.val.toNat ∈ utf8Bytes text := by
  rw [utf8Bytes_eq_flatMap]
  refine List.mem_flatMap.mpr ⟨char, h, ?_⟩
  rw [String.utf8EncodeChar, if_pos hascii]
  exact List.mem_singleton_self _

/-- ASCII characters are single bytes. -/
theorem utf8Bytes_of_ascii (h : ∀ char ∈ text.toList, char.val.toNat ≤ 127) :
    utf8Bytes text = text.toList.map fun char => UInt8.ofNat char.val.toNat := by
  rw [utf8Bytes_eq_flatMap]
  generalize text.toList = chars at h ⊢
  induction chars with
  | nil => rfl
  | cons char chars ih =>
      obtain ⟨hchar, hchars⟩ := List.forall_mem_cons.mp h
      rw [List.flatMap_cons, ih hchars, String.utf8EncodeChar, if_pos hchar, List.map_cons,
        List.singleton_append]

/-- The code of the character that a byte below 128 stands for. -/
theorem toNat_val_ofNat {byte : UInt8} (h : byte < 128) :
    (Char.ofNat byte.toNat).val.toNat = byte.toNat := by
  have hlt : byte.toNat < 128 := UInt8.lt_iff_toNat_lt.mp h
  rw [Char.ofNat, dif_pos (.inl (by omega))]
  exact UInt32.toNat_ofNatLT

/-- The text of bytes that stand for one character each. -/
def ofAscii (bytes : List UInt8) : String := .ofList (bytes.map fun byte => Char.ofNat byte.toNat)

theorem ofAscii_utf8Bytes (h : ∀ byte ∈ utf8Bytes text, byte < 128) :
    ofAscii (utf8Bytes text) = text := by
  rw [ofAscii, ← toList_of_ascii h, String.ofList_toList]

theorem utf8Bytes_ofAscii {bytes : List UInt8} (h : ∀ byte ∈ bytes, byte < 128) :
    utf8Bytes (ofAscii bytes) = bytes := by
  rw [utf8Bytes_eq_flatMap, ofAscii, String.toList_ofList]
  induction bytes with
  | nil => rfl
  | cons byte bytes ih =>
      obtain ⟨hbyte, hbytes⟩ := List.forall_mem_cons.mp h
      have hlt : byte.toNat < 128 := UInt8.lt_iff_toNat_lt.mp hbyte
      have hchar := toNat_val_ofNat hbyte
      have hencode : String.utf8EncodeChar (Char.ofNat byte.toNat) = [byte] := by
        rw [String.utf8EncodeChar, if_pos (by omega), hchar, UInt8.ofNat_toNat]
      rw [List.map_cons, List.flatMap_cons, hencode, ih hbytes, List.singleton_append]

def isAsciiDigit (byte : UInt8) : Bool := 48 ≤ byte && byte ≤ 57

def isAsciiAlphabetic (byte : UInt8) : Bool :=
  (65 ≤ byte && byte ≤ 90) || (97 ≤ byte && byte ≤ 122)

def isAsciiAlphanumeric (byte : UInt8) : Bool := isAsciiAlphabetic byte || isAsciiDigit byte

/-- The byte with a lower-case letter for an upper-case one. -/
def lowerAscii (byte : UInt8) : UInt8 := if 65 ≤ byte && byte ≤ 90 then byte + 32 else byte

def isAsciiHexDigit (byte : UInt8) : Bool :=
  isAsciiDigit byte || (65 ≤ byte && byte ≤ 70) || (97 ≤ byte && byte ≤ 102)

/-! ### Parts of a string -/

/-- What follows the items `start`: characters of a string, or bytes. -/
def dropStart {α : Type} [DecidableEq α] : List α → List α → Option (List α)
  | [], text => some text
  | _ :: _, [] => none
  | first :: start, item :: text => if first = item then dropStart start text else none

@[simp] theorem dropStart_append [DecidableEq α] (start text : List α) :
    dropStart start (start ++ text) = some text := by
  induction start with
  | nil => rfl
  | cons first start ih => rw [List.cons_append, dropStart, if_pos rfl, ih]

theorem eq_append_of_dropStart [DecidableEq α] {start text rest : List α}
    (h : dropStart start text = some rest) : text = start ++ rest := by
  induction start generalizing text with
  | nil => exact Option.some.inj h
  | cons first start ih =>
      cases text with
      | nil => cases h
      | cons item text =>
          by_cases hitem : first = item
          · rw [dropStart, if_pos hitem] at h
            rw [ih h, hitem, List.cons_append]
          · rw [dropStart, if_neg hitem] at h
            cases h

/-- A text that begins in another way does not begin in this one. -/
theorem dropStart_append_eq_none [DecidableEq α] {start other : List α}
    (h : dropStart start other = none) (h' : dropStart other start = none) (text : List α) :
    dropStart start (other ++ text) = none := by
  induction start generalizing other with
  | nil => cases h
  | cons item start ih =>
      cases other with
      | nil => cases h'
      | cons first other =>
          rw [List.cons_append, dropStart]
          rw [dropStart] at h h'
          by_cases hitem : item = first
          · rw [if_pos hitem] at h ⊢
            rw [if_pos hitem.symm] at h'
            exact ih h h'
          · rw [if_neg hitem]

/-- The string without its beginning `start`. -/
def stripPrefix (start text : String) : Option String :=
  (dropStart start.toList text.toList).map String.ofList

@[simp] theorem stripPrefix_append (start text : String) :
    stripPrefix start (start ++ text) = some text := by
  rw [stripPrefix, String.toList_append, dropStart_append, Option.map_some, String.ofList_toList]

theorem eq_append_of_stripPrefix
    (h : stripPrefix start text = some rest) : text = start ++ rest := by
  obtain ⟨dropped, hdrop, rfl⟩ := Option.map_eq_some_iff.mp h
  rw [← String.toList_inj, eq_append_of_dropStart hdrop, String.toList_append, String.toList_ofList]

theorem isSome_stripPrefix :
    (stripPrefix start text).isSome = true ↔ start.toList <+: text.toList := by
  constructor
  · intro h
    obtain ⟨rest, hrest⟩ := Option.isSome_iff_exists.mp h
    rw [eq_append_of_stripPrefix hrest, String.toList_append]
    exact List.prefix_append _ _
  · rintro ⟨rest, hrest⟩
    have htext : text = start ++ String.ofList rest := String.toList_inj.mp (by simp [hrest])
    rw [htext, stripPrefix_append]
    rfl

theorem stripPrefix_append_eq_none {other : String} (h : stripPrefix start other = none)
    (h' : stripPrefix other start = none) (text : String) :
    stripPrefix start (other ++ text) = none := by
  rw [stripPrefix, Option.map_eq_none_iff] at h h'
  rw [stripPrefix, String.toList_append, dropStart_append_eq_none h h', Option.map_none]

/-- The string without its end. -/
def stripSuffix (ending text : String) : Option String :=
  (dropStart ending.toList.reverse text.toList.reverse).map fun rest => String.ofList rest.reverse

@[simp] theorem stripSuffix_append (text ending : String) :
    stripSuffix ending (text ++ ending) = some text := by
  rw [stripSuffix, String.toList_append, List.reverse_append, dropStart_append, Option.map_some,
    List.reverse_reverse, String.ofList_toList]

theorem eq_append_of_stripSuffix {ending : String}
    (h : stripSuffix ending text = some rest) : text = rest ++ ending := by
  obtain ⟨reversed, hdrop, rfl⟩ := Option.map_eq_some_iff.mp h
  have htext := congrArg List.reverse (eq_append_of_dropStart hdrop)
  rw [List.reverse_reverse, List.reverse_append, List.reverse_reverse] at htext
  rw [← String.toList_inj, htext, String.toList_append, String.toList_ofList]

/-- The parts of a string between separators; there is always one more than separators. -/
def splitText (separator : Char) (text : String) : List String :=
  (text.toList.splitOn separator).map String.ofList

theorem splitText_of_not_mem (h : separator ∉ text.toList) : splitText separator text = [text] := by
  have hnone : ∀ char ∈ text.toList, (char == separator) = false := by
    intro char hchar
    exact beq_false_of_ne fun heq => h (heq ▸ hchar)
  rw [splitText, List.splitOn, List.splitOnP_eq_singleton hnone, List.map_singleton,
    String.ofList_toList]

/-- A part without a separator comes first. -/
theorem splitText_append {tail : List Char} (h : separator ∉ text.toList)
    (hrest : rest.toList = separator :: tail) :
    splitText separator (text ++ rest) = text :: splitText separator (String.ofList tail) := by
  have hnone : ∀ char ∈ text.toList, (char == separator) = false := by
    intro char hchar
    exact beq_false_of_ne fun heq => h (heq ▸ hchar)
  rw [splitText, String.toList_append, hrest, List.splitOn,
    List.splitOnP_append_cons_of_forall_mem hnone separator (beq_self_eq_true separator),
    List.map_cons, String.ofList_toList, splitText, String.toList_ofList, List.splitOn]

/-- Parts without a separator are found again between separators. -/
theorem splitText_intercalate {parts : List String} (hparts : parts ≠ [])
    (h : ∀ part ∈ parts, separator ∉ part.toList) :
    splitText separator ((String.singleton separator).intercalate parts) = parts := by
  induction parts with
  | nil => exact absurd rfl hparts
  | cons part parts ih =>
      have hpart := h part List.mem_cons_self
      cases parts with
      | nil => rw [String.intercalate_singleton, splitText_of_not_mem hpart]
      | cons next parts =>
          have hrest : (String.singleton separator ++
              (String.singleton separator).intercalate (next :: parts)).toList =
                separator :: ((String.singleton separator).intercalate (next :: parts)).toList := by
            simp
          rw [String.intercalate_cons_cons, String.append_assoc, splitText_append hpart hrest,
            String.ofList_toList, ih (List.cons_ne_nil _ _) fun other hother =>
              h other (List.mem_cons_of_mem _ hother)]

/-- The parts make up the string. -/
theorem intercalate_splitText (separator : Char) (text : String) :
    (String.singleton separator).intercalate (splitText separator text) = text := by
  apply String.toList_inj.mp
  rw [String.toList_intercalate, splitText, List.map_map]
  simp [Function.comp_def, List.intercalate_splitOn]

/-- The parts of a string around the first separator. -/
def splitOnce (separator : Char) (text : String) : Option (String × String) :=
  match text.toList.dropWhile (· ≠ separator) with
  | [] => none
  | _ :: rest => some (String.ofList (text.toList.takeWhile (· ≠ separator)), String.ofList rest)

theorem splitOnce_of_not_mem (h : separator ∉ text.toList) : splitOnce separator text = none := by
  have hnone : text.toList.dropWhile (· ≠ separator) = [] := by
    refine List.dropWhile_eq_nil_iff.mpr ?_
    intro char hchar
    simpa using fun heq : char = separator => h (heq ▸ hchar)
  rw [splitOnce, hnone]

/-- The separator that is found first divides the string. -/
theorem splitOnce_append {first : String} (h : separator ∉ first.toList) :
    splitOnce separator (first ++ String.singleton separator ++ rest) = some (first, rest) := by
  have hfirst : ∀ char ∈ first.toList, decide (char ≠ separator) = true := by
    intro char hchar
    simpa using fun heq : char = separator => h (heq ▸ hchar)
  have hlist : (first ++ String.singleton separator ++ rest).toList =
      first.toList ++ separator :: rest.toList := by simp
  rw [splitOnce, hlist, List.dropWhile_append_of_pos hfirst, List.takeWhile_append_of_pos hfirst]
  simp

theorem exists_append_of_mem (h : separator ∈ text.toList) : ∃ first rest,
    text = first ++ String.singleton separator ++ rest ∧ separator ∉ first.toList := by
  obtain ⟨before, after, htext, hbefore⟩ := List.eq_append_cons_of_mem h
  refine ⟨String.ofList before, String.ofList after, ?_, by simpa using hbefore⟩
  rw [← String.toList_inj, htext]
  simp

theorem eq_append_of_splitOnce {first : String}
    (h : splitOnce separator text = some (first, rest)) :
    text = first ++ String.singleton separator ++ rest ∧ separator ∉ first.toList := by
  by_cases hmem : separator ∈ text.toList
  · obtain ⟨before, after, rfl, hbefore⟩ := exists_append_of_mem hmem
    rw [splitOnce_append hbefore] at h
    cases h
    exact ⟨rfl, hbefore⟩
  · rw [splitOnce_of_not_mem hmem] at h
    cases h

theorem not_mem_of_splitOnce (h : splitOnce separator text = none) : separator ∉ text.toList := by
  intro hmem
  obtain ⟨before, after, rfl, hbefore⟩ := exists_append_of_mem hmem
  rw [splitOnce_append hbefore] at h
  cases h

/-- The string without the occurrences of a character at its beginning. -/
def trimStartMatches (char : Char) (text : String) : String :=
  String.ofList (text.toList.dropWhile (· = char))

theorem trimStartMatches_eq_self {first : Char} {rest : List Char}
    (htext : text.toList = first :: rest) (h : first ≠ char) :
    trimStartMatches char text = text := by
  rw [trimStartMatches, htext, List.dropWhile_cons_of_neg (by simpa using h), ← htext,
    String.ofList_toList]

/-- The lines of a string. A carriage return belongs to the line end only before a line feed, and
nothing follows the last line feed. -/
def lines (text : String) : List String :=
  let parts := splitText '\n' text
  parts.dropLast.map (fun line => (stripSuffix "\r" line).getD line) ++
    (parts.getLast?.toList.filter fun line => !line.isEmpty)

/-- Characters of the Unicode property `White_Space`. -/
def isWhitespace (char : Char) : Bool :=
  (0x09 ≤ char.toNat && char.toNat ≤ 0x0d) || (0x2000 ≤ char.toNat && char.toNat ≤ 0x200a) ||
    [0x20, 0x85, 0xa0, 0x1680, 0x2028, 0x2029, 0x202f, 0x205f, 0x3000].contains char.toNat

/-- The parts of a string between stretches of whitespace. -/
def splitWhitespace (text : String) : List String :=
  ((text.toList.splitOnP isWhitespace).filter fun part => !part.isEmpty).map String.ofList

/-- Characters of the Unicode category `Cc`. -/
def isControl (char : Char) : Bool :=
  char.toNat ≤ 0x1f || (0x7f ≤ char.toNat && char.toNat ≤ 0x9f)

/-- The string without the whitespace around it. -/
def trimText (text : String) : String :=
  String.ofList (((text.toList.dropWhile isWhitespace).reverse.dropWhile isWhitespace).reverse)

theorem trimText_eq_self (h : ∀ char ∈ text.toList, isWhitespace char = false) :
    trimText text = text := by
  have hself : ∀ chars : List Char, (∀ char ∈ chars, isWhitespace char = false) →
      chars.dropWhile isWhitespace = chars := by
    intro chars hchars
    cases chars with
    | nil => rfl
    | cons char chars =>
        rw [List.dropWhile_cons_of_neg (by simp [hchars char List.mem_cons_self])]
  have hreverse : ∀ char ∈ text.toList.reverse, isWhitespace char = false :=
    fun char hchar => h char (List.mem_reverse.mp hchar)
  rw [trimText, hself _ h, hself _ hreverse, List.reverse_reverse, String.ofList_toList]

/-- The value of decimal digits. -/
def digitsValue (digits : List Char) : ℕ :=
  digits.foldl (fun value digit => value * 10 + (digit.toNat - '0'.toNat)) 0

/-- A decimal number below `limit`: digits, with an optional plus sign. -/
def parseUnsigned (limit : ℕ) (text : String) : Option ℕ :=
  let digits := match text.toList with
    | '+' :: digits => digits
    | digits => digits
  if digits.isEmpty || !digits.all Char.isDigit then none
  else if digitsValue digits < limit then some (digitsValue digits)
  else none

/-- What is read as a number: digits, or a plus sign and digits. -/
theorem parseUnsigned_eq_some : parseUnsigned limit text = some number ↔
      ∃ digits, (text.toList = digits ∨ text.toList = '+' :: digits) ∧ digits ≠ [] ∧
        (∀ digit ∈ digits, digit.isDigit = true) ∧ digitsValue digits = number ∧
        number < limit := by
  have hread : ∀ digits : List Char,
      (if (digits.isEmpty || !digits.all Char.isDigit) = true then none
        else if digitsValue digits < limit then some (digitsValue digits) else none) =
        some number ↔
      digits ≠ [] ∧ (∀ digit ∈ digits, digit.isDigit = true) ∧ digitsValue digits = number ∧
        number < limit := by
    intro digits
    by_cases hbad : (digits.isEmpty || !digits.all Char.isDigit) = true
    · rw [if_pos hbad]
      simp only [Bool.or_eq_true, List.isEmpty_iff, Bool.not_eq_true', List.all_eq_false] at hbad
      grind
    · rw [if_neg hbad]
      simp only [Bool.or_eq_true, not_or, List.isEmpty_iff, Bool.not_eq_true', Bool.not_eq_false,
        List.all_eq_true] at hbad
      by_cases hlimit : digitsValue digits < limit
      · rw [if_pos hlimit]
        grind
      · rw [if_neg hlimit]
        grind
  unfold parseUnsigned
  simp only
  split
  case h_1 digits htext =>
    rw [hread, htext]
    constructor
    · intro h
      exact ⟨digits, .inr rfl, h⟩
    · intro h
      obtain ⟨other, hother | hother, hne, hdigits, hvalue⟩ := h
      · -- a sign is no digit
        have hplus := hdigits '+' (hother ▸ List.mem_cons_self)
        exact absurd hplus (by decide)
      · obtain ⟨-, rfl⟩ := List.cons.inj hother
        exact ⟨hne, hdigits, hvalue⟩
  case h_2 hplus =>
    rw [hread]
    constructor
    · intro h
      exact ⟨text.toList, .inl rfl, h⟩
    · intro h
      obtain ⟨other, hother | hother, h⟩ := h
      · exact hother ▸ h
      · exact absurd hother (hplus other)

/-- A number that is read is read under every other limit that it does not reach. -/
theorem parseUnsigned_of_lt {larger : ℕ} (h : parseUnsigned limit text = some number)
    (hlarger : number < larger) :
    parseUnsigned larger text = some number := by
  obtain ⟨digits, htext, hne, hdigits, hvalue, -⟩ := parseUnsigned_eq_some.mp h
  exact parseUnsigned_eq_some.mpr ⟨digits, htext, hne, hdigits, hvalue, hlarger⟩

theorem parseUnsigned_lt (h : parseUnsigned limit text = some number) : number < limit := by
  obtain ⟨digits, -, -, -, -, hlimit⟩ := parseUnsigned_eq_some.mp h
  exact hlimit

/-- What is read as a number is not empty and consists of digits and a sign. -/
theorem mem_of_parseUnsigned (h : parseUnsigned limit text = some number) :
    text ≠ "" ∧ ∀ char ∈ text.toList, char = '+' ∨ char.isDigit = true := by
  obtain ⟨digits, htext, hne, hdigits, -⟩ := parseUnsigned_eq_some.mp h
  constructor
  · intro hempty
    rcases htext with htext | htext
    · exact hne (by rw [← htext, hempty]; rfl)
    · rw [hempty] at htext
      cases htext
  · intro char hchar
    rcases htext with htext | htext
    · exact .inr (hdigits char (htext ▸ hchar))
    · rw [htext] at hchar
      exact (List.mem_cons.mp hchar).imp_right (hdigits char)

theorem isDigit_of_mem_toString (h : char ∈ (toString number).toList) : char.isDigit = true := by
  rw [Nat.toString_eq_repr, Nat.toList_repr] at h
  exact Nat.isDigit_of_mem_toDigits (by decide) (by decide) h

theorem length_toString_le {count : ℕ} (hcount : 0 < count) (h : number < 10 ^ count) :
    (toString number).toList.length ≤ count := by
  rw [Nat.toString_eq_repr, String.length_toList]
  exact Nat.repr_length number count hcount h

/-- A digit is a single byte. -/
theorem isAsciiDigit_of_isDigit (h : char.isDigit = true) :
    char.val.toNat ≤ 127 ∧ isAsciiDigit (UInt8.ofNat char.val.toNat) = true := by
  simp only [Char.isDigit, Bool.and_eq_true, decide_eq_true_eq, ge_iff_le,
    UInt32.le_iff_toNat_le] at h
  obtain ⟨hlow, hhigh⟩ : 48 ≤ char.val.toNat ∧ char.val.toNat ≤ 57 := h
  refine ⟨by omega, ?_⟩
  simp only [isAsciiDigit, Bool.and_eq_true, decide_eq_true_eq, UInt8.le_iff_toNat_le,
    UInt8.toNat_ofNat', UInt8.reduceToNat]
  omega

theorem digitsValue_toString (number : ℕ) : digitsValue (toString number).toList = number := by
  rw [Nat.toString_eq_repr, Nat.toList_repr]
  have h := Nat.ofDigitChars_toDigits (b := 10) (n := number) (by decide) (by decide)
  simpa only [Nat.ofDigitChars_eq_foldl, digitsValue, Nat.mul_comm] using h

theorem toString_nat_injective : Function.Injective (toString : ℕ → String) := by
  intro number other h
  rw [← digitsValue_toString number, h, digitsValue_toString]

/-- A number is read back from its digits. -/
theorem parseUnsigned_toString (h : number < limit) :
    parseUnsigned limit (toString number) = some number := by
  have hne : (toString number).toList ≠ [] := by
    rw [Nat.toString_eq_repr, Nat.toList_repr]
    exact Nat.toDigits_ne_nil
  exact parseUnsigned_eq_some.mpr ⟨_, .inl rfl, hne, fun _ => isDigit_of_mem_toString,
    digitsValue_toString number, h⟩

/-! ### Operating-system strings -/

/-- An operating-system string: any sequence of bytes. -/
structure OsString where
  bytes : List UInt8
  deriving DecidableEq, Repr

namespace OsString

def ofString (text : String) : OsString := ⟨utf8Bytes text⟩

/-- The string, if it is text. -/
def toStr (value : OsString) : Option String := ofUtf8 value.bytes

@[simp] theorem toStr_ofString (text : String) : (ofString text).toStr = some text :=
  ofUtf8_utf8Bytes text

theorem ofString_injective : Function.Injective ofString := by
  intro text other h
  exact utf8Bytes_injective (congrArg bytes h)

theorem eq_ofString_of_toStr {value : OsString} (h : value.toStr = some text) :
    value = ofString text := by
  rw [toStr, ofUtf8, String.fromUTF8?] at h
  split at h
  · cases h
    rfl
  · cases h

def isEmpty (value : OsString) : Bool := value.bytes.isEmpty

def append (value suffix : OsString) : OsString := ⟨value.bytes ++ suffix.bytes⟩

/-- A path with a relative part after it. -/
def join (path part : OsString) : OsString :=
  if path.bytes.getLast?.all (· = 47) then ⟨path.bytes ++ part.bytes⟩
  else ⟨path.bytes ++ 47 :: part.bytes⟩

/-- A path is made part by part. -/
theorem join_join {path part rest : OsString} (h : part.bytes.getLast?.all (· = 47) = false) :
    path.join ⟨part.bytes ++ 47 :: rest.bytes⟩ = (path.join part).join rest := by
  obtain ⟨last, hlast, hslash⟩ : ∃ last, part.bytes.getLast? = some last ∧ last ≠ 47 := by
    cases hlast : part.bytes.getLast? with
    | none => simp [hlast] at h
    | some last => exact ⟨last, rfl, by simpa [hlast] using h⟩
  unfold join
  split <;> simp [List.getLast?_append, List.getLast?_cons, hlast, hslash]

end OsString

/-- A path is an operating-system string. -/
abbrev PathBuf := OsString

end Kernmux.Library
