import Kernmux.Daemon.ImageStoreSound

/-!
# Kernmux.Daemon.ArtifactNames

**Identities are digests.** A digest is written byte by byte in two lowercase
hexadecimal digits, and every text of 64 such digits is written for exactly one
digest. The names of files in the store are made of these digits alone, so that
they differ for different identities and never leave their directory.
-/

namespace Kernmux.Daemon

open Library

variable {id other : ArtifactId}

/-! ### Digits -/

theorem isLowerHex_iff {char : Char} : isLowerHex char = true ↔
      (48 ≤ char.toNat ∧ char.toNat ≤ 57) ∨ (97 ≤ char.toNat ∧ char.toNat ≤ 102) := by
  simp only [isLowerHex, Char.isDigit, Bool.or_eq_true, Bool.and_eq_true, decide_eq_true_eq,
    ge_iff_le, Char.le_def, UInt32.le_iff_toNat_le]
  exact Iff.rfl

/-- Every digit is the digit of a number. -/
theorem exists_hexDigit {char : Char} (h : isLowerHex char = true) :
    ∃ value < 16, hexDigit value = char := by
  have hdigits : ∀ value < 10, hexDigit value = Char.ofNat (48 + value) := by decide
  have hletters : ∀ value < 6, hexDigit (10 + value) = Char.ofNat (97 + value) := by decide
  obtain ⟨hlow, hhigh⟩ | ⟨hlow, hhigh⟩ := isLowerHex_iff.mp h
  · refine ⟨char.toNat - 48, by omega, ?_⟩
    rw [hdigits _ (by omega), Nat.add_sub_cancel' hlow, Char.ofNat_toNat]
  · refine ⟨10 + (char.toNat - 97), by omega, ?_⟩
    rw [hletters _ (by omega), Nat.add_sub_cancel' hlow, Char.ofNat_toNat]

theorem hexDigit_injective {value other : ℕ} (hvalue : value < 16) (hother : other < 16)
    (h : hexDigit value = hexDigit other) : value = other := by
  have hall : ∀ value < 16, ∀ other < 16, hexDigit value = hexDigit other → value = other := by
    decide
  exact hall value hvalue other hother h

/-! ### Bytes -/

theorem hexByte_injective {byte other : UInt8} (h : hexByte byte = hexByte other) :
    byte = other := by
  obtain ⟨hhigh, hlow⟩ := List.cons.inj h
  have hbyte := byte.toNat_lt
  have hother := other.toNat_lt
  have hdiv := hexDigit_injective (by omega) (by omega) hhigh
  have hmod := hexDigit_injective (by omega) (by omega) (List.cons.inj hlow).1
  exact UInt8.toNat_inj.mp (by omega)

theorem exists_hexByte {high low : Char} (hhigh : isLowerHex high = true)
    (hlow : isLowerHex low = true) : ∃ byte, hexByte byte = [high, low] := by
  obtain ⟨first, hfirst, rfl⟩ := exists_hexDigit hhigh
  obtain ⟨second, hsecond, rfl⟩ := exists_hexDigit hlow
  have hbyte : (UInt8.ofNat (first * 16 + second)).toNat = first * 16 + second := by
    rw [UInt8.toNat_ofNat', Nat.mod_eq_of_lt (by omega)]
  have hdiv : (first * 16 + second) / 16 = first := by omega
  have hmod : (first * 16 + second) % 16 = second := by omega
  exact ⟨UInt8.ofNat (first * 16 + second), by rw [hexByte, hbyte, hdiv, hmod]⟩

/-- Two digits tell each byte of a text apart. -/
theorem flatMap_hexByte_injective {bytes others : List UInt8}
    (h : bytes.flatMap hexByte = others.flatMap hexByte) : bytes = others := by
  induction bytes generalizing others with
  | nil =>
      cases others with
      | nil => rfl
      | cons other others => simp [hexByte] at h
  | cons byte bytes ih =>
      cases others with
      | nil => simp [hexByte] at h
      | cons other others =>
          rw [List.flatMap_cons, List.flatMap_cons] at h
          obtain ⟨hbyte, hbytes⟩ := List.append_inj h rfl
          rw [hexByte_injective hbyte, ih hbytes]

/-- Every text with an even number of digits is that of some bytes. -/
theorem exists_flatMap_hexByte {count : ℕ} {digits : List Char} (hlength : digits.length = 2 * count)
    (hdigits : ∀ digit ∈ digits, isLowerHex digit = true) :
    ∃ bytes : List UInt8, bytes.length = count ∧ bytes.flatMap hexByte = digits := by
  induction count generalizing digits with
  | zero =>
      rw [Nat.mul_zero] at hlength
      exact ⟨[], rfl, (List.eq_nil_of_length_eq_zero hlength).symm⟩
  | succ count ih =>
      match digits, hlength with
      | high :: low :: digits, hlength =>
          obtain ⟨hhigh, hdigits⟩ := List.forall_mem_cons.mp hdigits
          obtain ⟨hlow, hdigits⟩ := List.forall_mem_cons.mp hdigits
          simp only [List.length_cons] at hlength
          obtain ⟨byte, hbyte⟩ := exists_hexByte hhigh hlow
          obtain ⟨bytes, hcount, hbytes⟩ := ih (by omega) hdigits
          refine ⟨byte :: bytes, by rw [List.length_cons, hcount], ?_⟩
          rw [List.flatMap_cons, hbyte, hbytes]
          rfl

/-! ### Identities -/

theorem fromDigest_injective {digest other : Digest}
    (h : (ArtifactId.fromDigest digest).value = (ArtifactId.fromDigest other).value) :
    digest = other := by
  have hchars := congrArg String.toList h
  simp only [ArtifactId.fromDigest, String.toList_append, String.toList_ofList] at hchars
  have hbytes := flatMap_hexByte_injective (List.append_cancel_left hchars)
  obtain ⟨bytes, hlength⟩ := digest
  obtain ⟨others, hother⟩ := other
  obtain rfl : bytes = others := hbytes
  rfl

/-- Every identity is that of a digest. -/
theorem exists_fromDigest (id : ArtifactId) :
    ∃ digest, (ArtifactId.fromDigest digest).value = id.value := by
  obtain ⟨hvalue, hlength⟩ := id.value_eq
  have hdigits : id.digest.toList.length = 2 * 32 := hlength
  obtain ⟨bytes, hcount, hbytes⟩ := exists_flatMap_hexByte hdigits
    fun digit hdigit => id.isLowerHex_digest hdigit
  refine ⟨⟨bytes, hcount⟩, ?_⟩
  show "sha256:" ++ String.ofList (bytes.flatMap hexByte) = id.value
  rw [hbytes, String.ofList_toList, id.value_eq_append]

theorem ArtifactId.value_injective (h : id.value = other.value) : id = other := by
  obtain ⟨value, hcanonical⟩ := id
  obtain ⟨_, _⟩ := other
  obtain rfl : value = _ := h
  rfl

theorem digest_injective (h : id.digest = other.digest) : id = other := by
  refine ArtifactId.value_injective ?_
  rw [id.value_eq_append, other.value_eq_append, h]

/-! ### Names of files -/

theorem blobName_injective (h : blobName id = blobName other) : id = other :=
  digest_injective (OsString.ofString_injective h)

theorem recordName_injective (h : recordName id = recordName other) : id = other := by
  have hchars := congrArg String.toList (OsString.ofString_injective h)
  rw [String.toList_append, String.toList_append] at hchars
  exact digest_injective (String.toList_inj.mp (List.append_cancel_right hchars))

/-- The digits are single bytes, and none of them is a separator. -/
theorem separator_not_mem_digest (id : ArtifactId) : 47 ∉ utf8Bytes id.digest := by
  have hcode : ∀ char ∈ id.digest.toList, 48 ≤ char.val.toNat ∧ char.val.toNat ≤ 102 := by
    intro char hchar
    have hhex := isLowerHex_iff.mp (id.isLowerHex_digest hchar)
    unfold Char.toNat at hhex
    omega
  rw [utf8Bytes_of_ascii fun char hchar => (hcode char hchar).2.trans (by decide)]
  intro hmem
  obtain ⟨char, hchar, hbyte⟩ := List.mem_map.mp hmem
  have hrange := hcode char hchar
  have hvalue := congrArg UInt8.toNat hbyte
  rw [UInt8.toNat_ofNat', Nat.mod_eq_of_lt (by omega)] at hvalue
  have hseparator : (47 : UInt8).toNat = 47 := rfl
  omega

theorem separator_not_mem_blobName (id : ArtifactId) : 47 ∉ (blobName id).bytes :=
  separator_not_mem_digest id

theorem separator_not_mem_recordName (id : ArtifactId) : 47 ∉ (recordName id).bytes := by
  have hending : 47 ∉ utf8Bytes ".json" := by decide
  show 47 ∉ utf8Bytes (id.digest ++ ".json")
  rw [utf8Bytes_append, List.mem_append, not_or]
  exact ⟨separator_not_mem_digest id, hending⟩

end Kernmux.Daemon
