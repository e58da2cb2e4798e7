import Kernmux.Cli.Commands
import Kernmux.Daemon.ArtifactNames

/-!
# Kernmux.Cli.ArtifactIds

**One grammar of identities.** The command line checks the identities it is given
with a recogniser of its own. Both recognisers look at bytes; an identity of the
daemon is modelled by its characters, which comes to the same (`digestBytes_iff`).
Both accept exactly the texts that are written for digests.
-/

namespace Kernmux.Cli

open Daemon Library

theorem isDigestByte_iff {byte : UInt8} : isDigestByte byte = true ↔
      (48 ≤ byte.toNat ∧ byte.toNat ≤ 57) ∨ (97 ≤ byte.toNat ∧ byte.toNat ≤ 102) := by
  simp only [isDigestByte, isAsciiDigit, Bool.or_eq_true, Bool.and_eq_true, decide_eq_true_eq,
    UInt8.le_iff_toNat_le]
  exact Iff.rfl

/-- The bytes of a digest are its digits, one for each. -/
theorem digestBytes_iff {digest : String} :
    ((utf8Bytes digest).length = 64 ∧ (utf8Bytes digest).all isDigestByte = true) ↔
      (digest.toList.length = 64 ∧ digest.toList.all isLowerHex = true) := by
  constructor
  · intro ⟨hlength, hbytes⟩
    have hrange : ∀ byte ∈ utf8Bytes digest, _ := fun byte hbyte =>
      isDigestByte_iff.mp (List.all_eq_true.mp hbytes byte hbyte)
    have hascii : ∀ byte ∈ utf8Bytes digest, byte < 128 := by
      intro byte hbyte
      have hcode := hrange byte hbyte
      refine UInt8.lt_iff_toNat_lt.mpr ?_
      show byte.toNat < 128
      omega
    rw [toList_of_ascii hascii, List.length_map, List.all_map]
    refine ⟨hlength, List.all_eq_true.mpr ?_⟩
    intro byte hbyte
    rw [Function.comp_apply, isLowerHex_iff, Char.toNat, toNat_val_ofNat (hascii byte hbyte)]
    exact hrange byte hbyte
  · intro ⟨hlength, hdigits⟩
    have hrange : ∀ char ∈ digest.toList, _ := fun char hchar =>
      isLowerHex_iff.mp (List.all_eq_true.mp hdigits char hchar)
    unfold Char.toNat at hrange
    have hascii : ∀ char ∈ digest.toList, char.val.toNat ≤ 127 := by
      intro char hchar
      have hcode := hrange char hchar
      omega
    rw [utf8Bytes_of_ascii hascii, List.length_map, List.all_map]
    refine ⟨hlength, List.all_eq_true.mpr ?_⟩
    intro char hchar
    have hsmall := hascii char hchar
    rw [Function.comp_apply, isDigestByte_iff, UInt8.toNat_ofNat', Nat.mod_eq_of_lt (by omega)]
    exact hrange char hchar

/-- The command line accepts canonical identities, and leaves them as they are. -/
theorem artifactId_eq_ok {value accepted : String} :
    artifactId value = .ok accepted ↔ isCanonicalId value = true ∧ value = accepted := by
  have hvalid : ((stripPrefix "sha256:" value).any fun digest =>
      (utf8Bytes digest).length == 64 && (utf8Bytes digest).all isDigestByte) =
        isCanonicalId value := by
    unfold isCanonicalId
    cases stripPrefix "sha256:" value with
    | none => rfl
    | some digest =>
        refine Bool.eq_iff_iff.mpr ?_
        simp only [Option.any_some, Bool.and_eq_true, beq_iff_eq]
        exact digestBytes_iff
  unfold artifactId
  rw [hvalid]
  by_cases hcanonical : isCanonicalId value = true
  · simp [hcanonical]
  · simp [hcanonical, refuse]

/-- The daemon accepts the same texts. -/
theorem artifactId_eq_ok_iff_parse {value accepted : String} : artifactId value = .ok accepted ↔
      ∃ id, ArtifactId.parse value = .ok id ∧ id.value = accepted := by
  rw [artifactId_eq_ok]
  constructor
  · intro ⟨hcanonical, haccepted⟩
    exact ⟨⟨value, hcanonical⟩, dif_pos hcanonical, haccepted⟩
  · intro ⟨id, hparse, haccepted⟩
    obtain rfl := ArtifactId.value_of_parse hparse
    exact ⟨id.canonical, haccepted⟩

/-- Identities are in bijection with digests, wherever they are read and written: the
text of a digest is accepted as it is, each accepted text is that of one digest, and
the names of the files of an identity are those of no other one. -/
theorem artifactIds_bijective (digest another : Digest) (value accepted : String)
    (id other : ArtifactId) :
    ArtifactId.parse (ArtifactId.fromDigest digest).value = .ok (ArtifactId.fromDigest digest) ∧
    ((ArtifactId.fromDigest digest).value = (ArtifactId.fromDigest another).value →
      digest = another) ∧
    (ArtifactId.parse value = .ok id →
      id.value = value ∧ ∃! digest, ArtifactId.fromDigest digest = id) ∧
    (artifactId value = .ok accepted ↔
      ∃ id, ArtifactId.parse value = .ok id ∧ id.value = accepted) ∧
    (recordName id = recordName other → id = other) ∧
    (blobName id = blobName other → id = other) ∧
    (47 ∉ (recordName id).bytes ∧ 47 ∉ (blobName id).bytes) ∧
    ImageStore.parseRecordName (recordName id) = .ok id ∧
    ((blobName id).toStr.bind fun name => (ArtifactId.parse ("sha256:" ++ name)).toOption) =
      some id := by
  refine ⟨ArtifactId.parse_value _, fromDigest_injective, ?_, artifactId_eq_ok_iff_parse,
    recordName_injective, blobName_injective,
    ⟨separator_not_mem_recordName id, separator_not_mem_blobName id⟩,
    parseRecordName_recordName id, ?_⟩
  · intro hparse
    obtain ⟨digest, hdigest⟩ := exists_fromDigest id
    refine ⟨(ArtifactId.value_of_parse hparse).symm, digest, ArtifactId.value_injective hdigest, ?_⟩
    intro found hfound
    exact fromDigest_injective ((congrArg ArtifactId.value hfound).trans hdigest.symm)
  · rw [blobName, OsString.toStr_ofString, Option.bind_some, ← id.value_eq_append,
      ArtifactId.parse_value]
    rfl

end Kernmux.Cli
