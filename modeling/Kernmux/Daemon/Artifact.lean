import Kernmux.Api.V1
import Kernmux.Library.Stream
import Kernmux.Library.Text

/-!
# Kernmux.Daemon.Artifact

Immutable artifacts of the image store: how they are identified and what is
recorded about them. An `ArtifactId` is canonical by construction.
-/

namespace Kernmux.Daemon

open Api.V1 Library

/-! ### Identity -/

/-- Semantic use of an immutable artifact. -/
inductive ArtifactKind
  | kernel
  | initrd
  | osImage
  deriving DecidableEq, Repr, Ord

def ArtifactKind.directory : ArtifactKind → String
  | .kernel => "kernel"
  | .initrd => "initrd"
  | .osImage => "os-image"

/-- Lowercase hexadecimal digits; they take one byte each. -/
def isLowerHex (digit : Char) : Bool :=
  digit.isDigit || ('a' ≤ digit && digit ≤ 'f')

/-- `sha256:` followed by exactly 64 lowercase hexadecimal digits. -/
def isCanonicalId (value : String) : Bool :=
  match stripPrefix "sha256:" value with
  | some digest => digest.toList.length == 64 && digest.toList.all isLowerHex
  | none => false

/-- Canonical SHA-256 identity of immutable artifact bytes. -/
structure ArtifactId where
  value : String
  canonical : isCanonicalId value = true
  deriving DecidableEq

/-- A SHA-256 digest. -/
structure Digest where
  bytes : List UInt8
  length_eq : bytes.length = 32
  deriving DecidableEq

def hexDigit (value : ℕ) : Char := "0123456789abcdef".toList.getD value '0'

def hexByte (byte : UInt8) : List Char := [hexDigit (byte.toNat / 16), hexDigit (byte.toNat % 16)]

theorem isLowerHex_hexDigit (value : ℕ) : isLowerHex (hexDigit value) = true := by
  by_cases hvalue : value < 16
  · revert value
    decide
  · have hnone : "0123456789abcdef".toList[value]? = none :=
      List.getElem?_eq_none (Nat.le_of_not_lt hvalue)
    rw [hexDigit, List.getD_eq_getElem?_getD, hnone]
    decide

theorem length_flatMap_hexByte (bytes : List UInt8) :
    (bytes.flatMap hexByte).length = 2 * bytes.length := by
  induction bytes with
  | nil => rfl
  | cons byte bytes ih =>
      rw [List.flatMap_cons, List.length_append, ih, List.length_cons]
      show 2 + 2 * bytes.length = 2 * (bytes.length + 1)
      omega

/-- Digests are written as 64 digits. -/
theorem isCanonicalId_digest (digest : Digest) :
    isCanonicalId ("sha256:" ++ String.ofList (digest.bytes.flatMap hexByte)) = true := by
  have hstrip : stripPrefix "sha256:"
      ("sha256:" ++ String.ofList (digest.bytes.flatMap hexByte)) =
        some (String.ofList (digest.bytes.flatMap hexByte)) := by
    rw [stripPrefix, String.toList_append, dropStart_append, String.toList_ofList]
    rfl
  have hlength : (digest.bytes.flatMap hexByte).length = 64 := by
    rw [length_flatMap_hexByte, digest.length_eq]
  have hhex : (digest.bytes.flatMap hexByte).all isLowerHex = true := by
    refine List.all_eq_true.mpr fun digit hdigit => ?_
    obtain ⟨byte, -, hbyte⟩ := List.mem_flatMap.mp hdigit
    rcases List.mem_pair.mp hbyte with rfl | rfl
    · exact isLowerHex_hexDigit _
    · exact isLowerHex_hexDigit _
  rw [isCanonicalId, hstrip]
  simp only [String.toList_ofList, hlength, hhex, BEq.rfl, Bool.and_self]

/-- The identity of bytes with this digest. -/
def ArtifactId.fromDigest (digest : Digest) : ArtifactId :=
  ⟨"sha256:" ++ String.ofList (digest.bytes.flatMap hexByte), isCanonicalId_digest digest⟩

/-- The digits of the identity. -/
def ArtifactId.digest (id : ArtifactId) : String := (stripPrefix "sha256:" id.value).getD ""

/-- An identity is its 64 digits after the name of the algorithm. -/
theorem ArtifactId.value_eq (id : ArtifactId) :
    id.value.toList = "sha256:".toList ++ id.digest.toList ∧ id.digest.toList.length = 64 := by
  have hcanonical := id.canonical
  unfold isCanonicalId at hcanonical
  cases hstrip : stripPrefix "sha256:" id.value with
  | none => simp only [hstrip, Bool.false_eq_true] at hcanonical
  | some digest =>
      obtain ⟨digits, hdrop, rfl⟩ := Option.map_eq_some_iff.mp hstrip
      simp only [hstrip, Bool.and_eq_true, beq_iff_eq] at hcanonical
      rw [ArtifactId.digest, hstrip, Option.getD_some]
      exact ⟨(eq_append_of_dropStart hdrop).trans (congrArg _ String.toList_ofList.symm),
        hcanonical.1⟩

theorem ArtifactId.value_eq_append (id : ArtifactId) : id.value = "sha256:" ++ id.digest := by
  apply String.toList_inj.mp
  rw [String.toList_append]
  exact id.value_eq.1

theorem ArtifactId.isLowerHex_digest (id : ArtifactId) {digit : Char}
    (h : digit ∈ id.digest.toList) : isLowerHex digit = true := by
  have hcanonical := id.canonical
  unfold isCanonicalId at hcanonical
  rw [ArtifactId.digest] at h
  cases hstrip : stripPrefix "sha256:" id.value with
  | none => simp [hstrip] at hcanonical
  | some digest =>
      simp only [hstrip, Bool.and_eq_true, List.all_eq_true, Option.getD_some] at hcanonical h
      exact hcanonical.2 digit h

/-- The characters of an identity. -/
theorem ArtifactId.mem_value (id : ArtifactId) {char : Char} (h : char ∈ id.value.toList) :
    char ∈ "sha256:".toList ∨ isLowerHex char = true := by
  rw [id.value_eq.1, List.mem_append] at h
  exact h.imp_right id.isLowerHex_digest

theorem ArtifactId.not_mem_value (id : ArtifactId) {char : Char}
    (hname : char ∉ "sha256:".toList) (hhex : isLowerHex char = false) :
    char ∉ id.value.toList := by
  intro hmem
  rcases id.mem_value hmem with hletter | hdigit
  · exact hname hletter
  · rw [hhex] at hdigit
    cases hdigit

theorem ArtifactId.value_ne_empty (id : ArtifactId) : id.value ≠ "" := by
  intro hempty
  have hlength := congrArg List.length id.value_eq.1
  simp [hempty] at hlength

instance : Ord ArtifactId := ⟨fun first second => compare first.value second.value⟩

/-! ### Errors -/

/-- Failure to import or verify an immutable artifact. -/
inductive ImageStoreError
  | invalidSizeLimit
  | invalidArtifactId (value : String)
  | sourceNotRegular
  | emptyArtifact
  | invalidDiskImage (detail : String)
  | invalidOsImageMetadata (detail : String)
  | tooLarge (limit : UInt64)
  | digestMismatch (expected actual : ArtifactId)
  | notFound
  | corrupt (detail : String)
  | metadataEncoding (detail : String)
  | io (operation : String) (source : IoError)
  deriving DecidableEq

/-- Parses `sha256:` followed by exactly 64 lowercase hexadecimal digits. -/
def ArtifactId.parse (value : String) : Except ImageStoreError ArtifactId :=
  if h : isCanonicalId value then .ok ⟨value, h⟩ else .error (.invalidArtifactId value)

theorem ArtifactId.parse_value (id : ArtifactId) : ArtifactId.parse id.value = .ok id :=
  dif_pos id.canonical

theorem ArtifactId.value_of_parse {value : String} {id : ArtifactId}
    (h : ArtifactId.parse value = .ok id) : value = id.value := by
  unfold ArtifactId.parse at h
  split at h
  · exact congrArg ArtifactId.value (Except.ok.inj h)
  · cases h

/-! ### Records -/

/-- Operator metadata and validated disk geometry for an OS image artifact. -/
structure OsImageRecord where
  label : String
  format : OsImageFormat
  virtualBytes : UInt64
  architecture : Option String
  deriving DecidableEq, Repr, Ord

/-- Deterministic metadata for one artifact use. -/
structure ArtifactRecord where
  schemaVersion : UInt32
  kind : ArtifactKind
  id : ArtifactId
  bytes : UInt64
  osImage : Option OsImageRecord
  deriving DecidableEq, Ord

/-! ### Validity of records -/

def recordSchemaVersion : UInt32 := 1

/-- One to 128 bytes without control characters or surrounding whitespace. -/
def validLabel (value : String) : Bool :=
  value ≠ "" && (utf8Bytes value).length ≤ 128 && trimText value = value &&
    !value.toList.any isControl

def validArchitecture (value : String) : Bool :=
  value ≠ "" && (utf8Bytes value).length ≤ 64 &&
    (utf8Bytes value).all fun byte => isAsciiAlphanumeric byte || [45, 95, 46].contains byte

/-- A record does not belong under this kind and identity, or cannot have been imported. -/
def fieldsInconsistent (record : ArtifactRecord) (expectedKind : ArtifactKind)
    (expectedId : ArtifactId) : Bool :=
  record.schemaVersion ≠ recordSchemaVersion || record.kind ≠ expectedKind ||
    record.id ≠ expectedId || record.bytes = 0 ||
    match record.kind, record.osImage with
    | .kernel, metadata | .initrd, metadata => metadata.isSome
    | .osImage, none => true
    | .osImage, some metadata =>
        metadata.virtualBytes = 0 || metadata.format = .unknown || !validLabel metadata.label ||
          metadata.architecture.any fun value => !validArchitecture value

/-! ### The catalog -/

/-- Failure to reconcile or mutate the image catalog. -/
inductive ImageCatalogError
  | staleGeneration (expected actual : Generation)
  | generationExhausted
  | store (error : ImageStoreError)
  deriving DecidableEq

end Kernmux.Daemon
