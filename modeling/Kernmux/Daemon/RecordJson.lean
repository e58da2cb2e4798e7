import Kernmux.Daemon.Artifact
import Kernmux.Library.Json

/-!
# Kernmux.Daemon.RecordJson

Artifact records as the store keeps them on disk: compact JSON, the fields in
the order of their declaration, absent options left out. What the store relies
on is stated by `RecordJson`: a record is read back as it was written, and one
that passes its own check fits the limit for metadata. `compactJson` is such a
writer with the least reader for it.
-/

namespace Kernmux.Daemon

open Api.V1 Library

/-! ### Writing -/

def ArtifactKind.name : ArtifactKind → String
  | .kernel => "kernel"
  | .initrd => "initrd"
  | .osImage => "os_image"

def formatName : OsImageFormat → String
  | .raw => "raw"
  | .qcow2 => "qcow2"
  | .unknown => "unknown"

/-- An optional last field, and the end of the object. -/
def encodeLast {α : Type} (name : String) (encode : α → List UInt8) : Option α → List UInt8
  | some value => writeField comma name ++ (encode value ++ [closeBrace])
  | none => [closeBrace]

def encodeOsImage (image : OsImageRecord) : List UInt8 :=
  writeField openBrace "label" ++ (writeString image.label ++
    (writeField comma "format" ++ (writeString (formatName image.format) ++
      (writeField comma "virtual_bytes" ++ (writeNumber image.virtualBytes.toNat ++
        encodeLast "architecture" writeString image.architecture)))))

def encodeRecord (record : ArtifactRecord) : List UInt8 :=
  writeField openBrace "schema_version" ++ (writeNumber record.schemaVersion.toNat ++
    (writeField comma "kind" ++ (writeString record.kind.name ++
      (writeField comma "id" ++ (writeString record.id.value ++
        (writeField comma "bytes" ++ (writeNumber record.bytes.toNat ++
          encodeLast "os_image" encodeOsImage record.osImage)))))))

/-! ### Reading -/

def kindOfName (name : String) : Option ArtifactKind :=
  [ArtifactKind.kernel, .initrd, .osImage].find? fun kind => kind.name = name

/-- Formats that are not known are read as unknown. -/
def formatOfName (name : String) : OsImageFormat :=
  if name = "raw" then .raw else if name = "qcow2" then .qcow2 else .unknown

def decodeLast {α : Type} (name : String) (read : JsonReader α) : JsonReader (Option α) :=
  fun input =>
    match input with
    | [] => none
    | byte :: rest =>
        if byte = closeBrace then some (none, rest)
        else do
          let input ← readField comma name (byte :: rest)
          let (value, input) ← read input
          let rest ← dropStart [closeBrace] input
          return (some value, rest)

def decodeOsImage : JsonReader OsImageRecord := fun input => do
  let input ← readField openBrace "label" input
  let (label, input) ← readString input
  let input ← readField comma "format" input
  let (format, input) ← readString input
  let input ← readField comma "virtual_bytes" input
  let (virtualBytes, input) ← readNumber UInt64.size input
  let (architecture, rest) ← decodeLast "architecture" readString input
  return (⟨label, formatOfName format, UInt64.ofNat virtualBytes, architecture⟩, rest)

def decodeRecord (input : List UInt8) : Option ArtifactRecord := do
  let input ← readField openBrace "schema_version" input
  let (schemaVersion, input) ← readNumber UInt32.size input
  let input ← readField comma "kind" input
  let (name, input) ← readString input
  let kind ← kindOfName name
  let input ← readField comma "id" input
  let (value, input) ← readString input
  let id ← (ArtifactId.parse value).toOption
  let input ← readField comma "bytes" input
  let (bytes, input) ← readNumber UInt64.size input
  let (osImage, rest) ← decodeLast "os_image" decodeOsImage input
  guard (rest = [])
  return ⟨UInt32.ofNat schemaVersion, kind, id, UInt64.ofNat bytes, osImage⟩

/-! ### What was written is read back -/

theorem decodeLast_encodeLast {α : Type} (name : String) {encode : α → List UInt8}
    {read : JsonReader α} (hread : ∀ value rest, read (encode value ++ rest) = some (value, rest))
    (value : Option α) (rest : List UInt8) :
    decodeLast name read (encodeLast name encode value ++ rest) = some (value, rest) := by
  cases value with
  | none => rfl
  | some value =>
      have hfield := readField_append comma name (encode value ++ ([closeBrace] ++ rest))
      rw [encodeLast, List.append_assoc, List.append_assoc]
      rw [writeField, List.cons_append] at hfield ⊢
      rw [decodeLast, if_neg (by decide), hfield]
      simp only [Option.bind_eq_bind, Option.bind_some, hread, dropStart_append, Option.pure_def]

theorem head_encodeLast {α : Type} (name : String) (encode : α → List UInt8) (value : Option α)
    (rest : List UInt8) :
    ∀ byte ∈ (encodeLast name encode value ++ rest).head?, isAsciiDigit byte = false := by
  intro byte hbyte
  cases value with
  | none | some value =>
      cases hbyte
      decide

theorem decodeOsImage_encodeOsImage (image : OsImageRecord) (rest : List UInt8) :
    decodeOsImage (encodeOsImage image ++ rest) = some (image, rest) := by
  have hformat : formatOfName (formatName image.format) = image.format := by
    cases image.format <;> rfl
  have hbytes : readNumber UInt64.size (writeNumber image.virtualBytes.toNat ++
      (encodeLast "architecture" writeString image.architecture ++ rest)) =
        some (image.virtualBytes.toNat,
          encodeLast "architecture" writeString image.architecture ++ rest) :=
    readNumber_append image.virtualBytes.toNat_lt_size (head_encodeLast _ _ _ _)
  have hlast := decodeLast_encodeLast "architecture" readString_append image.architecture rest
  simp only [decodeOsImage, encodeOsImage, List.append_assoc, readField_append, readString_append,
    Option.bind_eq_bind, Option.bind_some, hbytes, hlast, hformat, UInt64.ofNat_toNat,
    Option.pure_def]

theorem kindOfName_name (kind : ArtifactKind) : kindOfName kind.name = some kind := by
  cases kind <;> rfl

theorem decodeRecord_encodeRecord (record : ArtifactRecord) :
    decodeRecord (encodeRecord record) = some record := by
  have hversion (rest : List UInt8) : readNumber UInt32.size
      (writeNumber record.schemaVersion.toNat ++ (writeField comma "kind" ++ rest)) =
        some (record.schemaVersion.toNat, writeField comma "kind" ++ rest) := by
    refine readNumber_append record.schemaVersion.toNat_lt_size fun byte hbyte => ?_
    cases hbyte
    decide
  have hbytes : readNumber UInt64.size
      (writeNumber record.bytes.toNat ++ encodeLast "os_image" encodeOsImage record.osImage) =
        some (record.bytes.toNat, encodeLast "os_image" encodeOsImage record.osImage) := by
    have hhead := head_encodeLast "os_image" encodeOsImage record.osImage []
    rw [List.append_nil] at hhead
    exact readNumber_append record.bytes.toNat_lt_size hhead
  have hlast : decodeLast "os_image" decodeOsImage
      (encodeLast "os_image" encodeOsImage record.osImage) = some (record.osImage, []) := by
    have h := decodeLast_encodeLast "os_image" decodeOsImage_encodeOsImage record.osImage []
    rwa [List.append_nil] at h
  simp only [decodeRecord, encodeRecord, readField_append, readString_append, hversion, hbytes,
    hlast, kindOfName_name, ArtifactId.parse_value, Except.toOption, Option.bind_eq_bind,
    Option.bind_some, UInt32.ofNat_toNat, UInt64.ofNat_toNat, guard, if_true, Option.pure_def]

/-! ### Size -/

def maxRecordBytes : ℕ := 4096

theorem length_writeId_le (id : ArtifactId) : (writeString id.value).length ≤ 1706 := by
  have hwritten := length_writeString_le id.value
  have hbytes := length_utf8Bytes_le id.value
  rw [id.value_eq.1, List.length_append, id.value_eq.2] at hbytes
  have hname : "sha256:".toList.length = 7 := rfl
  omega

theorem length_writeUInt64_le (value : UInt64) : (writeNumber value.toNat).length ≤ 20 :=
  length_writeNumber_le (by decide) (Nat.lt_trans value.toNat_lt (by decide))

/-- Metadata of an accepted record is bounded. -/
theorem bounds_of_consistent {record : ArtifactRecord} {kind : ArtifactKind} {id : ArtifactId}
    {image : OsImageRecord} (h : fieldsInconsistent record kind id = false)
    (himage : record.osImage = some image) :
    (utf8Bytes image.label).length ≤ 128 ∧
      ∀ value ∈ image.architecture, (utf8Bytes value).length ≤ 64 := by
  unfold fieldsInconsistent at h
  rw [himage, Bool.or_eq_false_iff] at h
  obtain ⟨-, h⟩ := h
  cases hkind : record.kind with
  | kernel | initrd => simp [hkind] at h
  | osImage =>
      rw [hkind] at h
      simp only [Bool.or_eq_false_iff, Bool.not_eq_false'] at h
      obtain ⟨⟨-, hlabel⟩, harchitecture⟩ := h
      simp only [validLabel, Bool.and_eq_true, decide_eq_true_eq] at hlabel
      refine ⟨hlabel.1.1.2, fun value hvalue => ?_⟩
      simp only [Option.mem_def.mp hvalue, Option.any_some, Bool.not_eq_false', validArchitecture,
        Bool.and_eq_true, decide_eq_true_eq] at harchitecture
      exact harchitecture.1.2

theorem length_encodeLast_le {α : Type} (name : String) {encode : α → List UInt8} {bound : ℕ}
    {value : Option α} (h : ∀ item ∈ value, (encode item).length ≤ bound) :
    (encodeLast name encode value).length ≤ (writeField comma name).length + bound + 1 := by
  cases value with
  | none => exact Nat.le_add_left _ _
  | some item =>
      have hitem := h item rfl
      simp only [encodeLast, List.length_append, List.length_singleton]
      omega

theorem length_encodeOsImage_le {image : OsImageRecord}
    (hlabel : (utf8Bytes image.label).length ≤ 128)
    (harchitecture : ∀ value ∈ image.architecture, (utf8Bytes value).length ≤ 64) :
    (encodeOsImage image).length ≤ 1300 := by
  have hlabel' := length_writeString_le image.label
  have hformat : (writeString (formatName image.format)).length ≤ 9 := by
    cases image.format <;> decide
  have hbytes := length_writeUInt64_le image.virtualBytes
  have hlast : (encodeLast "architecture" writeString image.architecture).length ≤
      (writeField comma "architecture").length + 386 + 1 := by
    refine length_encodeLast_le _ fun value hvalue => ?_
    have hvalue' := harchitecture value hvalue
    have hwritten := length_writeString_le value
    omega
  have hnames : (writeField openBrace "label").length + (writeField comma "format").length +
      (writeField comma "virtual_bytes").length + (writeField comma "architecture").length = 52 := by
    decide
  simp only [encodeOsImage, List.length_append]
  omega

/-- Records that pass their own check fit the limit for metadata. -/
theorem length_encodeRecord_le {record : ArtifactRecord} {kind : ArtifactKind} {id : ArtifactId}
    (h : fieldsInconsistent record kind id = false) :
    (encodeRecord record).length ≤ maxRecordBytes := by
  have hversion : (writeNumber record.schemaVersion.toNat).length ≤ 10 :=
    length_writeNumber_le (by decide) (Nat.lt_trans record.schemaVersion.toNat_lt (by decide))
  have hkind : (writeString record.kind.name).length ≤ 10 := by
    cases record.kind <;> decide
  have hid := length_writeId_le record.id
  have hbytes := length_writeUInt64_le record.bytes
  have hlast : (encodeLast "os_image" encodeOsImage record.osImage).length ≤
      (writeField comma "os_image").length + 1300 + 1 := by
    refine length_encodeLast_le _ fun image himage => ?_
    obtain ⟨hlabel, harchitecture⟩ := bounds_of_consistent h himage
    exact length_encodeOsImage_le hlabel harchitecture
  have hnames : (writeField openBrace "schema_version").length + (writeField comma "kind").length +
      (writeField comma "id").length + (writeField comma "bytes").length +
      (writeField comma "os_image").length = 53 := by
    decide
  simp only [encodeRecord, List.length_append, maxRecordBytes]
  omega

/-! ### What the store relies on -/

/-- A writer and a reader of records. -/
structure RecordJson where
  encode : ArtifactRecord → List UInt8
  decode : List UInt8 → Option ArtifactRecord
  decode_encode : ∀ record, decode (encode record) = some record
  length_encode_le : ∀ {record kind id}, fieldsInconsistent record kind id = false →
    (encode record).length ≤ maxRecordBytes

/-- The reader accepts nothing but what is written. -/
def compactJson : RecordJson :=
  ⟨encodeRecord, decodeRecord, decodeRecord_encodeRecord, length_encodeRecord_le⟩

end Kernmux.Daemon
