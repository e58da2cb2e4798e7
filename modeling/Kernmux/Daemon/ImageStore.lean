import Kernmux.Daemon.RecordJson
import Kernmux.Library.Disk
import Kernmux.Library.Result
import Kernmux.Library.Word
import Mathlib.Data.List.Sort

/-!
# Kernmux.Daemon.ImageStore

Immutable content-addressed storage for managed boot and OS images. An import
copies its source to a temporary file, hashes it on the way, and publishes it
by two hard links: first the blob, under the digest of its content, then the
record that names it.

The store is a `Disk` with a directory for blobs and one per kind of record.
All of its calls may fail or be the last, and so may the reads of a source.
-/

namespace Kernmux.Daemon

open Api.V1 Library Faulty Device

/-! ### The store -/

def copyBufferBytes : ℕ := 64 * 1024

/-- The directories that hold names; temporary files have a directory of their own. -/
inductive StoreDirectory
  | blobs
  | records (kind : ArtifactKind)
  deriving DecidableEq, Repr

/-- The limit for artifacts, and what the store takes from libraries. -/
structure ImageStore where
  root : PathBuf
  maxArtifactBytes : UInt64
  limit_ne_zero : maxArtifactBytes ≠ 0
  sha256 : List UInt8 → Digest
  json : RecordJson

/-- A store whose digests are the first bytes. -/
def plainStore : ImageStore where
  root := .ofString "/var/lib/kernmux/images"
  maxArtifactBytes := 4096
  limit_ne_zero := by decide
  sha256 content := ⟨(content ++ List.replicate 32 0).take 32, by simp⟩
  json := compactJson

/-- Computations on the store's disk. -/
abbrev StoreM := Faulty (Device StoreDirectory) ImageStoreError

def corrupt (detail : String) : ImageStoreError := .corrupt detail

def blobName (id : ArtifactId) : OsString := .ofString id.digest

def recordName (id : ArtifactId) : OsString := .ofString (id.digest ++ ".json")

/-- The file is regular and nobody may write it. -/
def requireReadOnlyFile (node : Node) (label : String) : Except ImageStoreError Unit :=
  match node with
  | .file _ mode => rejectIf (mode &&& 0o222 ≠ 0) (corrupt (label ++ " is writable"))
  | .symlink | .directory => .error (corrupt (label ++ " is not a regular file"))

def syncReadOnly (inode : ℕ) (operation : String) : StoreM Unit := do
  sync.mapError (.io operation)
  (setPermissions inode 0o444).mapError (.io operation)
  sync.mapError (.io operation)

/-! ### Sources -/

/-- A file outside the store: what opening and inspecting it gives, and what reads find before
and after it is rewound. -/
structure Source where
  opened : Option IoError
  /-- Whether it is a regular file, and its length. -/
  metadata : Except IoError (Bool × UInt64)
  header : List ReadReply
  rewound : Option IoError
  content : List ReadReply

def slice (bytes : List UInt8) (start stop : ℕ) : List UInt8 := (bytes.drop start).take (stop - start)

/-- Format and virtual size, by the first bytes of an image of `storedBytes`. -/
def diskImageHeader (header : List UInt8) (storedBytes : UInt64) :
    Except ImageStoreError (OsImageFormat × UInt64) := do
  if header.length < 4 ∨ slice header 0 4 ≠ [0x51, 0x46, 0x49, 0xfb] then
    let hasMbr := 512 ≤ header.length ∧ slice header 510 512 = [0x55, 0xaa]
    let hasGpt := 520 ≤ header.length ∧ slice header 512 520 = utf8Bytes "EFI PART"
    if hasMbr ∨ hasGpt then .ok (.raw, storedBytes)
    else .error (.invalidDiskImage "raw image has no MBR or GPT disk signature")
  else
    rejectIf (header.length < 32) (.invalidDiskImage "qcow2 header is truncated")
    let version := fromBeBytes (slice header 4 8)
    rejectIf (¬(1 ≤ version ∧ version ≤ 3))
      (.invalidDiskImage ("qcow2 version " ++ toString version ++ " is unsupported"))
    let clusterBits := fromBeBytes (slice header 20 24)
    rejectIf (¬(9 ≤ clusterBits ∧ clusterBits ≤ 21))
      (.invalidDiskImage "qcow2 cluster size is invalid")
    let virtualBytes := UInt64.ofNat (fromBeBytes (slice header 24 32))
    rejectIf (virtualBytes = 0) (.invalidDiskImage "qcow2 virtual size is zero")
    return (.qcow2, virtualBytes)

def inspectDiskImage (source : Source) (storedBytes : UInt64) : StoreM (OsImageFormat × UInt64) :=
  if storedBytes = 0 then fail .emptyArtifact
  else
    match (readExact (min storedBytes.toNat 520) source.header).1 with
    | .ok header => ofExcept (diskImageHeader header storedBytes)
    | .error error => fail (.io "read OS image header" error)
    | .stopped => stop

def validateLabel (value : String) : Except ImageStoreError Unit :=
  rejectIf (validLabel value = false) (.invalidOsImageMetadata
    "OS image label must be 1-128 printable characters without surrounding whitespace")

def validateArchitecture (value : String) : Except ImageStoreError String :=
  if validArchitecture value then .ok value
  else .error (.invalidOsImageMetadata "OS image architecture is invalid")

/-! ### Reading the store -/

namespace ImageStore

def new (root : PathBuf) (maxArtifactBytes : UInt64) (sha256 : List UInt8 → Digest)
    (json : RecordJson) : Except ImageStoreError ImageStore :=
  if h : maxArtifactBytes = 0 then .error .invalidSizeLimit
  else .ok ⟨root, maxArtifactBytes, h, sha256, json⟩

variable (store : ImageStore)

def blobPath (id : ArtifactId) : PathBuf :=
  (store.root.join (.ofString "blobs/sha256")).join (blobName id)

def readRecord (name : OsString) (expectedKind : ArtifactKind) (expectedId : ArtifactId) :
    StoreM ArtifactRecord := do
  let file ← (openNoFollow (.records expectedKind) name).mapError
    (.io "open artifact metadata")
  let metadata ← (metadata file).mapError (.io "inspect artifact metadata")
  ofExcept (requireReadOnlyFile metadata "artifact metadata")
  ofExcept (rejectIf (maxRecordBytes < metadata.length) (corrupt "artifact metadata is oversized"))
  let bytes ← (readToEnd file).mapError (.io "read artifact metadata")
  let record ← ofExcept (okOr (store.json.decode bytes) (corrupt "artifact metadata is malformed"))
  ofExcept (rejectIf (fieldsInconsistent record expectedKind expectedId = true)
    (corrupt "artifact metadata fields are inconsistent"))
  return record

/-- Nothing else happens between the reads of a blob, so they are one call. -/
def verifyBlob (record : ArtifactRecord) : StoreM Unit := do
  let file ← (openNoFollow .blobs (blobName record.id)).mapError (.io "open immutable blob")
  let metadata ← (metadata file).mapError (.io "inspect immutable blob")
  ofExcept (requireReadOnlyFile metadata "immutable blob")
  ofExcept (rejectIf (metadata.length ≠ record.bytes.toNat)
    (corrupt "immutable blob size disagrees with metadata"))
  let content ← (readToEnd file).mapError (.io "verify immutable blob")
  ofExcept (rejectIf (ArtifactId.fromDigest (store.sha256 content) ≠ record.id)
    (corrupt "immutable blob digest does not match its ID"))

/-- The identity a metadata file is named after. -/
def parseRecordName (name : OsString) : Except ImageStoreError ArtifactId := do
  let digest ← okOr (name.toStr.bind (stripSuffix ".json"))
    (corrupt "artifact metadata filename is invalid")
  mapErr (fun _ => corrupt "artifact metadata filename is invalid")
    (ArtifactId.parse ("sha256:" ++ digest))

/-- One entry of the catalog. -/
def listEntry (kind : ArtifactKind) (name : OsString) : StoreM ArtifactRecord := do
  sync.mapError (.io "read catalog entry")
  let metadata ← (symlinkMetadata (.records kind) name).mapError
    (.io "inspect catalog entry")
  ofExcept (requireReadOnlyFile metadata "artifact metadata")
  let id ← ofExcept (parseRecordName name)
  let record ← store.readRecord name kind id
  store.verifyBlob record
  return record

def listEntries (kind : ArtifactKind) : List OsString → StoreM (List ArtifactRecord)
  | [] => pure []
  | name :: names => do
      let record ← store.listEntry kind name
      let records ← listEntries kind names
      return record :: records

def listKinds : List ArtifactKind → StoreM (List ArtifactRecord)
  | [] => pure []
  | kind :: kinds => do
      let names ← (readDirectory (.records kind)).mapError (.io "read artifact catalog")
      let records ← store.listEntries kind names
      let others ← listKinds kinds
      return records ++ others

def sortRecords (records : List ArtifactRecord) : List ArtifactRecord :=
  records.insertionSort fun first second => (compare first second).isLE

/-- Every registered artifact, verified, in deterministic order. -/
def list : StoreM (List ArtifactRecord) := do
  let records ← store.listKinds [.kernel, .initrd, .osImage]
  return sortRecords records

/-- One registered artifact, verified. -/
def get (kind : ArtifactKind) (id : ArtifactId) : StoreM (Option ArtifactRecord) := do
  match ← (symlinkMetadata (.records kind) (recordName id)).attempt with
  | .ok metadata =>
      ofExcept (requireReadOnlyFile metadata "artifact metadata")
      let record ← store.readRecord (recordName id) kind id
      store.verifyBlob record
      return some record
  | .error source =>
      if source.kind = .notFound then return none
      else fail (.io "inspect artifact metadata" source)

/-- The path of the blob of a registered artifact. -/
def resolve (kind : ArtifactKind) (id : ArtifactId) : StoreM PathBuf := do
  let record ← ofExcept (okOr (← store.get kind id) .notFound)
  return store.blobPath record.id

/-! ### Importing -/

/-- Copies what reads find until they find nothing, and hashes it on the way. -/
def copyLoop (output : ℕ) : List ReadReply → List UInt8 → UInt64 → StoreM (ArtifactId × UInt64)
  | [], _, _ => stop
  | .failed error :: _, _, _ => fail (.io "read source artifact" error)
  | .data chunk :: input, hashed, bytes =>
      let buffer := chunk.take copyBufferBytes
      if buffer = [] then do
        ofExcept (rejectIf (bytes = 0) .emptyArtifact)
        return (ArtifactId.fromDigest (store.sha256 hashed), bytes)
      else do
        let bytes ← ofExcept (okOr (checkedAdd bytes (UInt64.ofNat buffer.length))
          (.tooLarge store.maxArtifactBytes))
        ofExcept (rejectIf (store.maxArtifactBytes < bytes) (.tooLarge store.maxArtifactBytes))
        (writeAll output buffer).mapError (.io "write temporary blob")
        copyLoop output input (hashed ++ buffer) bytes

def copyAndHash (source : Source) (output : ℕ) : StoreM (ArtifactId × UInt64) :=
  store.copyLoop output source.content [] 0

def publishBlob (temporary : ℕ) (record : ArtifactRecord) : StoreM Unit := do
  match ← (hardLink temporary .blobs (blobName record.id)).attempt with
  | .ok () => sync.mapError (.io "sync blob directory")
  | .error source =>
      if source.kind = .alreadyExists then store.verifyBlob record
      else fail (.io "publish immutable blob" source)

/-- Records can always be encoded. -/
def publishRecord (record : ArtifactRecord) : StoreM Unit :=
  withTemporary (.io "create temporary metadata") fun temporary => do
    (writeAll temporary (store.json.encode record)).mapError (.io "write temporary metadata")
    syncReadOnly temporary "sync temporary metadata"
    match ← (hardLink temporary (.records record.kind) (recordName record.id)).attempt with
    | .ok () => sync.mapError (.io "sync record directory")
    | .error source =>
        if source.kind = .alreadyExists then do
          let existing ← store.readRecord (recordName record.id) record.kind record.id
          ofExcept (rejectIf (existing ≠ record)
            (corrupt "artifact metadata disagrees with imported bytes"))
        else fail (.io "publish artifact metadata" source)

/-- The digest is the one that was asked for. -/
def checkExpected (expected : Option ArtifactId) (actual : ArtifactId) :
    Except ImageStoreError Unit :=
  rejectSome (expected.filter (· ≠ actual)) fun expected => .digestMismatch expected actual

/-- The part that both imports share: from the copy of an opened source to its record. -/
def importOpened (kind : ArtifactKind) (source : Source) (expectedId : Option ArtifactId)
    (osImage : Option OsImageRecord) : StoreM ArtifactRecord :=
  withTemporary (.io "create temporary blob") fun temporary => do
    let (id, bytes) ← store.copyAndHash source temporary
    ofExcept (checkExpected expectedId id)
    syncReadOnly temporary "sync temporary blob"
    let record : ArtifactRecord := ⟨recordSchemaVersion, kind, id, bytes, osImage⟩
    store.publishBlob temporary record
    store.publishRecord record
    return record

def importPath (kind : ArtifactKind) (source : Source) (expectedId : Option ArtifactId) :
    StoreM ArtifactRecord := do
  ofExcept (rejectSome source.opened (.io "open source artifact"))
  let (isFile, _) ← ofExcept (mapErr (.io "inspect source artifact") source.metadata)
  ofExcept (rejectIf (isFile = false) .sourceNotRegular)
  store.importOpened kind source expectedId none

def importOsImage (source : Source) (label : String) (architecture : Option String)
    (expectedId : Option ArtifactId) : StoreM ArtifactRecord := do
  ofExcept (validateLabel label)
  let architecture ← ofExcept (architecture.mapM validateArchitecture)
  ofExcept (rejectSome source.opened (.io "open source OS image"))
  let (isFile, length) ← ofExcept (mapErr (.io "inspect source OS image") source.metadata)
  ofExcept (rejectIf (isFile = false) .sourceNotRegular)
  let (format, virtualBytes) ← inspectDiskImage source length
  ofExcept (rejectSome source.rewound (.io "rewind source OS image"))
  store.importOpened .osImage source expectedId (some ⟨label, format, virtualBytes, architecture⟩)

end ImageStore

/-- An import that the daemon may ask for; boot artifacts have a path import of their own. -/
inductive ImportCall
  | path (kind : ArtifactKind) (boot : kind ≠ .osImage) (source : Source)
      (expectedId : Option ArtifactId)
  | osImage (source : Source) (label : String) (architecture : Option String)
      (expectedId : Option ArtifactId)

def ImportCall.run (store : ImageStore) : ImportCall → StoreM ArtifactRecord
  | .path kind _ source expectedId => store.importPath kind source expectedId
  | .osImage source label architecture expectedId =>
      store.importOsImage source label architecture expectedId

end Kernmux.Daemon
