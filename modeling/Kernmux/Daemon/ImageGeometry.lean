import Kernmux.Daemon.ImportEffects

/-!
# Kernmux.Daemon.ImageGeometry

**What the record of an OS image says about its blob.** The format and the virtual
size of a record come from a first pass over the source, which reads its header and
asks for its length; the blob is what a second pass finds. Nothing keeps the source
as it is in between. The record describes the blob exactly when the second pass
found an image of the same geometry (`SameGeometry`).
-/

namespace Kernmux.Daemon

open Api.V1 Library

/-! ### Headers -/

/-- The first bytes are those of a qcow2 image. -/
def IsQcow2 (header : List UInt8) : Prop :=
  4 ≤ header.length ∧ slice header 0 4 = [0x51, 0x46, 0x49, 0xfb]

/-- A raw image has a partition table. -/
def HasSignature (header : List UInt8) : Prop :=
  (512 ≤ header.length ∧ slice header 510 512 = [0x55, 0xaa]) ∨
    (520 ≤ header.length ∧ slice header 512 520 = utf8Bytes "EFI PART")

def virtualSize (header : List UInt8) : UInt64 := UInt64.ofNat (fromBeBytes (slice header 24 32))

/-- What is asked of a qcow2 header. -/
structure Qcow2Header (header : List UInt8) : Prop where
  long : 32 ≤ header.length
  version : 1 ≤ fromBeBytes (slice header 4 8) ∧ fromBeBytes (slice header 4 8) ≤ 3
  clusterBits : 9 ≤ fromBeBytes (slice header 20 24) ∧ fromBeBytes (slice header 20 24) ≤ 21
  virtualSize_ne_zero : virtualSize header ≠ 0

theorem diskImageHeader_eq_ok_iff {header : List UInt8} {storedBytes virtualBytes : UInt64}
    {format : OsImageFormat} :
    diskImageHeader header storedBytes = .ok (format, virtualBytes) ↔
      (IsQcow2 header ∧ Qcow2Header header ∧ format = .qcow2 ∧ virtualBytes = virtualSize header) ∨
      (¬IsQcow2 header ∧ HasSignature header ∧ format = .raw ∧ virtualBytes = storedBytes) := by
  have hmagic : (header.length < 4 ∨ slice header 0 4 ≠ [0x51, 0x46, 0x49, 0xfb]) ↔
      ¬IsQcow2 header := by
    rw [IsQcow2, not_and_or, Nat.not_le]
  unfold diskImageHeader
  by_cases hqcow2 : IsQcow2 header
  · rw [if_neg (hmagic.not.mpr (not_not.mpr hqcow2))]
    simp only [guard_eq_ok, rejectIf_eq_ok, not_not, Nat.not_lt, pure_eq_ok, Prod.mk.injEq,
      hqcow2, true_and, not_true_eq_false, false_and, or_false]
    constructor
    · intro ⟨hlong, hversion, hbits, hvirtual, hformat, hbytes⟩
      exact ⟨⟨hlong, hversion, hbits, hvirtual⟩, hformat.symm, hbytes.symm⟩
    · intro ⟨hheader, hformat, hbytes⟩
      exact ⟨hheader.long, hheader.version, hheader.clusterBits, hheader.virtualSize_ne_zero,
        hformat.symm, hbytes.symm⟩
  · rw [if_pos (hmagic.mpr hqcow2)]
    dsimp only
    by_cases hsignature : HasSignature header
    · unfold HasSignature at hsignature ⊢
      rw [if_pos hsignature]
      simp only [Except.ok.injEq, Prod.mk.injEq, hqcow2, hsignature, false_and, not_false_eq_true,
        true_and, false_or]
      rw [eq_comm, eq_comm (a := storedBytes)]
    · unfold HasSignature at hsignature ⊢
      rw [if_neg hsignature]
      simp only [reduceCtorEq, hqcow2, hsignature, false_and, and_false, or_self]

/-! ### The two passes -/

/-- The length that the source is said to have. -/
def Source.length (source : Source) : UInt64 :=
  match source.metadata with
  | .ok (_, length) => length
  | .error _ => 0

/-- What the first pass finds. -/
def Source.firstPass (source : Source) : List UInt8 :=
  (readExact (min source.length.toNat 520) source.header).1.value?.getD []

/-- A source that is not changed. -/
def Source.holding (content : List UInt8) : Source where
  opened := none
  metadata := .ok (true, UInt64.ofNat content.length)
  header := [.data content, .data []]
  rewound := none
  content := [.data content, .data []]

section Passes

variable {store : ImageStore} {source : Source} {label : String} {architecture : Option String}
  {expectedId : Option ArtifactId} {record : ArtifactRecord}
  {device reached : Device StoreDirectory} {format : OsImageFormat} {virtualBytes : UInt64}

/-- What the inspection of a header looks at. -/
theorem inspectDiskImage_eq_ok {storedBytes : UInt64} :
    inspectDiskImage source storedBytes device = (.ok (format, virtualBytes), reached) ↔
      reached = device ∧ storedBytes ≠ 0 ∧ ∃ header,
        (readExact (min storedBytes.toNat 520) source.header).1 = .ok header ∧
          diskImageHeader header storedBytes = .ok (format, virtualBytes) := by
  unfold inspectDiskImage
  by_cases hzero : storedBytes = 0
  · rw [if_pos hzero]
    simp [Faulty.fail, hzero]
  · rw [if_neg hzero]
    cases (readExact (min storedBytes.toNat 520) source.header).1 with
    | error error => simp [Faulty.fail]
    | stopped => simp [Faulty.stop]
    | ok header =>
        simp only [Faulty.ofExcept_eq_ok, Ended.ok.injEq, exists_eq_left', ne_eq, hzero,
          not_false_eq_true, true_and]
        exact and_comm

theorem eq_of_mapM_eq_ok {accepted : Option String}
    (h : architecture.mapM validateArchitecture = .ok accepted) : accepted = architecture := by
  cases architecture with
  | none => exact (Except.ok.inj h).symm
  | some given =>
      have hgiven : (some given).mapM validateArchitecture = some <$> validateArchitecture given :=
        rfl
      rw [hgiven, validateArchitecture] at h
      split at h
      · exact (Except.ok.inj h).symm
      · cases h

/-- An image that was imported has been inspected first. -/
theorem inspected_of_importOsImage
    (h : store.importOsImage source label architecture expectedId device = (.ok record, reached)) :
    ∃ image : OsImageRecord, (image.label = label ∧ validateLabel label = .ok ()) ∧
      (image.architecture = architecture ∧
        architecture.mapM validateArchitecture = .ok architecture) ∧
      diskImageHeader source.firstPass source.length = .ok (image.format, image.virtualBytes) ∧
      store.importOpened .osImage source expectedId (some image) device = (.ok record, reached) := by
  obtain ⟨_, hlabel, h⟩ := Faulty.ofExcept_bind_eq_ok.mp h
  obtain ⟨accepted, haccepted, h⟩ := Faulty.ofExcept_bind_eq_ok.mp h
  obtain ⟨_, -, h⟩ := Faulty.ofExcept_bind_eq_ok.mp h
  obtain ⟨⟨isFile, length⟩, hmetadata, h⟩ := Faulty.ofExcept_bind_eq_ok.mp h
  obtain ⟨_, -, h⟩ := Faulty.ofExcept_bind_eq_ok.mp h
  obtain ⟨⟨format, virtualBytes⟩, between, hinspect, himport⟩ := Faulty.bind_eq_ok.mp h
  obtain ⟨hsame, -, header, hread, hheader⟩ := inspectDiskImage_eq_ok.mp hinspect
  obtain ⟨_, -, himport⟩ := Faulty.ofExcept_bind_eq_ok.mp himport
  rw [hsame] at himport
  have hlength : source.length = length := by
    rw [Source.length, mapErr_eq_ok.mp hmetadata]
  have hfirst : source.firstPass = header := by
    rw [Source.firstPass, hlength, hread]
    rfl
  obtain rfl := eq_of_mapM_eq_ok haccepted
  refine ⟨⟨label, format, virtualBytes, accepted⟩, ⟨rfl, hlabel⟩, ⟨rfl, haccepted⟩, ?_, himport⟩
  rw [hfirst, hlength]
  exact hheader

/-- The inspection of a file that holds these bytes. -/
theorem inspectDiskImage_holding {content : List UInt8} {storedBytes : UInt64}
    (hlength : content.length = storedBytes.toNat) (hbytes : storedBytes ≠ 0) :
    inspectDiskImage (Source.holding content) storedBytes device =
        (.ok (format, virtualBytes), device) ↔
      diskImageHeader (content.take 520) storedBytes = .ok (format, virtualBytes) := by
  have hne : content ≠ [] := by
    intro hnil
    refine hbytes (UInt64.toNat_inj.mp ?_)
    rw [← hlength, hnil]
    rfl
  have hdelivers : Delivers content (Source.holding content).header := by
    have hpiece := Delivers.piece hne (.finished [])
    rw [List.append_nil] at hpiece
    exact hpiece
  obtain ⟨left, hread, -⟩ := hdelivers.readExact_of_le
    (show min storedBytes.toNat 520 ≤ content.length by omega)
  have htake : content.take (min storedBytes.toNat 520) = content.take 520 := by
    rw [← hlength, List.take_eq_take_iff]
    omega
  rw [inspectDiskImage_eq_ok, hread, htake]
  simp [hbytes]

/-! ### Records and blobs -/

/-- What stands under the digest of these bytes once they have been imported: other bytes only
where there were some with the same digest before. -/
def ImageStore.stored (store : ImageStore) (disk : Disk StoreDirectory) (content : List UInt8) :
    List UInt8 :=
  (disk.contentAt .blobs (blobName (ArtifactId.fromDigest (store.sha256 content)))).getD content

/-- The record says of the blob what an inspection of the blob finds. -/
def Described (record : ArtifactRecord) (disk : Disk StoreDirectory) : Prop :=
  ∃ content image, ReadOnlyFile .blobs (blobName record.id) content disk ∧
    record.osImage = some image ∧ ∀ device,
      inspectDiskImage (Source.holding content) record.bytes device =
        (.ok (image.format, image.virtualBytes), device)

/-- The geometry that the first pass found is that of the stored image: for qcow2 a valid header
with the same virtual size, for raw images the same length and a partition table. -/
structure SameGeometry (firstPass : List UInt8) (length : UInt64) (stored : List UInt8) : Prop where
  qcow2 : IsQcow2 firstPass → IsQcow2 (stored.take 520) ∧ Qcow2Header (stored.take 520) ∧
    virtualSize (stored.take 520) = virtualSize firstPass
  raw : ¬IsQcow2 firstPass → ¬IsQcow2 (stored.take 520) ∧ HasSignature (stored.take 520) ∧
    stored.length = length.toNat

theorem sameGeometry_iff {firstPass stored : List UInt8} {length storedBytes : UInt64}
    (hfirst : diskImageHeader firstPass length = .ok (format, virtualBytes))
    (hlength : stored.length = storedBytes.toNat) :
    diskImageHeader (stored.take 520) storedBytes = .ok (format, virtualBytes) ↔
      SameGeometry firstPass length stored := by
  obtain ⟨hqcow2, -, rfl, rfl⟩ | ⟨hraw, -, rfl, rfl⟩ := diskImageHeader_eq_ok_iff.mp hfirst
  · rw [diskImageHeader_eq_ok_iff]
    constructor
    · intro h
      obtain ⟨hsame, hheader, -, hvirtual⟩ | ⟨-, -, hformat, -⟩ := h
      · exact ⟨fun _ => ⟨hsame, hheader, hvirtual.symm⟩, fun hraw => absurd hqcow2 hraw⟩
      · cases hformat
    · intro h
      obtain ⟨hsame, hheader, hvirtual⟩ := h.qcow2 hqcow2
      exact .inl ⟨hsame, hheader, rfl, hvirtual.symm⟩
  · rw [diskImageHeader_eq_ok_iff]
    constructor
    · intro h
      obtain ⟨-, -, hformat, -⟩ | ⟨hsame, hsignature, -, hvirtual⟩ := h
      · cases hformat
      · refine ⟨fun hqcow2 => absurd hqcow2 hraw, fun _ => ⟨hsame, hsignature, ?_⟩⟩
        rw [hlength, hvirtual]
    · intro h
      obtain ⟨hsame, hsignature, hlengths⟩ := h.raw hraw
      refine .inr ⟨hsame, hsignature, rfl, UInt64.toNat_inj.mp ?_⟩
      rw [← hlengths, hlength]

theorem described_iff_header {disk : Disk StoreDirectory} {replies : ℕ → DiskReply}
    (hrun : store.importOsImage source label architecture expectedId ⟨disk, replies⟩ =
      (.ok record, reached)) :
    ∃ image, record.osImage = some image ∧
      diskImageHeader source.firstPass source.length = .ok (image.format, image.virtualBytes) ∧
      (store.stored disk source.found).length = record.bytes.toNat ∧
      (Described record reached.disk ↔
        diskImageHeader ((store.stored disk source.found).take 520) record.bytes =
          .ok (image.format, image.virtualBytes)) := by
  obtain ⟨image, -, -, hheader, himport⟩ := inspected_of_importOsImage hrun
  obtain ⟨hgains, rfl, -⟩ := gains_importOpened.of_ok trivial himport
  have hentry := ((moves_importOsImage source label architecture expectedId).of_ok trivial hrun).2
  obtain ⟨-, ⟨_, -, -, -, hfields⟩, ⟨content, ⟨inode, mode, hfind, hnode, hmode⟩, hlength, -⟩⟩ :=
    hentry
  obtain ⟨-, -, -, hbytes⟩ := fields_of_consistent hfields
  have hstored : content = store.stored disk source.found := hgains.content_eq rfl hfind hnode
  have hfile : ReadOnlyFile .blobs _ content reached.disk := ⟨inode, mode, hfind, hnode, hmode⟩
  rw [← hstored]
  refine ⟨image, rfl, hheader, hlength, ?_, ?_⟩
  · intro ⟨other, described, hother, hdescribed, hinspect⟩
    cases hdescribed
    obtain rfl := hother.unique hfile
    exact (inspectDiskImage_holding hlength hbytes).mp (hinspect reached)
  · intro hinspect
    exact ⟨content, image, hfile, rfl, fun device =>
      (inspectDiskImage_holding hlength hbytes).mpr hinspect⟩

/-- The record of an import describes its blob exactly when the two passes over the source found
the same geometry. -/
theorem importOsImage_described_iff {disk : Disk StoreDirectory} {replies : ℕ → DiskReply}
    (hrun : store.importOsImage source label architecture expectedId ⟨disk, replies⟩ =
      (.ok record, reached)) :
    Described record reached.disk ↔
      SameGeometry source.firstPass source.length (store.stored disk source.found) := by
  obtain ⟨image, -, hheader, hlength, hdescribed⟩ := described_iff_header hrun
  rw [hdescribed, sameGeometry_iff hheader hlength]

end Passes

/-! ### Two images -/

/-- A raw image of one sector. -/
def sector : List UInt8 := List.replicate 510 0 ++ [0x55, 0xaa]

def sectorRecord (content : List UInt8) : ArtifactRecord :=
  plainStore.recordOf .osImage (some ⟨"one sector", .raw, 512, none⟩) content

theorem importOsImage_described_iff_sector : ∃ reached,
    plainStore.importOsImage (.holding sector) "one sector" none none ⟨.empty, fun _ => .done⟩ =
      (.ok (sectorRecord sector), reached) ∧ Described (sectorRecord sector) reached.disk := by
  have hok : (plainStore.importOsImage (.holding sector) "one sector" none none
      ⟨.empty, fun _ => .done⟩).1 = .ok (sectorRecord sector) := by decide +kernel
  have hfirst : diskImageHeader (Source.holding sector).firstPass (Source.holding sector).length =
      .ok (.raw, 512) := by decide +kernel
  have hstored : diskImageHeader
      ((plainStore.stored .empty (Source.holding sector).found).take 520) 512 =
        .ok (.raw, 512) := by decide +kernel
  have hlength : (plainStore.stored .empty (Source.holding sector).found).length =
      (512 : UInt64).toNat := by decide +kernel
  have hrun := Prod.fst_eq_iff.mp hok
  generalize (plainStore.importOsImage _ _ _ _ _).2 = reached at hrun
  exact ⟨reached, hrun, (importOsImage_described_iff hrun).mpr
    ((sameGeometry_iff hfirst hlength).mp hstored)⟩

/-- The source has grown by a byte when it is read for the second time. -/
def grownSource : Source := { Source.holding sector with content := [.data (sector ++ [0]), .data []] }

/-- The record says that the image has the 512 bytes of before, and it has 513. -/
theorem grown_image_not_described : ∃ reached,
    plainStore.importOsImage grownSource "one sector" none none ⟨.empty, fun _ => .done⟩ =
      (.ok (sectorRecord (sector ++ [0])), reached) ∧
    (sectorRecord (sector ++ [0])).osImage = some ⟨"one sector", .raw, 512, none⟩ ∧
    (sectorRecord (sector ++ [0])).bytes = 513 ∧
    ¬Described (sectorRecord (sector ++ [0])) reached.disk := by
  have hok : (plainStore.importOsImage grownSource "one sector" none none
      ⟨.empty, fun _ => .done⟩).1 = .ok (sectorRecord (sector ++ [0])) := by decide +kernel
  have hstored : diskImageHeader ((plainStore.stored .empty grownSource.found).take 520)
      (sectorRecord (sector ++ [0])).bytes = .ok (.raw, 513) := by decide +kernel
  have hrun := Prod.fst_eq_iff.mp hok
  generalize (plainStore.importOsImage _ _ _ _ _).2 = reached at hrun
  refine ⟨reached, hrun, rfl, by decide +kernel, ?_⟩
  obtain ⟨image, himage, -, -, hdescribed⟩ := described_iff_header hrun
  cases himage
  intro hcontra
  have hheader := hdescribed.mp hcontra
  have hsize : (512 : UInt64) = 513 :=
    (Prod.mk.inj (Except.ok.inj (hheader.symm.trans hstored))).2
  exact absurd hsize (by decide)

end Kernmux.Daemon
