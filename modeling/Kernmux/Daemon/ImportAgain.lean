import Kernmux.Daemon.ImageGeometry
import Kernmux.Library.Scratch

/-!
# Kernmux.Daemon.ImportAgain

**Importing what is there.** When a record of the same kind and digest is there and
its blob is sound, an import publishes nothing: it compares the record with its own
and returns it, or refuses. Either way the store is left as it was.
-/

namespace Kernmux.Daemon

open Api.V1 Library Device Faulty

open Device (healthy)

variable {kind : ArtifactKind} {source : Source} {expectedId : Option ArtifactId}
  {osImage : Option OsImageRecord}

section Again

variable {store : ImageStore} {record existing : ArtifactRecord} {disk : Disk StoreDirectory}
  {inode : ℕ} {content : List UInt8} {mode : UInt32}

/-- The length of what fits into the store is a 64-bit number. -/
theorem toNat_length (hfits : content.length ≤ store.maxArtifactBytes.toNat) :
    (UInt64.ofNat content.length).toNat = content.length :=
  UInt64.toNat_ofNat_of_lt' (hfits.trans_lt store.maxArtifactBytes.toNat_lt)

theorem ends_copyLoop {input : List ReadReply} {hashed rest : List UInt8} {bytes : UInt64}
    (hdraft : Disk.Draft inode hashed mode disk) (hbytes : hashed.length = bytes.toNat)
    (hread : readUntilEmpty input = some rest)
    (hlimit : hashed.length + rest.length ≤ store.maxArtifactBytes.toNat)
    (hsome : hashed ++ rest ≠ []) :
    Ends disk (store.copyLoop inode input hashed bytes)
      (.ok (ArtifactId.fromDigest (store.sha256 (hashed ++ rest)),
        UInt64.ofNat (hashed ++ rest).length))
      (Disk.Draft inode (hashed ++ rest) mode) := by
  induction input generalizing hashed rest bytes disk with
  | nil => cases hread
  | cons reply input ih =>
      cases reply with
      | failed error => cases hread
      | data chunk =>
          rw [readUntilEmpty] at hread
          rw [ImageStore.copyLoop]
          by_cases hempty : chunk.take copyBufferBytes = []
          · rw [if_pos hempty] at hread ⊢
            cases hread
            rw [List.append_nil] at hsome ⊢
            have hpositive : ¬bytes = 0 := by
              intro hzero
              rw [hzero] at hbytes
              exact hsome (List.eq_nil_of_length_eq_zero hbytes)
            have htotal : UInt64.ofNat hashed.length = bytes := by
              rw [hbytes]
              exact UInt64.ofNat_toNat
            refine ends_ofExcept_bind (rejectIf_eq_ok.mpr hpositive) ?_
            rw [htotal]
            exact ends_of_eq rfl hdraft
          · rw [if_neg hempty] at hread ⊢
            obtain ⟨later, hlater, rfl⟩ := Option.map_eq_some_iff.mp hread
            -- what has been read stays below the limit, so that the sum is exact
            rw [List.length_append] at hlimit
            have hfits : (hashed ++ chunk.take copyBufferBytes).length ≤
                store.maxArtifactBytes.toNat := by
              rw [List.length_append]
              omega
            have hsum := toNat_length hfits
            have hread : (UInt64.ofNat (chunk.take copyBufferBytes).length).toNat =
                (chunk.take copyBufferBytes).length :=
              @toNat_length store _ (by omega)
            have htotal : checkedAdd bytes (UInt64.ofNat (chunk.take copyBufferBytes).length) =
                some (UInt64.ofNat (hashed ++ chunk.take copyBufferBytes).length) := by
              rw [checkedAdd_eq_some, hsum, hread, List.length_append, hbytes]
            have hsmall : ¬store.maxArtifactBytes <
                UInt64.ofNat (hashed ++ chunk.take copyBufferBytes).length := by
              rw [UInt64.lt_iff_toNat_lt, hsum]
              exact Nat.not_lt.mpr hfits
            refine ends_ofExcept_bind (okOr_eq_ok.mpr htotal) ?_
            refine ends_ofExcept_bind (rejectIf_eq_ok.mpr hsmall) ?_
            refine ((ends_writeAll hdraft).mapError _).bind fun _ _ hdraft => ?_
            rw [← List.append_assoc] at hsome ⊢
            refine ih hdraft hsum.symm hlater ?_ hsome
            rw [List.length_append]
            omega

theorem ends_syncReadOnly {operation : String} (hdraft : Disk.Draft inode content mode disk) :
    Ends disk (syncReadOnly inode operation) (.ok ()) (Disk.Draft inode content 0o444) := by
  refine ((ends_sync hdraft).mapError _).bind fun _ _ hdraft => ?_
  refine ((ends_setPermissions hdraft 0o444).mapError _).bind fun _ _ hdraft => ?_
  exact (ends_sync hdraft).mapError _

/-- A blob that is there is verified. -/
theorem publishBlob_of_sound (hinode : inode ∈ disk.temporary)
    (hblob : BlobSound store record disk) :
    store.publishBlob inode record (healthy disk) = (.ok (), healthy disk) := by
  have hverify := hblob.verifyBlob
  obtain ⟨_, ⟨other, _, hfind, -⟩, -⟩ := hblob
  have hlink := hardLink_of_taken hinode hfind
  rw [ImageStore.publishBlob, bind_of_ok (attempt_of_error hlink)]
  exact hverify

/-- What becomes of a record, when there is one of its kind and digest. -/
def compared (existing record : ArtifactRecord) : Except ImageStoreError Unit :=
  rejectIf (existing ≠ record) (corrupt "artifact metadata disagrees with imported bytes")

/-- A record that is there is compared with the new one. -/
theorem ends_publishRecord (hid : existing.id = record.id)
    (hexisting : RecordSound store record.kind (recordName record.id) existing disk) :
    Ends disk (store.publishRecord record) (compared existing record) fun _ => True := by
  refine ends_withTemporary ?_
  refine ((ends_writeAll disk.draft_create).mapError _).bind fun mid huntouched hdraft => ?_
  refine (ends_syncReadOnly hdraft).bind fun synced hsynced hdraft => ?_
  have hgrows := disk.unseen_create.grows.trans
    (huntouched.unseen.grows.trans hsynced.unseen.grows)
  have hread := (hexisting.grows hgrows).readRecord
  rw [hid] at hread
  obtain ⟨_, ⟨other, _, hfind, -⟩, -⟩ := hexisting.grows hgrows
  have hlink := attempt_of_error (δ := ImageStoreError)
    (hardLink_of_taken hdraft.temporary hfind)
  refine ends_of_eq ?_ trivial
  exact (bind_of_ok hlink).trans ((bind_of_ok hread).trans (ofExcept_run _))

/-- An import of what is there leaves the store as it was. -/
theorem ends_importOpened (hread : readUntilEmpty source.content = some content)
    (hlimit : content.length ≤ store.maxArtifactBytes.toNat) (hsome : content ≠ [])
    (hid : existing.id = (store.recordOf kind osImage content).id)
    (hrecord : RecordSound store kind (recordName existing.id) existing disk)
    (hblob : BlobSound store (store.recordOf kind osImage content) disk) :
    Ends disk (store.importOpened kind source expectedId osImage)
      (do
        ImageStore.checkExpected expectedId (store.recordOf kind osImage content).id
        compared existing (store.recordOf kind osImage content)
        return store.recordOf kind osImage content) fun _ => True := by
  refine ends_withTemporary ?_
  have hcopy := @ends_copyLoop store disk.create disk.next 0o600 source.content [] content 0
    disk.draft_create rfl hread (by simpa using hlimit) hsome
  refine hcopy.bind fun copied hcopied hdraft => ?_
  cases hexpected : ImageStore.checkExpected expectedId (store.recordOf kind osImage content).id with
  | error error =>
      refine Ends.bind_error (ends_of_eq ?_ trivial)
      rw [← hexpected]
      exact ofExcept_run _
  | ok _ =>
      refine ends_ofExcept_bind hexpected ?_
      refine (ends_syncReadOnly hdraft).bind fun synced hsynced hdraft => ?_
      have hgrows := disk.unseen_create.grows.trans
        (hcopied.unseen.grows.trans hsynced.unseen.grows)
      have hpublish := publishBlob_of_sound hdraft.temporary (hblob.grows hgrows)
      refine (ends_of_eq hpublish hdraft).bind fun published hpublished _ => ?_
      have hcompare := @ends_publishRecord store _ existing published hid
        ((hid ▸ hrecord.grows hgrows).grows hpublished.unseen.grows)
      cases hcompared : compared existing (store.recordOf kind osImage content) with
      | ok _ =>
          rw [hcompared] at hcompare
          exact hcompare.bind fun _ _ _ => ends_of_eq rfl trivial
      | error error =>
          rw [hcompared] at hcompare
          exact hcompare.bind_error

/-- Nothing else is expected. -/
def Expects (id : ArtifactId) (expectedId : Option ArtifactId) : Prop :=
  ∀ expected ∈ expectedId, expected = id

theorem checkExpected_eq_ok {id : ArtifactId} :
    ImageStore.checkExpected expectedId id = .ok () ↔ Expects id expectedId := by
  rw [ImageStore.checkExpected, rejectSome_eq_ok, Option.filter_eq_none_iff]
  simp [Expects]

/-- The record itself comes back when nothing else is expected. -/
theorem ends_importOpened_same (hread : readUntilEmpty source.content = some content)
    (hlimit : content.length ≤ store.maxArtifactBytes.toNat)
    (hexpected : Expects (store.recordOf kind osImage content).id expectedId)
    (hentry : EntrySound store kind (recordName (store.recordOf kind osImage content).id)
      (store.recordOf kind osImage content) disk) :
    Ends disk (store.importOpened kind source expectedId osImage)
      (.ok (store.recordOf kind osImage content)) fun _ => True := by
  have hsome : content ≠ [] := by
    intro hnil
    obtain ⟨_, -, -, -, hfields⟩ := hentry.metadata
    refine (fields_of_consistent hfields).2.2.2 ?_
    rw [hnil]
    rfl
  have hends := @ends_importOpened kind source expectedId osImage store
    (store.recordOf kind osImage content) disk content hread hlimit hsome rfl hentry.metadata
    hentry.blob
  have hcompared : compared (store.recordOf kind osImage content)
      (store.recordOf kind osImage content) = .ok () := rejectIf_eq_ok.mpr (not_not.mpr rfl)
  rw [checkExpected_eq_ok.mpr hexpected, hcompared] at hends
  exact hends

/-- Another record with the same digest is refused. -/
theorem ends_importOpened_other (existing : ArtifactRecord)
    (hread : readUntilEmpty source.content = some content)
    (hlimit : content.length ≤ store.maxArtifactBytes.toNat) (hsome : content ≠ [])
    (hid : existing.id = (store.recordOf kind osImage content).id)
    (hrecord : RecordSound store kind (recordName existing.id) existing disk)
    (hblob : BlobSound store (store.recordOf kind osImage content) disk)
    (hne : existing ≠ store.recordOf kind osImage content) :
    ∃ error, Ends disk (store.importOpened kind source expectedId osImage) (.error error)
      fun _ => True := by
  have hends := @ends_importOpened kind source expectedId osImage store existing disk content hread
    hlimit hsome hid hrecord hblob
  have hcompared : compared existing (store.recordOf kind osImage content) = .error _ := if_pos hne
  rw [hcompared] at hends
  cases hexpected : ImageStore.checkExpected expectedId (store.recordOf kind osImage content).id with
  | error error =>
      rw [hexpected] at hends
      exact ⟨error, hends⟩
  | ok _ =>
      rw [hexpected] at hends
      exact ⟨_, hends⟩

/-! ### Boot artifacts -/

/-- The source can be opened, and its reads find these bytes. -/
structure Readable (content : List UInt8) (source : Source) : Prop where
  opened : source.opened = none
  regular : ∃ length, source.metadata = .ok (true, length)
  read : readUntilEmpty source.content = some content

/-- The bytes of a record that is there can be imported again. -/
theorem ends_importPath (hsource : Readable content source)
    (hlimit : content.length ≤ store.maxArtifactBytes.toNat)
    (hexpected : Expects (store.recordOf kind none content).id expectedId)
    (hentry : EntrySound store kind (recordName (store.recordOf kind none content).id)
      (store.recordOf kind none content) disk) :
    Ends disk (store.importPath kind source expectedId)
      (.ok (store.recordOf kind none content)) fun _ => True := by
  obtain ⟨length, hmetadata⟩ := hsource.regular
  refine ends_ofExcept_bind (rejectSome_eq_ok.mpr hsource.opened) ?_
  refine ends_ofExcept_bind (mapErr_eq_ok.mpr hmetadata) ?_
  refine ends_ofExcept_bind (rejectIf_eq_ok.mpr (by decide)) ?_
  exact ends_importOpened_same hsource.read hlimit hexpected hentry

/-! ### OS images -/

/-- A source that holds these bytes whenever it is looked at. -/
structure Steady (content : List UInt8) (source : Source) : Prop where
  opened : source.opened = none
  metadata : source.metadata = .ok (true, UInt64.ofNat content.length)
  header : (readExact (min content.length 520) source.header).1 = .ok (content.take 520)
  rewound : source.rewound = none
  read : readUntilEmpty source.content = some content

section OsImages

variable {label : String} {architecture : Option String} {image : OsImageRecord}
  {device : Device StoreDirectory}

theorem Steady.found_eq (h : Steady content source) : source.found = content := by
  rw [Source.found, h.read, Option.getD_some]

theorem Steady.length_eq (h : Steady content source) :
    source.length = UInt64.ofNat content.length := by
  rw [Source.length, h.metadata]

theorem Steady.firstPass_eq (h : Steady content source)
    (hlimit : content.length ≤ store.maxArtifactBytes.toNat) :
    source.firstPass = content.take 520 := by
  rw [Source.firstPass, h.length_eq, toNat_length hlimit, h.header]
  rfl

/-- A steady source whose header is accepted is imported. -/
theorem importOsImage_of_steady (hsource : Steady content source) (hsome : content ≠ [])
    (hlimit : content.length ≤ store.maxArtifactBytes.toNat)
    (hlabel : validateLabel label = .ok ())
    (harchitecture : architecture.mapM validateArchitecture = .ok architecture)
    (hheader : diskImageHeader (content.take 520) (UInt64.ofNat content.length) =
      .ok (image.format, image.virtualBytes)) :
    store.importOsImage source label architecture expectedId device =
      store.importOpened .osImage source expectedId
        (some ⟨label, image.format, image.virtualBytes, architecture⟩) device := by
  have hlength := toNat_length hlimit
  have hpositive : UInt64.ofNat content.length ≠ 0 := by
    intro hzero
    rw [hzero] at hlength
    exact hsome (List.eq_nil_of_length_eq_zero hlength.symm)
  have hread := hsource.header
  rw [← hlength] at hread
  have hinspect : inspectDiskImage source (UInt64.ofNat content.length) device =
      (.ok (image.format, image.virtualBytes), device) :=
    inspectDiskImage_eq_ok.mpr ⟨rfl, hpositive, _, hread, hheader⟩
  refine (ofExcept_bind_of_ok hlabel).trans ?_
  refine (ofExcept_bind_of_ok harchitecture).trans ?_
  refine (ofExcept_bind_of_ok (rejectSome_eq_ok.mpr hsource.opened)).trans ?_
  refine (ofExcept_bind_of_ok (mapErr_eq_ok.mpr hsource.metadata)).trans ?_
  refine (ofExcept_bind_of_ok (rejectIf_eq_ok.mpr (by decide))).trans ?_
  exact (bind_of_ok hinspect).trans
    (ofExcept_bind_of_ok (rejectSome_eq_ok.mpr hsource.rewound))

/-- An image that was imported from a steady source. -/
structure Deployed (store : ImageStore) (content : List UInt8) (label : String)
    (architecture : Option String) (image : OsImageRecord) (disk : Disk StoreDirectory) :
    Prop where
  entry : EntrySound store .osImage (recordName (store.recordOf .osImage (some image) content).id)
    (store.recordOf .osImage (some image) content) disk
  fits : content.length ≤ store.maxArtifactBytes.toNat
  label_eq : image.label = label
  architecture_eq : image.architecture = architecture
  label_ok : validateLabel label = .ok ()
  architecture_ok : architecture.mapM validateArchitecture = .ok architecture
  header : diskImageHeader (content.take 520) (UInt64.ofNat content.length) =
    .ok (image.format, image.virtualBytes)

theorem deployed_of_importOsImage {reached : Device StoreDirectory} {replies : ℕ → DiskReply}
    (hsource : Steady content source)
    (hrun : store.importOsImage source label architecture expectedId ⟨disk, replies⟩ =
      (.ok record, reached)) :
    ∃ image, record = store.recordOf .osImage (some image) content ∧
      Deployed store content label architecture image reached.disk := by
  obtain ⟨image, hlabel, harchitecture, hheader, himport⟩ := inspected_of_importOsImage hrun
  obtain ⟨-, rfl, -, hlimit⟩ := gains_importOpened.of_ok trivial himport
  have hentry := ((moves_importOsImage source label architecture expectedId).of_ok trivial hrun).2
  rw [hsource.found_eq] at hlimit hentry ⊢
  rw [hsource.firstPass_eq hlimit, hsource.length_eq] at hheader
  exact ⟨image, rfl, hentry, hlimit, hlabel.1, harchitecture.1, hlabel.2, harchitecture.2, hheader⟩

section

variable (h : Deployed store content label architecture image disk)

include h

theorem Deployed.ne_nil : content ≠ [] := by
  intro hnil
  have hheader := h.header
  rw [hnil] at hheader
  cases hheader

theorem Deployed.grows {later : Disk StoreDirectory} (hgrows : Disk.Grows disk later) :
    Deployed store content label architecture image later :=
  { h with entry := h.entry.grows hgrows }

/-- The same call again returns the same record. -/
theorem Deployed.again (hsource : Steady content source)
    (hexpected : Expects (store.recordOf .osImage (some image) content).id expectedId) :
    Ends disk (store.importOsImage source label architecture expectedId)
      (.ok (store.recordOf .osImage (some image) content)) fun _ => True := by
  have himage : (⟨label, image.format, image.virtualBytes, architecture⟩ : OsImageRecord) = image := by
    rw [← h.label_eq, ← h.architecture_eq]
  have hends := ends_importOpened_same hsource.read h.fits hexpected h.entry
  obtain ⟨after, hrun, hafter⟩ := hends
  refine ⟨after, ?_, hafter⟩
  rw [importOsImage_of_steady hsource h.ne_nil h.fits h.label_ok h.architecture_ok h.header, himage]
  exact hrun

/-- With another label or architecture it is refused. -/
theorem Deployed.refused {other : String} {target : Option String} (hsource : Steady content source)
    (hdiffers : other ≠ label ∨ target ≠ architecture) :
    ∃ error, Ends disk (store.importOsImage source other target expectedId) (.error error)
      fun _ => True := by
  cases hlabel : validateLabel other with
  | error error =>
      exact ⟨error, ends_of_eq (ofExcept_bind_of_error hlabel) trivial⟩
  | ok _ =>
  cases htarget : target.mapM validateArchitecture with
  | error error =>
      refine ⟨error, ends_of_eq ?_ trivial⟩
      exact (ofExcept_bind_of_ok hlabel).trans (ofExcept_bind_of_error htarget)
  | ok accepted =>
  obtain rfl := eq_of_mapM_eq_ok htarget
  have hne : store.recordOf .osImage (some image) content ≠ store.recordOf .osImage
      (some ⟨other, image.format, image.virtualBytes, accepted⟩) content := by
    intro heq
    have himage := Option.some.inj (congrArg ArtifactRecord.osImage heq)
    obtain hlabels | htargets := hdiffers
    · exact hlabels ((congrArg OsImageRecord.label himage).symm.trans h.label_eq)
    · exact htargets ((congrArg OsImageRecord.architecture himage).symm.trans h.architecture_eq)
  have hends : ∃ error, Ends disk (store.importOpened .osImage source expectedId
      (some ⟨other, image.format, image.virtualBytes, accepted⟩)) (.error error) fun _ => True :=
    ends_importOpened_other (store.recordOf .osImage (some image) content) hsource.read h.fits
      h.ne_nil rfl h.entry.metadata h.entry.blob hne
  obtain ⟨error, after, hrun, hafter⟩ := hends
  refine ⟨error, after, ?_, hafter⟩
  rw [importOsImage_of_steady hsource h.ne_nil h.fits hlabel htarget h.header]
  exact hrun

end

end OsImages

end Again

end Kernmux.Daemon
