import Kernmux.Daemon.ImageStore

/-!
# Kernmux.Daemon.ImageStoreSound

**The image store is consistent after every call, wherever the call stops.**
Every change of the disk is an `Advance`: directories only gain names, what has
a name is never written again, and a new record is sound at the moment it gets
its name. The order of the two links is what makes the last part true: when the
record is linked, its blob is already there and read-only.

What `list` verifies (`EntrySound`) only depends on named files, so an
`Advance` keeps it, and a listing can only change through a new record.
-/

namespace Kernmux.Daemon

open Api.V1 Library Device Faulty Disk

variable {directory : StoreDirectory} {content : List UInt8} {id : ArtifactId} {kind : ArtifactKind}
  {rel : Disk StoreDirectory → Disk StoreDirectory → Prop}

/-! ### Sound entries -/

/-- A regular file that nobody may write, and its content. -/
def ReadOnlyFile (directory : StoreDirectory) (name : OsString) (content : List UInt8)
    (disk : Disk StoreDirectory) : Prop :=
  ∃ inode mode, disk.find directory name = some inode ∧
    disk.nodes inode = .file content mode ∧ mode &&& 0o222 = 0

/-- The record's blob: read-only, with the length and the digest that the record says. -/
def BlobSound (store : ImageStore) (record : ArtifactRecord) (disk : Disk StoreDirectory) : Prop :=
  ∃ content, ReadOnlyFile .blobs (blobName record.id) content disk ∧
    content.length = record.bytes.toNat ∧ ArtifactId.fromDigest (store.sha256 content) = record.id

/-- The metadata file passes the checks of `readRecord`. -/
def RecordSound (store : ImageStore) (kind : ArtifactKind) (name : OsString)
    (record : ArtifactRecord) (disk : Disk StoreDirectory) : Prop :=
  ∃ content, ReadOnlyFile (.records kind) name content disk ∧ content.length ≤ maxRecordBytes ∧
    store.json.decode content = some record ∧ fieldsInconsistent record kind record.id = false

/-- An entry of the catalog that `list` accepts, and its record. -/
structure EntrySound (store : ImageStore) (kind : ArtifactKind) (name : OsString)
    (record : ArtifactRecord) (disk : Disk StoreDirectory) : Prop where
  name_eq : name = recordName record.id
  metadata : RecordSound store kind name record disk
  blob : BlobSound store record disk

section Stable

variable {store : ImageStore} {name : OsString} {record : ArtifactRecord}
  {before after : Disk StoreDirectory}

theorem ReadOnlyFile.grows (h : ReadOnlyFile directory name content before)
    (hgrows : Grows before after) :
    ReadOnlyFile directory name content after := by
  obtain ⟨inode, mode, hfind, hnode, hmode⟩ := h
  obtain ⟨hfound, hsame⟩ := hgrows.find hfind
  exact ⟨inode, mode, hfound, hsame.trans hnode, hmode⟩

theorem ReadOnlyFile.unique {other : List UInt8} (h : ReadOnlyFile directory name content before)
    (hother : ReadOnlyFile directory name other before) : content = other := by
  obtain ⟨inode, mode, hfind, hnode, -⟩ := h
  obtain ⟨_, _, hfound, hfile, -⟩ := hother
  obtain rfl := Option.some.inj (hfind.symm.trans hfound)
  exact (Node.file.inj (hnode.symm.trans hfile)).1

theorem BlobSound.grows (h : BlobSound store record before) (hgrows : Grows before after) :
    BlobSound store record after := by
  obtain ⟨content, hfile, hcontent⟩ := h
  exact ⟨content, hfile.grows hgrows, hcontent⟩

theorem RecordSound.grows (h : RecordSound store kind name record before)
    (hgrows : Grows before after) : RecordSound store kind name record after := by
  obtain ⟨content, hfile, hcontent⟩ := h
  exact ⟨content, hfile.grows hgrows, hcontent⟩

theorem EntrySound.grows (h : EntrySound store kind name record before)
    (hgrows : Grows before after) : EntrySound store kind name record after :=
  ⟨h.name_eq, h.metadata.grows hgrows, h.blob.grows hgrows⟩

end Stable

/-! ### What the checks of the store establish -/

section Looks

variable {store : ImageStore} {name : OsString} {record : ArtifactRecord}
  {disk : Disk StoreDirectory}

theorem of_requireReadOnlyFile_eq_ok {node : Node} {label : String}
    (h : requireReadOnlyFile node label = .ok ()) :
    ∃ content mode, node = .file content mode ∧ mode &&& 0o222 = 0 := by
  unfold requireReadOnlyFile rejectIf at h
  cases node with
  | symlink | directory => cases h
  | file content mode =>
      by_cases hmode : mode &&& 0o222 = 0
      · exact ⟨content, mode, rfl, hmode⟩
      · simp only [ne_eq, hmode, not_false_eq_true, if_true] at h
        cases h

/-- Opening, inspecting and reading a file that turns out to be read-only. -/
theorem readOnlyFile_of_reads {inode : ℕ} {metadata : Node} {label : String} {bytes : List UInt8}
    (hfind : disk.find directory name = some inode) (hmetadata : disk.nodes inode = metadata)
    (hreadOnly : requireReadOnlyFile metadata label = .ok ())
    (hread : ∃ mode, disk.nodes inode = .file bytes mode) :
    ReadOnlyFile directory name bytes disk ∧ metadata.length = bytes.length := by
  obtain ⟨content, mode, rfl, hmode⟩ := of_requireReadOnlyFile_eq_ok hreadOnly
  obtain ⟨other, hother⟩ := hread
  obtain ⟨rfl, rfl⟩ := Node.file.inj (hmetadata.symm.trans hother)
  exact ⟨⟨inode, mode, hfind, hmetadata, hmode⟩, rfl⟩

theorem looks_verifyBlob :
    Looks disk (store.verifyBlob record) fun _ => BlobSound store record disk := by
  refine (looks_openNoFollow.mapError _).bind fun file hfile => ?_
  refine (looks_metadata.mapError _).bind fun metadata hmetadata => ?_
  refine looks_ofExcept.bind fun _ hreadOnly => ?_
  refine looks_ofExcept.bind fun _ hlength => ?_
  refine (looks_readToEnd.mapError _).bind fun content hcontent => ?_
  refine looks_ofExcept.mono fun _ hdigest => ?_
  obtain ⟨hblob, hsame⟩ := readOnlyFile_of_reads hfile hmetadata hreadOnly hcontent
  have hlength := not_ne_iff.mp (rejectIf_eq_ok.mp hlength)
  exact ⟨content, hblob, hsame.symm.trans hlength, not_ne_iff.mp (rejectIf_eq_ok.mp hdigest)⟩

theorem fields_of_consistent (h : fieldsInconsistent record kind id = false) :
    record.schemaVersion = recordSchemaVersion ∧ record.kind = kind ∧ record.id = id ∧
      record.bytes ≠ 0 := by
  simp only [fieldsInconsistent, Bool.or_eq_false_iff, decide_eq_false_iff_not, ne_eq, not_not] at h
  exact ⟨h.1.1.1.1, h.1.1.1.2, h.1.1.2, h.1.2⟩

theorem looks_readRecord : Looks disk (store.readRecord name kind id) fun record =>
      record.id = id ∧ RecordSound store kind name record disk := by
  refine (looks_openNoFollow.mapError _).bind fun file hfile => ?_
  refine (looks_metadata.mapError _).bind fun metadata hmetadata => ?_
  refine looks_ofExcept.bind fun _ hreadOnly => ?_
  refine looks_ofExcept.bind fun _ hlength => ?_
  refine (looks_readToEnd.mapError _).bind fun content hcontent => ?_
  refine looks_ofExcept.bind fun record hdecode => ?_
  refine looks_ofExcept.bind fun _ hfields => looks_pure ?_
  obtain ⟨hfile, hsame⟩ := readOnlyFile_of_reads hfile hmetadata hreadOnly hcontent
  have hlength := Nat.le_of_not_lt (rejectIf_eq_ok.mp hlength)
  have hfields := Bool.eq_false_of_not_eq_true (rejectIf_eq_ok.mp hfields)
  have hid := (fields_of_consistent hfields).2.2.1
  exact ⟨hid, content, hfile, hsame ▸ hlength, okOr_eq_ok.mp hdecode, hid ▸ hfields⟩

/-- Metadata files are named after their identity. -/
theorem eq_recordName_of_parse
    (h : ImageStore.parseRecordName name = .ok id) : name = recordName id := by
  obtain ⟨digest, hdigest, hid⟩ := bind_eq_ok.mp h
  obtain ⟨text, htext, hstrip⟩ := Option.bind_eq_some_iff.mp (okOr_eq_ok.mp hdigest)
  have hvalue := ArtifactId.value_of_parse (mapErr_eq_ok.mp hid)
  have hdigits : id.digest = digest := by
    rw [ArtifactId.digest, ← hvalue, stripPrefix_append, Option.getD_some]
  rw [OsString.eq_ofString_of_toStr htext, eq_append_of_stripSuffix hstrip, recordName, hdigits]

theorem looks_listEntry : Looks disk (store.listEntry kind name) fun record =>
      EntrySound store kind name record disk := by
  refine (looks_look.mapError _).bind fun _ _ => ?_
  refine (looks_look.mapError _).bind fun metadata _ => ?_
  refine looks_ofExcept.bind fun _ _ => ?_
  refine looks_ofExcept.bind fun id hid => ?_
  refine looks_readRecord.bind fun record hrecord => ?_
  refine looks_verifyBlob.bind fun _ hblob => looks_pure ⟨?_, hrecord.2, hblob⟩
  rw [hrecord.1]
  exact eq_recordName_of_parse hid

theorem looks_listEntries (names : List OsString) :
    Looks disk (store.listEntries kind names) fun _ =>
      ∀ name ∈ names, ∃ record, EntrySound store kind name record disk := by
  induction names with
  | nil => exact looks_pure nofun
  | cons name names ih =>
      refine looks_listEntry.bind fun record hrecord => ih.bind fun _ hnames => ?_
      exact looks_pure (List.forall_mem_cons.mpr ⟨⟨record, hrecord⟩, hnames⟩)

theorem looks_listKinds (kinds : List ArtifactKind) : Looks disk (store.listKinds kinds) fun _ =>
      ∀ kind ∈ kinds, ∀ entry ∈ disk.entries (.records kind),
        ∃ record, EntrySound store kind entry.1 record disk := by
  induction kinds with
  | nil => exact looks_pure nofun
  | cons kind kinds ih =>
      refine (looks_look.mapError _).bind fun names hnames => ?_
      refine (looks_listEntries names).bind fun _ hentries => ih.bind fun _ hkinds => ?_
      refine looks_pure (List.forall_mem_cons.mpr ⟨fun entry hentry => ?_, hkinds⟩)
      cases hnames
      exact hentries entry.1 (List.mem_map_of_mem hentry)

end Looks

/-! ### Sound entries are listed -/

section Healthy

variable {store : ImageStore} {name : OsString} {record : ArtifactRecord}
  {disk : Disk StoreDirectory}

open Device (healthy look_healthy)

theorem ofExcept_healthy {ε α : Type} {result : Except ε α} {value : α} (h : result = .ok value) :
    ofExcept result (healthy disk) = (.ok value, healthy disk) := by
  rw [h]
  rfl

theorem rejectIf_healthy {ε : Type} {bad : Prop} [Decidable bad] {error : ε} (h : ¬bad) :
    ofExcept (rejectIf bad error) (healthy disk) = (.ok (), healthy disk) :=
  ofExcept_healthy (rejectIf_eq_ok.mpr h)

/-- A read-only file can be opened, passes its check and can be read. -/
theorem ReadOnlyFile.reads (h : ReadOnlyFile directory name content disk) :
    ∃ inode mode, openNoFollow directory name (healthy disk) = (.ok inode, healthy disk) ∧
      symlinkMetadata directory name (healthy disk) = (.ok (.file content mode), healthy disk) ∧
      metadata inode (healthy disk) = (.ok (.file content mode), healthy disk) ∧
      readToEnd inode (healthy disk) = (.ok content, healthy disk) ∧
      ∀ label, requireReadOnlyFile (.file content mode) label = .ok () := by
  obtain ⟨inode, mode, hfind, hnode, hmode⟩ := h
  have hopen : openNoFollow directory name (healthy disk) = (.ok inode, healthy disk) := by
    refine look_healthy ?_
    simp only [hfind, hnode, reduceCtorEq, if_false]
  have hinspect : symlinkMetadata directory name (healthy disk) =
      (.ok (.file content mode), healthy disk) := by
    refine look_healthy ?_
    simp only [hfind, hnode]
  have hmetadata : metadata inode (healthy disk) = (.ok (.file content mode), healthy disk) := by
    refine look_healthy ?_
    simp only [hnode]
  have hread : readToEnd inode (healthy disk) = (.ok content, healthy disk) := by
    refine look_healthy ?_
    simp only [hnode]
  exact ⟨inode, mode, hopen, hinspect, hmetadata, hread, fun label =>
    rejectIf_eq_ok.mpr (not_not.mpr hmode)⟩

theorem BlobSound.verifyBlob (h : BlobSound store record disk) :
    store.verifyBlob record (healthy disk) = (.ok (), healthy disk) := by
  obtain ⟨content, hfile, hlength, hdigest⟩ := h
  obtain ⟨inode, mode, hopen, -, hmetadata, hread, hreadOnly⟩ := hfile.reads
  have hsize : ¬(Node.file content mode).length ≠ record.bytes.toNat := not_not.mpr hlength
  rw [ImageStore.verifyBlob, bind_of_ok (mapError_of_ok hopen),
    bind_of_ok (mapError_of_ok hmetadata),
    bind_of_ok (ofExcept_healthy (hreadOnly _)), bind_of_ok (rejectIf_healthy hsize),
    bind_of_ok (mapError_of_ok hread)]
  exact rejectIf_healthy (not_not.mpr hdigest)

theorem RecordSound.readRecord (h : RecordSound store kind name record disk) :
    store.readRecord name kind record.id (healthy disk) = (.ok record, healthy disk) := by
  obtain ⟨content, hfile, hlength, hdecode, hfields⟩ := h
  obtain ⟨inode, mode, hopen, -, hmetadata, hread, hreadOnly⟩ := hfile.reads
  have hsize : ¬maxRecordBytes < (Node.file content mode).length := Nat.not_lt.mpr hlength
  rw [ImageStore.readRecord, bind_of_ok (mapError_of_ok hopen),
    bind_of_ok (mapError_of_ok hmetadata),
    bind_of_ok (ofExcept_healthy (hreadOnly _)), bind_of_ok (rejectIf_healthy hsize),
    bind_of_ok (mapError_of_ok hread),
    bind_of_ok (ofExcept_healthy (okOr_eq_ok.mpr hdecode)),
    bind_of_ok (rejectIf_healthy (Bool.eq_false_iff.mp hfields))]
  rfl

theorem parseRecordName_recordName (id : ArtifactId) :
    ImageStore.parseRecordName (recordName id) = .ok id := by
  rw [ImageStore.parseRecordName, recordName, OsString.toStr_ofString, Option.bind_some,
    stripSuffix_append]
  show mapErr _ (ArtifactId.parse ("sha256:" ++ id.digest)) = .ok id
  rw [← id.value_eq_append, ArtifactId.parse_value]
  rfl

theorem EntrySound.listEntry (h : EntrySound store kind name record disk) :
    store.listEntry kind name (healthy disk) = (.ok record, healthy disk) := by
  obtain ⟨inode, mode, -, hinspect, -, -, hreadOnly⟩ := h.metadata.choose_spec.1.reads
  have hsync : sync (healthy disk) = (.ok (), healthy disk) := rfl
  have hname : ImageStore.parseRecordName name = .ok record.id := by
    rw [h.name_eq, parseRecordName_recordName]
  rw [ImageStore.listEntry, bind_of_ok (mapError_of_ok hsync), bind_of_ok (mapError_of_ok hinspect),
    bind_of_ok (ofExcept_healthy (hreadOnly _)),
    bind_of_ok (ofExcept_healthy hname), bind_of_ok h.metadata.readRecord,
    bind_of_ok h.blob.verifyBlob]
  rfl

theorem listEntries_healthy {records : OsString → ArtifactRecord} {names : List OsString}
    (h : ∀ name ∈ names, EntrySound store kind name (records name) disk) :
    store.listEntries kind names (healthy disk) = (.ok (names.map records), healthy disk) := by
  induction names with
  | nil => rfl
  | cons name names ih =>
      obtain ⟨hname, hnames⟩ := List.forall_mem_cons.mp h
      rw [ImageStore.listEntries, bind_of_ok hname.listEntry, bind_of_ok (ih hnames)]
      rfl

/-- The records of the catalog, in the order of its directories. -/
def catalogRecords (records : ArtifactKind → OsString → ArtifactRecord)
    (entries : StoreDirectory → List (OsString × ℕ)) (kinds : List ArtifactKind) :
    List ArtifactRecord :=
  kinds.flatMap fun kind => ((entries (.records kind)).map Prod.fst).map (records kind)

theorem listKinds_healthy {records : ArtifactKind → OsString → ArtifactRecord}
    (h : ∀ kind, ∀ entry ∈ disk.entries (.records kind),
      EntrySound store kind entry.1 (records kind entry.1) disk) (kinds : List ArtifactKind) :
    store.listKinds kinds (healthy disk) =
      (.ok (catalogRecords records disk.entries kinds), healthy disk) := by
  induction kinds with
  | nil => rfl
  | cons kind kinds ih =>
      have hnames : readDirectory (.records kind) (healthy disk) =
          (.ok ((disk.entries (.records kind)).map Prod.fst), healthy disk) := rfl
      have hentries : ∀ name ∈ (disk.entries (.records kind)).map Prod.fst,
          EntrySound store kind name (records kind name) disk := by
        intro name hname
        obtain ⟨entry, hentry, rfl⟩ := List.mem_map.mp hname
        exact h kind entry hentry
      rw [ImageStore.listKinds, bind_of_ok (mapError_of_ok hnames),
        bind_of_ok (listEntries_healthy hentries), bind_of_ok ih]
      rfl

end Healthy

/-! ### Advances -/

/-- What every step of an import does to the disk: new records are sound. -/
structure Advance (store : ImageStore) (before after : Disk StoreDirectory) : Prop where
  grows : Grows before after
  added : ∀ kind, ∀ entry ∈ after.entries (.records kind),
    entry ∈ before.entries (.records kind) ∨ ∃ record, EntrySound store kind entry.1 record after

section Advance

variable {store : ImageStore} {record : ArtifactRecord} {before mid after : Disk StoreDirectory}
  {inode : ℕ} {mode : UInt32}

theorem Advance.refl (disk : Disk StoreDirectory) : Advance store disk disk :=
  ⟨.refl disk, fun _ _ hentry => .inl hentry⟩

theorem Advance.trans (hfirst : Advance store before mid) (hsecond : Advance store mid after) :
    Advance store before after := by
  refine ⟨hfirst.grows.trans hsecond.grows, fun kind entry hentry => ?_⟩
  rcases hsecond.added kind entry hentry with hmid | hsound
  · rcases hfirst.added kind entry hmid with hbefore | ⟨record, hsound⟩
    · exact .inl hbefore
    · exact .inr ⟨record, hsound.grows hsecond.grows⟩
  · exact .inr hsound

theorem advance_of_unseen (h : Unseen before after) : Advance store before after :=
  ⟨h.grows, fun _ _ hentry => .inl (h.entries ▸ hentry)⟩

instance : Std.Refl (Advance store) := ⟨Advance.refl⟩

instance : IsTrans (Disk StoreDirectory) (Advance store) := ⟨fun _ _ _ => Advance.trans⟩

theorem onDisk_advance (before after : Device StoreDirectory)
    (h : OnDisk Unseen before after) : OnDisk (Advance store) before after :=
  advance_of_unseen h

/-- A new blob is no new record. -/
theorem advance_link_blob (hinode : inode ∈ before.temporary) (name : OsString) :
    Advance store before (before.link inode hinode .blobs name) := by
  refine ⟨grows_link hinode .blobs name, fun kind entry hentry => ?_⟩
  rcases mem_link hentry with hbefore | ⟨hdirectory, -⟩
  · exact .inl hbefore
  · cases hdirectory

theorem advance_link_record {name : OsString} (hinode : inode ∈ before.temporary)
    (hsound : EntrySound store kind name record (before.link inode hinode (.records kind) name)) :
    Advance store before (before.link inode hinode (.records kind) name) := by
  refine ⟨grows_link hinode _ name, fun other entry hentry => ?_⟩
  rcases mem_link hentry with hbefore | ⟨hdirectory, rfl⟩
  · exact .inl hbefore
  · obtain rfl := StoreDirectory.records.inj hdirectory
    exact .inr ⟨record, hsound⟩

/-! ### Imports -/

/-- The copied bytes have the digest and the length that were computed on the way. -/
def Copied (store : ImageStore) (content : List UInt8) (result : ArtifactId × UInt64) : Prop :=
  ArtifactId.fromDigest (store.sha256 content) = result.1 ∧ content.length = result.2.toNat ∧
    result.2 ≠ 0

/-- What reads find until they find nothing; no bytes at all when a read fails or is the last. -/
def readUntilEmpty : List ReadReply → Option (List UInt8)
  | [] | .failed _ :: _ => none
  | .data chunk :: input =>
      let buffer := chunk.take copyBufferBytes
      if buffer = [] then some [] else (readUntilEmpty input).map (buffer ++ ·)

/-- Along the loop the temporary file holds exactly what has been hashed, and in the end it
holds all that was found. -/
theorem moves_copyLoop (input : List ReadReply) (hashed : List UInt8) (bytes : UInt64)
    (h : hashed.length = bytes.toNat) (hlimit : bytes ≤ store.maxArtifactBytes) :
    Moves Unseen (Draft inode hashed mode) (store.copyLoop inode input hashed bytes)
      fun result disk => ∃ content, Draft inode content mode disk ∧
        Copied store content result ∧ result.2 ≤ store.maxArtifactBytes ∧
        (readUntilEmpty input).map (hashed ++ ·) = some content := by
  induction input generalizing hashed bytes with
  | nil => exact Steps.stop
  | cons reply input ih =>
      cases reply with
      | failed error => exact Steps.fail _
      | data chunk =>
          rw [ImageStore.copyLoop]
          by_cases hempty : chunk.take copyBufferBytes = []
          · rw [if_pos hempty]
            refine Steps.ofExcept_bind fun _ hbytes => ?_
            refine Steps.pure fun device hdraft => ⟨hashed, hdraft, ⟨rfl, h, ?_⟩, hlimit, ?_⟩
            · exact rejectIf_eq_ok.mp hbytes
            · simp [readUntilEmpty, hempty]
          · rw [if_neg hempty]
            refine Steps.ofExcept_bind fun total htotal => ?_
            refine Steps.ofExcept_bind fun _ hsmall => ?_
            have hfound : (readUntilEmpty (.data chunk :: input)).map (hashed ++ ·) =
                (readUntilEmpty input).map (hashed ++ chunk.take copyBufferBytes ++ ·) := by
              rw [readUntilEmpty, if_neg hempty, Option.map_map]
              simp only [Function.comp_def, List.append_assoc]
            rw [hfound]
            have htotalLimit := UInt64.not_lt.mp (rejectIf_eq_ok.mp hsmall)
            refine (moves_writeAll.mapError _).bind fun _ => ih _ _ ?_ htotalLimit
            have hbuffer : (chunk.take copyBufferBytes).length ≤ copyBufferBytes :=
              List.length_take_le _ _
            have hsum := checkedAdd_eq_some.mp (okOr_eq_ok.mp htotal)
            have hread : (UInt64.ofNat (chunk.take copyBufferBytes).length).toNat =
                (chunk.take copyBufferBytes).length :=
              UInt64.toNat_ofNat_of_lt' (Nat.lt_of_le_of_lt hbuffer (by decide))
            rw [List.length_append, h, hsum, hread]

theorem moves_syncReadOnly (operation : String) :
    Moves Unseen (Draft inode content mode) (syncReadOnly inode operation)
      fun _ => Draft inode content 0o444 := by
  refine (moves_sync.mapError _).bind fun _ => ?_
  exact ((moves_setPermissions 0o444).mapError _).bind fun _ => moves_sync.mapError _

/-- Publication by a link: where the name is taken, what stands there is looked at instead. -/
theorem moves_linkOrLook [Std.Refl rel] [IsTrans (Disk StoreDirectory) rel]
    {pre kept post : Disk StoreDirectory → Prop}
    {link : Faulty (Device StoreDirectory) IoError Unit} {next : Except IoError Unit → StoreM Unit}
    {synced failed : IoError → ImageStoreError} {look : StoreM Unit}
    (hlinked : next (.ok ()) = sync.mapError synced)
    (hfailed : ∀ source, next (.error source) =
      if source.kind = .alreadyExists then look else fail (failed source))
    (hpre : ∀ disk, pre disk → kept disk)
    (hkept : ∀ before after, rel before after → kept before → kept after)
    (hlink : Moves rel pre link fun _ => post)
    (hlook : Moves rel kept look fun _ => post) :
    Moves rel pre (link.attempt >>= next) fun _ => post := by
  have hattempt : Moves rel (fun disk => pre disk ∧ kept disk)
      (link.attempt : StoreM (Except IoError Unit))
      fun outcome disk => (∀ value, outcome = .ok value → post disk) ∧ kept disk :=
    hlink.attempt.frame fun before after => hkept before.disk after.disk
  refine (hattempt.mono (fun _ h => ⟨h, hpre _ h⟩) fun _ _ h => h).bind fun outcome => ?_
  cases outcome with
  | ok _ =>
      rw [hlinked]
      exact (moves_sync.mapError _).mono (fun _ h => h.1 () rfl) fun _ _ h => h
  | error source =>
      rw [hfailed]
      by_cases hexists : source.kind = .alreadyExists
      · rw [if_pos hexists]
        exact hlook.mono (fun _ h => h.2) fun _ _ h => h
      · rw [if_neg hexists]
        exact Steps.fail _

theorem moves_verifyBlob [Std.Refl rel] :
    Moves rel (fun _ => True) (store.verifyBlob record) fun _ => BlobSound store record := by
  have hverify : Moves rel (fun _ => True) (store.verifyBlob record)
      fun _ disk => True ∧ BlobSound store record disk :=
    Looks.moves fun _ => looks_verifyBlob
  exact hverify.mono (fun _ h => h) fun _ _ h => h.2

/-- A record that is there already is compared with the new one. -/
theorem moves_compareRecord [Std.Refl rel] [IsTrans (Disk StoreDirectory) rel]
    (kept : Disk StoreDirectory → Prop) {error : ImageStoreError} :
    Moves rel kept
      (store.readRecord (recordName record.id) record.kind record.id >>= fun existing =>
        ofExcept (rejectIf (existing ≠ record) error))
      fun _ disk => kept disk ∧ RecordSound store record.kind (recordName record.id) record disk := by
  have hread : Moves rel kept
      (store.readRecord (recordName record.id) record.kind record.id)
      fun existing disk => kept disk ∧ (existing.id = record.id ∧
        RecordSound store record.kind (recordName record.id) existing disk) :=
    Looks.moves fun _ => looks_readRecord
  refine hread.bind fun existing => Steps.ofExcept fun _ device hsame h => ?_
  obtain rfl : existing = record := not_ne_iff.mp (rejectIf_eq_ok.mp hsame)
  exact ⟨h.1, h.2.2⟩

/-- Afterwards the blob is there, whether it is new or was there before. -/
theorem moves_publishBlob (hdigest : ArtifactId.fromDigest (store.sha256 content) = record.id)
    (hlength : content.length = record.bytes.toNat) :
    Moves (Advance store) (Draft inode content 0o444) (store.publishBlob inode record)
      fun _ => BlobSound store record := by
  refine moves_linkOrLook rfl (fun _ => rfl) (fun _ _ => trivial) (fun _ _ _ _ => trivial) ?_
    moves_verifyBlob
  refine moves_hardLink fun disk hinode hdraft hfree => ?_
  refine ⟨advance_link_blob hinode _, content, ⟨inode, 0o444, ?_, hdraft.node, by decide⟩,
    hlength, hdigest⟩
  exact find_link hinode hfree

theorem moves_publishRecord (hfields : fieldsInconsistent record record.kind record.id = false) :
    Moves (Advance store) (BlobSound store record) (store.publishRecord record)
      fun _ => EntrySound store record.kind (recordName record.id) record := by
  refine moves_withTemporary (fun _ _ => advance_of_unseen)
    (fun _ _ hstep h => h.grows hstep.grows) (fun _ _ _ hstep h => h.grows hstep.grows)
    fun temporary => ?_
  -- the blob stays sound while the metadata is written
  have hkept : ∀ before after : Device StoreDirectory,
      OnDisk (Advance store) before after → BlobSound store record before.disk →
        BlobSound store record after.disk := fun _ _ hstep h => h.grows hstep.grows
  refine (((moves_writeAll.weaken onDisk_advance).mapError _).frame hkept).bind fun _ => ?_
  refine (((moves_syncReadOnly _).weaken onDisk_advance).frame hkept).bind fun _ => ?_
  have hcompare : Moves (Advance store) (BlobSound store record)
      (store.readRecord (recordName record.id) record.kind record.id >>= fun existing =>
        ofExcept (rejectIf (existing ≠ record)
          (corrupt "artifact metadata disagrees with imported bytes")))
      fun _ => EntrySound store record.kind (recordName record.id) record :=
    (moves_compareRecord (BlobSound store record)).mono (fun _ h => h) fun _ _ h => ⟨rfl, h.2, h.1⟩
  have hlink : Moves (Advance store)
      (fun disk => Draft temporary ([] ++ store.json.encode record) 0o444 disk ∧
        BlobSound store record disk)
      (hardLink temporary (.records record.kind) (recordName record.id))
      fun _ => EntrySound store record.kind (recordName record.id) record := by
    refine moves_hardLink fun disk hinode hdraft hfree => ?_
    have hsound : EntrySound store record.kind (recordName record.id) record
        (disk.link temporary hinode (.records record.kind) (recordName record.id)) := by
      refine ⟨rfl, ⟨store.json.encode record, ⟨temporary, 0o444, ?_, hdraft.1.node, by decide⟩, ?_,
        ?_, hfields⟩, hdraft.2.grows (grows_link hinode _ _)⟩
      · exact find_link hinode hfree
      · exact store.json.length_encode_le hfields
      · exact store.json.decode_encode record
    exact ⟨advance_link_record hinode hsound, hsound⟩
  exact moves_linkOrLook rfl (fun _ => rfl) (fun _ h => h.2)
    (fun _ _ hstep h => BlobSound.grows h hstep.grows) hlink hcompare

/-- An import that returns has a sound entry; and all of its steps are advances. -/
theorem moves_importOpened {source : Source} {expectedId : Option ArtifactId}
    {osImage : Option OsImageRecord} (hfields : ∀ id bytes, bytes ≠ 0 →
      fieldsInconsistent ⟨recordSchemaVersion, kind, id, bytes, osImage⟩ kind id = false) :
    Moves (Advance store) (fun _ => True)
      (store.importOpened kind source expectedId osImage)
      fun record => EntrySound store record.kind (recordName record.id) record := by
  refine moves_withTemporary (fun _ _ => advance_of_unseen) (fun _ _ _ _ => trivial)
    (fun _ _ _ hstep h => h.grows hstep.grows) fun temporary => ?_
  have hcopy : Moves (Advance store) (Draft temporary [] 0o600)
      (store.copyAndHash source temporary) fun result disk =>
        ∃ content, Draft temporary content 0o600 disk ∧ Copied store content result := by
    refine ((moves_copyLoop source.content [] 0 rfl UInt64.zero_le).weaken onDisk_advance).mono
      (fun _ => id) ?_
    intro result device h
    obtain ⟨content, hdraft, hcopied, -⟩ := h
    exact ⟨content, hdraft, hcopied⟩
  refine (hcopy.mono (fun _ h => h.1) fun _ _ h => h).bind fun result => ?_
  obtain ⟨id, bytes⟩ := result
  refine Steps.of_exists fun content => Steps.of_and fun hcopied => ?_
  obtain ⟨hdigest, hlength, hbytes⟩ := hcopied
  refine Steps.ofExcept_bind fun _ _ => ?_
  refine ((moves_syncReadOnly _).weaken onDisk_advance).bind fun _ => ?_
  refine (moves_publishBlob hdigest hlength).bind fun _ => ?_
  refine (moves_publishRecord (hfields id bytes hbytes)).bind fun _ => ?_
  exact Steps.pure fun _ h => h

/-- The metadata of a boot artifact passes its check. -/
theorem consistent_boot (hkind : kind ≠ .osImage) (id : ArtifactId) (bytes : UInt64)
    (hbytes : bytes ≠ 0) :
    fieldsInconsistent ⟨recordSchemaVersion, kind, id, bytes, none⟩ kind id = false := by
  cases kind with
  | osImage => exact absurd rfl hkind
  | kernel | initrd => simp [fieldsInconsistent, hbytes]

/-- The metadata of an OS image that was validated and inspected passes its check. -/
theorem consistent_osImage {image : OsImageRecord} (hlabel : validLabel image.label = true)
    (hformat : image.format ≠ .unknown) (hvirtual : image.virtualBytes ≠ 0)
    (harchitecture : ∀ value ∈ image.architecture, validArchitecture value = true)
    (id : ArtifactId) (bytes : UInt64) (hbytes : bytes ≠ 0) :
    fieldsInconsistent ⟨recordSchemaVersion, .osImage, id, bytes, some image⟩ .osImage id =
      false := by
  have hany : (image.architecture.any fun value => !validArchitecture value) = false := by
    cases hvalue : image.architecture with
    | none => rfl
    | some value => simp [harchitecture value hvalue]
  simp [fieldsInconsistent, hbytes, hlabel, hformat, hvirtual, hany]

theorem moves_importPath (hkind : kind ≠ .osImage) (source : Source)
    (expectedId : Option ArtifactId) :
    Moves (Advance store) (fun _ => True) (store.importPath kind source expectedId)
      fun record => EntrySound store record.kind (recordName record.id) record := by
  refine Steps.ofExcept_bind fun _ _ => ?_
  refine Steps.ofExcept_bind fun metadata _ => ?_
  refine Steps.ofExcept_bind fun _ _ => ?_
  exact moves_importOpened (consistent_boot hkind)

/-- An accepted header names a known format and a positive size. -/
theorem of_diskImageHeader_eq_ok {header : List UInt8} {storedBytes : UInt64}
    {result : OsImageFormat × UInt64} (hstored : storedBytes ≠ 0)
    (h : diskImageHeader header storedBytes = .ok result) :
    result.1 ≠ .unknown ∧ result.2 ≠ 0 := by
  unfold diskImageHeader at h
  split at h
  · dsimp only at h
    split at h
    · cases h
      exact ⟨nofun, hstored⟩
    · cases h
  · obtain ⟨-, h⟩ := guard_eq_ok.mp h
    obtain ⟨-, h⟩ := guard_eq_ok.mp h
    obtain ⟨-, h⟩ := guard_eq_ok.mp h
    obtain ⟨hvirtual, h⟩ := guard_eq_ok.mp h
    obtain rfl := pure_eq_ok.mp h
    exact ⟨nofun, rejectIf_eq_ok.mp hvirtual⟩

theorem looks_inspectDiskImage {source : Source} {storedBytes : UInt64}
    {disk : Disk StoreDirectory} :
    Looks disk (inspectDiskImage source storedBytes) fun result =>
      result.1 ≠ .unknown ∧ result.2 ≠ 0 := by
  unfold inspectDiskImage
  by_cases hstored : storedBytes = 0
  · rw [if_pos hstored]
    exact looks_fail _
  · rw [if_neg hstored]
    split
    · exact looks_ofExcept.mono fun result hresult => of_diskImageHeader_eq_ok hstored hresult
    · exact looks_fail _
    · exact Steps.stop

theorem valid_of_mapM_eq_ok {architecture accepted : Option String}
    (h : architecture.mapM validateArchitecture = .ok accepted) :
    ∀ value ∈ accepted, validArchitecture value = true := by
  cases architecture with
  | none =>
      cases h
      exact nofun
  | some given =>
      have haccepted : (some given).mapM validateArchitecture =
        some <$> validateArchitecture given := rfl
      by_cases hvalid : validArchitecture given = true
      · rw [haccepted, validateArchitecture, if_pos hvalid] at h
        cases h
        intro value hvalue
        exact Option.some.inj hvalue ▸ hvalid
      · rw [haccepted, validateArchitecture, if_neg hvalid] at h
        cases h

theorem moves_importOsImage (source : Source) (label : String) (architecture : Option String)
    (expectedId : Option ArtifactId) :
    Moves (Advance store) (fun _ => True)
      (store.importOsImage source label architecture expectedId)
      fun record => EntrySound store record.kind (recordName record.id) record := by
  refine Steps.ofExcept_bind fun _ hlabel => ?_
  refine Steps.ofExcept_bind fun architecture harchitecture => ?_
  refine Steps.ofExcept_bind fun _ _ => ?_
  refine Steps.ofExcept_bind fun metadata _ => ?_
  refine Steps.ofExcept_bind fun _ _ => ?_
  have hinspect : Moves (Advance store) (fun _ => True)
      (inspectDiskImage source metadata.2) fun result _ =>
        True ∧ (result.1 ≠ .unknown ∧ result.2 ≠ 0) :=
    Looks.moves fun _ => looks_inspectDiskImage
  refine hinspect.bind fun result => Steps.of_and fun hresult => ?_
  refine Steps.ofExcept_bind fun _ _ => ?_
  refine moves_importOpened (consistent_osImage ?_ hresult.1 hresult.2 ?_)
  · exact Bool.eq_true_of_not_eq_false (rejectIf_eq_ok.mp hlabel)
  · exact valid_of_mapM_eq_ok harchitecture

end Advance

/-! ### Whole sequences of imports -/

/-- A call and what becomes of its filesystem steps: it may fail or stop after any of them. -/
structure ImportAttempt where
  call : ImportCall
  replies : ℕ → DiskReply

namespace ImageStore

variable (store : ImageStore)

/-- The disk that an attempt leaves behind. -/
def after (disk : Disk StoreDirectory) (attempt : ImportAttempt) : Disk StoreDirectory :=
  (attempt.call.run store ⟨disk, attempt.replies⟩).2.disk

/-- What `list` finds on a disk on which it can read. -/
def listing (disk : Disk StoreDirectory) : Ended ImageStoreError (List ArtifactRecord) :=
  (store.list (healthy disk)).1

end ImageStore

section Runs

variable {store : ImageStore} {disk before after : Disk StoreDirectory}

/-- Every entry of the catalog is sound. -/
def Sound (store : ImageStore) (disk : Disk StoreDirectory) : Prop :=
  ∀ kind, ∀ entry ∈ disk.entries (.records kind),
    ∃ record, EntrySound store kind entry.1 record disk

theorem sound_of_listing {records : List ArtifactRecord}
    (h : store.listing disk = .ok records) : Sound store disk := by
  have hlist : Looks disk store.list fun _ => Sound store disk := by
    refine (looks_listKinds _).bind fun _ hkinds => looks_pure fun kind => ?_
    exact hkinds kind (by cases kind <;> decide)
  exact ((hlist (healthy disk) rfl).2 records h).2

theorem listing_of_records {records : ArtifactKind → OsString → ArtifactRecord}
    (h : ∀ kind, ∀ entry ∈ disk.entries (.records kind),
      EntrySound store kind entry.1 (records kind entry.1) disk) :
    store.listing disk = .ok (ImageStore.sortRecords
      (catalogRecords records disk.entries [.kernel, .initrd, .osImage])) := by
  rw [ImageStore.listing, ImageStore.list, bind_of_ok (listKinds_healthy h _)]
  rfl

/-- One record for every name of a sound catalog. -/
theorem Sound.records (h : Sound store disk) : ∃ records : ArtifactKind → OsString → ArtifactRecord,
      ∀ kind, ∀ entry ∈ disk.entries (.records kind),
        EntrySound store kind entry.1 (records kind entry.1) disk := by
  classical
  have hnames : ∀ kind name, ∃ record, (∃ entry ∈ disk.entries (.records kind), entry.1 = name) →
      EntrySound store kind name record disk := by
    intro kind name
    by_cases hname : ∃ entry ∈ disk.entries (.records kind), entry.1 = name
    · obtain ⟨entry, hentry, rfl⟩ := hname
      obtain ⟨record, hrecord⟩ := h kind entry hentry
      exact ⟨record, fun _ => hrecord⟩
    · exact ⟨⟨0, kind, ArtifactId.fromDigest (store.sha256 []), 0, none⟩, fun hsome =>
        absurd hsome hname⟩
  choose records hrecords using hnames
  exact ⟨records, fun kind entry hentry => hrecords kind entry.1 ⟨entry, hentry, rfl⟩⟩

theorem Advance.sound (h : Advance store before after) (hsound : Sound store before) :
    Sound store after := by
  intro kind entry hentry
  rcases h.added kind entry hentry with hold | hnew
  · obtain ⟨record, hrecord⟩ := hsound kind entry hold
    exact ⟨record, hrecord.grows h.grows⟩
  · exact hnew

/-- Without a new record the listing stays the same: old entries keep their records. -/
theorem Advance.listing_eq (h : Advance store before after) (hsound : Sound store before)
    (hrecords : ∀ kind, after.entries (.records kind) = before.entries (.records kind)) :
    store.listing after = store.listing before := by
  obtain ⟨records, hbefore⟩ := hsound.records
  have hafter : ∀ kind, ∀ entry ∈ after.entries (.records kind),
      EntrySound store kind entry.1 (records kind entry.1) after := by
    intro kind entry hentry
    rw [hrecords kind] at hentry
    exact (hbefore kind entry hentry).grows h.grows
  rw [listing_of_records hbefore, listing_of_records hafter]
  simp only [catalogRecords, hrecords]

theorem advance_attempt (attempt : ImportAttempt) (disk : Disk StoreDirectory) :
    Advance store disk (store.after disk attempt) := by
  obtain ⟨call, replies⟩ := attempt
  cases call with
  | path kind boot source expectedId =>
      exact (moves_importPath boot source expectedId ⟨disk, replies⟩ trivial).1
  | osImage source label architecture expectedId =>
      exact (moves_importOsImage source label architecture expectedId ⟨disk, replies⟩ trivial).1

theorem advance_attempts (attempts : List ImportAttempt) (disk : Disk StoreDirectory) :
    Advance store disk (attempts.foldl store.after disk) := by
  induction attempts generalizing disk with
  | nil => exact .refl disk
  | cons attempt attempts ih =>
      exact (advance_attempt attempt disk).trans (ih (store.after disk attempt))

/-- What an observer can rely on between two moments of the store's life. -/
structure CrashConsistent (store : ImageStore) (before after : Disk StoreDirectory) : Prop where
  listed : ∃ records, store.listing after = .ok records
  sound : ∀ kind, ∀ entry ∈ after.entries (.records kind),
    ∃ record, EntrySound store kind entry.1 record after
  kept : ∀ directory, ∀ entry ∈ before.entries directory,
    entry ∈ after.entries directory ∧ after.nodes entry.2 = before.nodes entry.2
  unchanged : (∀ kind, after.entries (.records kind) = before.entries (.records kind)) →
    store.listing after = store.listing before

/-- **Imports are crash-consistent.** From a store that can be listed, after any attempts, each
of which may have failed or stopped at any step, the store can be listed, its records are sound,
and nothing that was there has changed; and attempts that link no record leave the listing as
it was. -/
theorem crashConsistent_of_attempts {records : List ArtifactRecord}
    (hlisted : store.listing disk = .ok records) (earlier later : List ImportAttempt) :
    CrashConsistent store (earlier.foldl store.after disk)
      ((earlier ++ later).foldl store.after disk) := by
  have hbefore : Sound store (earlier.foldl store.after disk) :=
    (advance_attempts earlier disk).sound (sound_of_listing hlisted)
  rw [List.foldl_append]
  have hadvance : Advance store (earlier.foldl store.after disk)
      (later.foldl store.after (earlier.foldl store.after disk)) := advance_attempts later _
  have hafter := hadvance.sound hbefore
  obtain ⟨found, hfound⟩ := hafter.records
  exact ⟨⟨_, listing_of_records hfound⟩, hafter,
    fun directory entry hentry => ⟨hadvance.grows.mem hentry, hadvance.grows.nodes directory entry
      hentry⟩,
    hadvance.listing_eq hbefore⟩

/-- A kernel of one byte, imported into an empty store. -/
theorem crashConsistent_of_attempts_kernel :
    let attempt : ImportAttempt :=
      ⟨.path .kernel nofun ⟨none, .ok (true, 1), [], none, [.data [7], .data []]⟩ none,
        fun _ => .done⟩
    (plainStore.after .empty attempt).entries (.records .kernel) ≠ [] ∧
      CrashConsistent plainStore .empty (plainStore.after .empty attempt) := by
  intro attempt
  have hlisted : plainStore.listing .empty = .ok [] := rfl
  exact ⟨by decide, crashConsistent_of_attempts hlisted [] [attempt]⟩

end Runs

end Kernmux.Daemon
