import Kernmux.Daemon.ImageStoreSound
import Kernmux.Library.Publication

/-!
# Kernmux.Daemon.ImportEffects

**What an import adds.** The record of an import is determined by what its reads
found, and so are the two files it publishes. An import adds them where they are
missing, and changes nothing else: this holds of every end, and what it returns
is that record (`gains_importOpened`).
-/

namespace Kernmux.Daemon

open Api.V1 Library Device

/-- The record of these bytes. -/
def ImageStore.recordOf (store : ImageStore) (kind : ArtifactKind) (osImage : Option OsImageRecord)
    (content : List UInt8) : ArtifactRecord :=
  ⟨recordSchemaVersion, kind, ArtifactId.fromDigest (store.sha256 content),
    UInt64.ofNat content.length, osImage⟩

/-- The files that are published for a record, by their directories. -/
def ImageStore.published (store : ImageStore) (record : ArtifactRecord) (content : List UInt8) :
    StoreDirectory → Option (OsString × List UInt8)
  | .blobs => some (blobName record.id, content)
  | .records kind =>
      if kind = record.kind then some (recordName record.id, store.json.encode record) else none

section Effects

variable {store : ImageStore} {record : ArtifactRecord} {content : List UInt8} {inode : ℕ}
  {new : StoreDirectory → Option (OsString × List UInt8)}

theorem onDisk_gains (before after : Device StoreDirectory)
    (h : OnDisk Disk.Unseen before after) : OnDisk (Disk.Gains new) before after :=
  .of_unseen h

theorem gains_publishBlob (hnew : new .blobs = some (blobName record.id, content)) :
    Moves (Disk.Gains new) (Disk.Draft inode content 0o444)
      (store.publishBlob inode record) fun _ _ => True := by
  refine moves_linkOrLook rfl (fun _ => rfl) (fun _ _ => trivial) (fun _ _ _ _ => trivial) ?_
    (moves_verifyBlob.mono (fun _ h => h) fun _ _ _ => trivial)
  exact moves_hardLink fun _ _ hdraft hfree =>
    ⟨Disk.gains_link hnew hdraft hfree, trivial⟩

theorem gains_publishRecord
    (hnew : new (.records record.kind) = some (recordName record.id, store.json.encode record)) :
    Moves (Disk.Gains new) (fun _ => True) (store.publishRecord record)
      fun _ _ => True := by
  refine moves_withTemporary (fun _ _ => .of_unseen) (fun _ _ _ _ => trivial)
    (fun _ _ _ _ _ => trivial) fun temporary => ?_
  refine Faulty.Steps.bind (((moves_writeAll.weaken onDisk_gains).mapError _).mono
    (fun _ h => h.1) fun _ _ h => h) fun _ => ?_
  refine ((moves_syncReadOnly _).weaken onDisk_gains).bind fun _ => ?_
  have hlink : Moves (Disk.Gains new)
      (Disk.Draft temporary ([] ++ store.json.encode record) 0o444)
      (hardLink temporary (.records record.kind) (recordName record.id)) fun _ _ => True :=
    moves_hardLink fun _ _ hdraft hfree => ⟨Disk.gains_link hnew hdraft hfree, trivial⟩
  have hcompare : Moves (Disk.Gains new) (fun _ => True)
      (store.readRecord (recordName record.id) record.kind record.id >>= fun existing =>
        Faulty.ofExcept (rejectIf (existing ≠ record)
          (corrupt "artifact metadata disagrees with imported bytes"))) fun _ _ => True :=
    (moves_compareRecord fun _ => True).mono (fun _ h => h) fun _ _ _ => trivial
  exact moves_linkOrLook rfl (fun _ => rfl) (fun _ _ => trivial) (fun _ _ _ _ => trivial) hlink
    hcompare

/-- What the second pass over a source finds. -/
def Source.found (source : Source) : List UInt8 := (readUntilEmpty source.content).getD []

/-- An import adds the two files of its record where they are missing, and returns the record. -/
theorem gains_importOpened {kind : ArtifactKind} {source : Source}
    {expectedId : Option ArtifactId} {osImage : Option OsImageRecord} :
    Moves
      (Disk.Gains (store.published (store.recordOf kind osImage source.found) source.found))
      (fun _ => True) (store.importOpened kind source expectedId osImage)
      fun record _ => record = store.recordOf kind osImage source.found ∧
        readUntilEmpty source.content = some source.found ∧
        source.found.length ≤ store.maxArtifactBytes.toNat := by
  refine moves_withTemporary (fun _ _ => .of_unseen) (fun _ _ _ _ => trivial)
    (fun _ _ _ _ h => h) fun temporary => ?_
  have hcopy : Moves
      (Disk.Gains (store.published (store.recordOf kind osImage source.found) source.found))
      (Disk.Draft temporary [] 0o600) (store.copyAndHash source temporary) fun result disk =>
        Disk.Draft temporary source.found 0o600 disk ∧ (Copied store source.found result ∧
          result.2 ≤ store.maxArtifactBytes ∧
          readUntilEmpty source.content = some source.found) := by
    refine ((moves_copyLoop source.content [] 0 rfl UInt64.zero_le).weaken onDisk_gains).mono
      (fun _ => id) ?_
    intro result device h
    obtain ⟨content, hdraft, hcopied, hlimit, hread⟩ := h
    simp only [List.nil_append, Option.map_id'] at hread
    have hfound : source.found = content := by rw [Source.found, hread, Option.getD_some]
    rw [hfound]
    exact ⟨hdraft, hcopied, hlimit, hread⟩
  refine (hcopy.mono (fun _ h => h.1) fun _ _ h => h).bind fun result => ?_
  obtain ⟨id, bytes⟩ := result
  refine Faulty.Steps.of_and fun ⟨hcopied, hlimit, hread⟩ => ?_
  obtain ⟨hid, hlength, -⟩ := hcopied
  have hbytes : UInt64.ofNat source.found.length = bytes := by
    rw [hlength]
    exact UInt64.ofNat_toNat
  have hrecord : store.recordOf kind osImage source.found =
      ⟨recordSchemaVersion, kind, id, bytes, osImage⟩ := by
    rw [ImageStore.recordOf, hid, hbytes]
  rw [hrecord]
  refine Faulty.Steps.ofExcept_bind fun _ _ => ?_
  refine ((moves_syncReadOnly _).weaken onDisk_gains).bind fun _ => ?_
  refine (gains_publishBlob rfl).bind fun _ => (gains_publishRecord (if_pos rfl)).bind fun _ => ?_
  exact Faulty.Steps.pure fun _ _ => ⟨rfl, hread, hlength ▸ UInt64.le_iff_toNat_le.mp hlimit⟩

end Effects

end Kernmux.Daemon
