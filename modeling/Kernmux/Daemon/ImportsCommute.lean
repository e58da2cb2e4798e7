import Kernmux.Daemon.ArtifactNames
import Kernmux.Daemon.ImportAgain
import Kernmux.Library.Merging

/-!
# Kernmux.Daemon.ImportsCommute

**The order of imports does not matter.** A catalog is known up to its order by the
records of its files (`Catalog`), and an import adds its record unless it is there.
So a sequence of imports leaves what was there together with the records imported,
each once, and two sequences that import the same leave the same listing and the
same blobs.
-/

namespace Kernmux.Daemon

open Api.V1 Library ImageStore

/-! ### The order of records -/

instance : Std.TransOrd ArtifactKind where
  eq_swap {first second} := by cases first <;> cases second <;> rfl
  isLE_trans {first second third} := by cases first <;> cases second <;> cases third <;> decide

instance : Std.LawfulEqOrd ArtifactKind where
  compare_self {kind} := by cases kind <;> rfl
  eq_of_compare {first second} := by cases first <;> cases second <;> decide

instance : Std.TransOrd OsImageFormat where
  eq_swap {first second} := by cases first <;> cases second <;> rfl
  isLE_trans {first second third} := by cases first <;> cases second <;> cases third <;> decide

instance : Std.LawfulEqOrd OsImageFormat where
  compare_self {format} := by cases format <;> rfl
  eq_of_compare {first second} := by cases first <;> cases second <;> decide

instance : Std.TransOrd ArtifactId :=
  inferInstanceAs (Std.TransCmp (compareOn ArtifactId.value))

instance : Std.LawfulEqOrd ArtifactId where
  compare_self {id} := Std.ReflOrd.compare_self (a := id.value)
  eq_of_compare h := ArtifactId.value_injective (Std.LawfulEqOrd.eq_of_compare h)

/-- Records of OS images are compared field by field. -/
theorem compare_osImageRecord : (compare : OsImageRecord → OsImageRecord → Ordering) =
    compareLex (compareOn OsImageRecord.label) (compareLex (compareOn OsImageRecord.format)
      (compareLex (compareOn OsImageRecord.virtualBytes)
        (compareOn OsImageRecord.architecture))) := by
  funext first second
  show (compare _ _).then ((compare _ _).then ((compare _ _).then ((compare _ _).then .eq))) = _
  rw [Ordering.then_eq]
  rfl

instance : Std.TransOrd OsImageRecord := by
  rw [Std.TransOrd, compare_osImageRecord]
  infer_instance

instance : Std.LawfulEqOrd OsImageRecord where
  compare_self {record} := by
    rw [compare_osImageRecord]
    exact Std.ReflCmp.compare_self
  eq_of_compare {first second} h := by
    rw [compare_osImageRecord, compareLex_eq_eq, compareLex_eq_eq, compareLex_eq_eq] at h
    obtain ⟨hlabel, hformat, hbytes, harchitecture⟩ := h
    cases first
    cases second
    rw [OsImageRecord.mk.injEq]
    exact ⟨Std.LawfulEqOrd.eq_of_compare hlabel, Std.LawfulEqOrd.eq_of_compare hformat,
      Std.LawfulEqOrd.eq_of_compare hbytes, Std.LawfulEqOrd.eq_of_compare harchitecture⟩

/-- So are all records. -/
theorem compare_artifactRecord : (compare : ArtifactRecord → ArtifactRecord → Ordering) =
    compareLex (compareOn ArtifactRecord.schemaVersion) (compareLex (compareOn ArtifactRecord.kind)
      (compareLex (compareOn ArtifactRecord.id) (compareLex (compareOn ArtifactRecord.bytes)
        (compareOn ArtifactRecord.osImage)))) := by
  funext first second
  show (compare _ _).then ((compare _ _).then ((compare _ _).then ((compare _ _).then
    ((compare _ _).then .eq)))) = _
  rw [Ordering.then_eq]
  rfl

instance : Std.TransOrd ArtifactRecord := by
  rw [Std.TransOrd, compare_artifactRecord]
  infer_instance

instance : Std.LawfulEqOrd ArtifactRecord where
  compare_self {record} := by
    rw [compare_artifactRecord]
    exact Std.ReflCmp.compare_self
  eq_of_compare {first second} h := by
    rw [compare_artifactRecord, compareLex_eq_eq, compareLex_eq_eq, compareLex_eq_eq,
      compareLex_eq_eq] at h
    obtain ⟨hversion, hkind, hid, hbytes, hosImage⟩ := h
    cases first
    cases second
    rw [ArtifactRecord.mk.injEq]
    exact ⟨Std.LawfulEqOrd.eq_of_compare hversion, Std.LawfulEqOrd.eq_of_compare hkind,
      Std.LawfulEqOrd.eq_of_compare hid, Std.LawfulEqOrd.eq_of_compare hbytes,
      Std.LawfulEqOrd.eq_of_compare hosImage⟩

theorem sortRecords_eq_of_perm {first second : List ArtifactRecord} (h : first.Perm second) :
    sortRecords first = sortRecords second :=
  insertionSort_eq_of_perm h

/-! ### Catalogs -/

section Catalogs

variable {store : ImageStore} {record : ArtifactRecord} {kind : ArtifactKind} {name : OsString}
  {disk before after : Disk StoreDirectory} {records : List ArtifactRecord}

/-- A name stands for one record. -/
theorem EntrySound.unique {other : ArtifactRecord} (h : EntrySound store kind name record disk)
    (hother : EntrySound store kind name other disk) : record = other := by
  obtain ⟨content, hfile, -, hdecode, -⟩ := h.metadata
  obtain ⟨bytes, hbytes, -, hdecoded, -⟩ := hother.metadata
  obtain rfl := hfile.unique hbytes
  exact Option.some.inj (hdecode.symm.trans hdecoded)

/-- A record is of the kind it is found under. -/
theorem EntrySound.kind_eq (h : EntrySound store kind name record disk) : record.kind = kind := by
  obtain ⟨_, -, -, -, hfields⟩ := h.metadata
  exact (fields_of_consistent hfields).2.1

/-- The record is in the catalog. -/
def Registered (store : ImageStore) (record : ArtifactRecord) (disk : Disk StoreDirectory) : Prop :=
  EntrySound store record.kind (recordName record.id) record disk

/-- The records of the catalog, in some order. -/
def Catalog (store : ImageStore) (records : List ArtifactRecord) (disk : Disk StoreDirectory) :
    Prop :=
  ∃ found : ArtifactKind → OsString → ArtifactRecord,
    (∀ kind, ∀ entry ∈ disk.entries (.records kind),
      EntrySound store kind entry.1 (found kind entry.1) disk) ∧
    records.Perm (catalogRecords found disk.entries [.kernel, .initrd, .osImage])

theorem Catalog.listing_eq (h : Catalog store records disk) :
    store.listing disk = .ok (sortRecords records) := by
  obtain ⟨found, hfound, hperm⟩ := h
  rw [listing_of_records hfound, sortRecords_eq_of_perm hperm]

theorem Sound.catalog (h : Sound store disk) : ∃ records, Catalog store records disk := by
  obtain ⟨found, hfound⟩ := h.records
  exact ⟨_, found, hfound, .refl _⟩

theorem catalog_of_listing (h : store.listing disk = .ok records) : Catalog store records disk := by
  obtain ⟨found, hfound⟩ := (sound_of_listing h).records
  refine ⟨found, hfound, ?_⟩
  obtain rfl := Ended.ok.inj ((listing_of_records hfound).symm.trans h)
  exact List.perm_insertionSort _ _

theorem mem_kinds (kind : ArtifactKind) : kind ∈ [ArtifactKind.kernel, .initrd, .osImage] := by
  cases kind <;> decide

theorem Registered.mem_names (h : Registered store record disk) :
    recordName record.id ∈ disk.names (.records record.kind) := by
  obtain ⟨_, ⟨inode, _, hfind, -⟩, -⟩ := h.metadata
  exact Disk.find_isSome_iff.mp ⟨inode, hfind⟩

theorem Catalog.mem_iff (h : Catalog store records disk) :
    record ∈ records ↔ Registered store record disk := by
  obtain ⟨found, hfound, hperm⟩ := h
  rw [hperm.mem_iff, catalogRecords, List.mem_flatMap]
  constructor
  · intro hmem
    obtain ⟨kind, -, hmem⟩ := hmem
    obtain ⟨name, hname, rfl⟩ := List.mem_map.mp hmem
    obtain ⟨entry, hentry, rfl⟩ := List.mem_map.mp hname
    have hsound := hfound kind entry hentry
    rw [Registered, hsound.kind_eq, ← hsound.name_eq]
    exact hsound
  · intro hregistered
    refine ⟨record.kind, mem_kinds record.kind, List.mem_map.mpr
      ⟨recordName record.id, hregistered.mem_names, ?_⟩⟩
    obtain ⟨entry, hentry, hname⟩ := List.mem_map.mp hregistered.mem_names
    have hsound := hfound record.kind entry hentry
    rw [hname] at hsound
    exact hsound.unique hregistered

/-- Without new names the catalog stays the same. -/
theorem Catalog.of_same (h : Catalog store records before) (hgrows : Disk.Grows before after)
    (hsame : ∀ kind, after.entries (.records kind) = before.entries (.records kind)) :
    Catalog store records after := by
  obtain ⟨found, hfound, hperm⟩ := h
  refine ⟨found, ?_, ?_⟩
  · intro kind entry hentry
    rw [hsame] at hentry
    exact (hfound kind entry hentry).grows hgrows
  · simp only [catalogRecords, hsame] at hperm ⊢
    exact hperm

/-- One directory has gained the name of a record. -/
theorem Catalog.gained {content : List UInt8} {inode : ℕ} (h : Catalog store records before)
    (hgrows : Disk.Grows before after)
    (hgained : Disk.Gained (.records record.kind) (recordName record.id) content inode before after)
    (hothers : ∀ kind ≠ record.kind, after.entries (.records kind) = before.entries (.records kind))
    (hregistered : Registered store record after) : Catalog store (record :: records) after := by
  obtain ⟨found, hfound, hperm⟩ := h
  have hfree : ∀ entry ∈ before.entries (.records record.kind), entry.1 ≠ recordName record.id := by
    intro entry hentry heq
    obtain ⟨_, hinode⟩ := Disk.find_isSome_of_mem hentry
    rw [heq, hgained.free] at hinode
    cases hinode
  -- the new name is read as the new record, and all others as before
  let reads (kind : ArtifactKind) (name : OsString) : ArtifactRecord :=
    if kind = record.kind ∧ name = recordName record.id then record else found kind name
  have hold : ∀ kind, ∀ entry ∈ before.entries (.records kind),
      reads kind entry.1 = found kind entry.1 := by
    intro kind entry hentry
    refine if_neg ?_
    intro hnew
    obtain ⟨rfl, hname⟩ := hnew
    exact hfree entry hentry hname
  have hnew : reads record.kind (recordName record.id) = record := if_pos ⟨rfl, rfl⟩
  refine ⟨reads, ?_, ?_⟩
  · intro kind entry hentry
    by_cases hbefore : entry ∈ before.entries (.records kind)
    · rw [hold kind entry hbefore]
      exact (hfound kind entry hbefore).grows hgrows
    · by_cases hkind : kind = record.kind
      · subst hkind
        rw [hgained.entries, List.mem_append, List.mem_singleton] at hentry
        obtain rfl := hentry.resolve_left hbefore
        rw [hnew]
        exact hregistered
      · rw [hothers kind hkind] at hentry
        exact absurd hentry hbefore
  · refine (hperm.cons record).trans (List.Perm.symm ?_)
    have hmap : ∀ kind, ((before.entries (.records kind)).map Prod.fst).map (reads kind) =
        ((before.entries (.records kind)).map Prod.fst).map (found kind) := by
      intro kind
      rw [List.map_map, List.map_map]
      exact List.map_congr_left (hold kind)
    have hkinds : [ArtifactKind.kernel, .initrd, .osImage].Nodup := by decide
    refine flatMap_perm_cons hkinds (mem_kinds record.kind) ?_ ?_
    · rw [hgained.entries, List.map_append, List.map_append, hmap, List.map_singleton,
        List.map_singleton, hnew]
      exact List.perm_append_singleton _ _
    · intro kind hkind
      rw [hothers kind hkind, hmap]

/-- A record that is published is added to the catalog, unless it is there. -/
theorem Catalog.insert {content : List UInt8} (h : Catalog store records before)
    (hgains : Disk.Gains (store.published record content) before after)
    (hregistered : Registered store record after) :
    Catalog store (records.insert record) after := by
  have hothers : ∀ kind ≠ record.kind,
      after.entries (.records kind) = before.entries (.records kind) := by
    intro kind hkind
    refine hgains.entries_eq ?_
    rw [published, if_neg hkind]
    intro file hfile
    cases hfile
  obtain hsame | ⟨name, bytes, inode, hnew, hgained⟩ := hgains.added (.records record.kind)
  · have hall : ∀ kind, after.entries (.records kind) = before.entries (.records kind) := by
      intro kind
      by_cases hkind : kind = record.kind
      · exact hkind ▸ hsame
      · exact hothers kind hkind
    have hcatalog := h.of_same hgains.grows hall
    rw [List.insert_of_mem (hcatalog.mem_iff.mpr hregistered)]
    exact hcatalog
  · rw [published, if_pos rfl] at hnew
    cases hnew
    have hmissing : record ∉ records := by
      intro hmem
      obtain ⟨_, hfound⟩ := Disk.find_isSome_iff.mpr (h.mem_iff.mp hmem).mem_names
      rw [hgained.free] at hfound
      cases hfound
    rw [List.insert_of_not_mem hmissing]
    exact h.gained hgains.grows hgained hothers hregistered

theorem Catalog.perm {others : List ArtifactRecord} (h : Catalog store records disk)
    (hperm : others.Perm records) : Catalog store others disk := by
  obtain ⟨found, hfound, hrecords⟩ := h
  exact ⟨found, hfound, hperm.trans hrecords⟩

end Catalogs

/-! ### Sequences of imports -/

/-- An import of a boot artifact, and what becomes of its filesystem steps. -/
structure BootImport where
  kind : ArtifactKind
  boot : kind ≠ .osImage
  source : Source
  expectedId : Option ArtifactId
  replies : ℕ → DiskReply

/-- Kind, digest and length of what is imported. -/
def BootImport.record (store : ImageStore) (call : BootImport) : ArtifactRecord :=
  store.recordOf call.kind none call.source.found

def BootImport.run (store : ImageStore) (call : BootImport) (disk : Disk StoreDirectory) :
    Ended ImageStoreError ArtifactRecord × Device StoreDirectory :=
  store.importPath call.kind call.source call.expectedId ⟨disk, call.replies⟩

/-- All imports of a sequence return, with these records. -/
inductive Imported (store : ImageStore) :
    Disk StoreDirectory → List BootImport → List ArtifactRecord → Disk StoreDirectory → Prop
  | nil (disk : Disk StoreDirectory) : Imported store disk [] [] disk
  | cons {disk after : Disk StoreDirectory} {call : BootImport} {calls : List BootImport}
      {record : ArtifactRecord} {results : List ArtifactRecord} {reached : Device StoreDirectory}
      (hrun : call.run store disk = (.ok record, reached))
      (hrest : Imported store reached.disk calls results after) :
      Imported store disk (call :: calls) (record :: results) after

section Sequences

variable {store : ImageStore} {disk after : Disk StoreDirectory} {call : BootImport}
  {calls : List BootImport} {record : ArtifactRecord} {records results : List ArtifactRecord}
  {reached : Device StoreDirectory}

/-- What one import of a sequence does. -/
theorem BootImport.effect (hrun : call.run store disk = (.ok record, reached)) :
    record = call.record store ∧
      Disk.Gains (store.published (call.record store) call.source.found) disk reached.disk ∧
      Registered store (call.record store) reached.disk ∧
      call.source.found.length ≤ store.maxArtifactBytes.toNat := by
  have hentry := ((moves_importPath call.boot call.source call.expectedId).of_ok trivial hrun).2
  obtain ⟨_, -, hrun⟩ := Faulty.ofExcept_bind_eq_ok.mp hrun
  obtain ⟨_, -, hrun⟩ := Faulty.ofExcept_bind_eq_ok.mp hrun
  obtain ⟨_, -, hrun⟩ := Faulty.ofExcept_bind_eq_ok.mp hrun
  obtain ⟨hgains, rfl, -, hlimit⟩ := gains_importOpened.of_ok trivial hrun
  exact ⟨rfl, hgains, hentry, hlimit⟩

/-- What a sequence leaves behind. -/
structure Merged (store : ImageStore) (disk : Disk StoreDirectory) (records : List ArtifactRecord)
    (calls : List BootImport) (results : List ArtifactRecord) (after : Disk StoreDirectory) :
    Prop where
  returned : results = calls.map (·.record store)
  catalog : Catalog store (calls.map (·.record store) ∪ records) after
  blobs : (after.names .blobs).Perm
    (calls.map (fun call => blobName (call.record store).id) ∪ disk.names .blobs)
  grows : Disk.Grows disk after
  registered : ∀ call ∈ calls, Registered store (call.record store) after ∧
    call.source.found.length ≤ store.maxArtifactBytes.toNat

theorem Imported.merged (h : Imported store disk calls results after)
    (hcatalog : Catalog store records disk) : Merged store disk records calls results after := by
  induction h generalizing records with
  | nil disk =>
      refine ⟨rfl, ?_, ?_, .refl disk, List.forall_mem_nil _⟩
      · rw [List.map_nil, List.nil_union]
        exact hcatalog
      · rw [List.map_nil, List.nil_union]
  | @cons disk after call calls record results reached hrun hrest ih =>
      obtain ⟨rfl, hgains, hregistered, hlimit⟩ := BootImport.effect hrun
      have hmerged := ih (hcatalog.insert hgains hregistered)
      refine ⟨?_, ?_, ?_, hgains.grows.trans hmerged.grows, ?_⟩
      · rw [hmerged.returned, List.map_cons]
      · exact hmerged.catalog.perm (union_insert_perm _ _ _).symm
      · have hblob : blobName (call.record store).id ∈ reached.disk.names .blobs := by
          obtain ⟨_, ⟨inode, _, hfind, -⟩, -⟩ := hregistered.blob
          exact Disk.find_isSome_iff.mp ⟨inode, hfind⟩
        refine hmerged.blobs.trans ?_
        refine ((hgains.names_perm rfl hblob).union_left _).trans ?_
        exact union_insert_perm _ _ _
      · intro other hother
        obtain rfl | hother := List.mem_cons.mp hother
        · exact ⟨hregistered.grows hmerged.grows, hlimit⟩
        · exact hmerged.registered other hother

theorem Merged.listing_eq (h : Merged store disk records calls results after) :
    store.listing after =
      .ok (sortRecords (calls.map (·.record store) ∪ records)) :=
  h.catalog.listing_eq

/-- A blob that was not there is there once, however often its bytes were imported. -/
theorem Merged.count_blob (h : Merged store disk records calls results after)
    (hcall : call ∈ calls) (hnew : blobName (call.record store).id ∉ disk.names .blobs) :
    (after.names .blobs).count (blobName (call.record store).id) = 1 := by
  rw [h.blobs.count_eq, count_union_eq, if_pos ⟨List.mem_map_of_mem hcall, hnew⟩]

/-- Two sequences that import the same leave the same. -/
theorem Merged.same {others : List BootImport} {found : List ArtifactRecord}
    {other : Disk StoreDirectory} (h : Merged store disk records calls results after)
    (hother : Merged store disk records others found other)
    (hsame : ∀ record, record ∈ others.map (·.record store) ↔ record ∈ calls.map (·.record store)) :
    store.listing other = store.listing after ∧ (other.names .blobs).Perm (after.names .blobs) := by
  refine ⟨?_, ?_⟩
  · rw [h.listing_eq, hother.listing_eq, sortRecords_eq_of_perm (union_perm_union hsame)]
  · refine hother.blobs.trans ((union_perm_union ?_).trans h.blobs.symm)
    intro name
    have hnames : ∀ imports : List BootImport,
        imports.map (fun call => blobName (call.record store).id) =
          (imports.map (·.record store)).map fun record => blobName record.id := by
      intro imports
      rw [List.map_map]
      rfl
    simp only [hnames, List.mem_map (f := fun record : ArtifactRecord => blobName record.id), hsame]

/-- The bytes of an import of the sequence can be imported again. -/
theorem Merged.again (h : Merged store disk records calls results after) (hcall : call ∈ calls)
    {source : Source} {expectedId : Option ArtifactId}
    (hsource : Readable call.source.found source)
    (hexpected : Expects (call.record store).id expectedId) :
    Device.Ends after (store.importPath call.kind source expectedId) (.ok (call.record store))
      fun _ => True := by
  obtain ⟨hregistered, hlimit⟩ := h.registered call hcall
  exact ends_importPath hsource hlimit hexpected hregistered

/-- What is left as it was is listed as it was. -/
theorem listing_of_untouched {later : Disk StoreDirectory} (hcatalog : Catalog store records disk)
    (h : Disk.Untouched disk later) : store.listing later = store.listing disk := by
  have hlater := hcatalog.of_same h.unseen.grows fun kind => by rw [h.unseen.entries]
  rw [hlater.listing_eq, hcatalog.listing_eq]

/-- A sequence of imports of boot artifacts has added what it imported, each once, and nothing
depends on the order of the calls or on how often they are repeated. -/
structure Commutes (store : ImageStore) (disk : Disk StoreDirectory)
    (previous : List ArtifactRecord) (calls : List BootImport) (results : List ArtifactRecord)
    (after : Disk StoreDirectory) : Prop where
  returned : results = calls.map (·.record store)
  listed : store.listing after =
    .ok (sortRecords (calls.map (·.record store) ∪ previous))
  blobs : (after.names .blobs).Perm
    (calls.map (fun call => blobName (call.record store).id) ∪ disk.names .blobs)
  order : ∀ others found other, Imported store disk others found other →
    (∀ record, record ∈ others.map (·.record store) ↔ record ∈ calls.map (·.record store)) →
    store.listing other = store.listing after ∧ (other.names .blobs).Perm (after.names .blobs)
  again : ∀ call ∈ calls, ∀ source expectedId, Readable call.source.found source →
    Expects (call.record store).id expectedId →
    Device.Ends after (store.importPath call.kind source expectedId) (.ok (call.record store))
      fun _ => True
  shared : ∀ call ∈ calls, ∀ other ∈ calls, call.source.found = other.source.found →
    blobName (call.record store).id = blobName (other.record store).id ∧
    (blobName (call.record store).id ∉ disk.names .blobs →
      (after.names .blobs).count (blobName (call.record store).id) = 1)

/-- The bytes of an OS image can be imported again as what they are, and as nothing else. -/
structure Settled (store : ImageStore) (content : List UInt8) (label : String)
    (architecture : Option String) (record : ArtifactRecord) (disk : Disk StoreDirectory) :
    Prop where
  again : ∀ source expectedId, Steady content source → Expects record.id expectedId →
    Device.Ends disk (store.importOsImage source label architecture expectedId) (.ok record)
      fun _ => True
  refused : ∀ source other target expectedId, Steady content source →
    (other ≠ label ∨ target ≠ architecture) → ∃ error,
      Device.Ends disk (store.importOsImage source other target expectedId) (.error error)
        fun later => store.listing later = store.listing disk

/-- Imports commute and are idempotent, from every store that can be listed: sequences of boot
artifacts, and OS images with any attempts in between. -/
theorem imports_commute (hlisted : store.listing disk = .ok records) :
    (∀ calls results after, Imported store disk calls results after →
      Commutes store disk records calls results after) ∧
    ∀ source label architecture expectedId replies record reached content
      (attempts : List ImportAttempt), Steady content source →
      store.importOsImage source label architecture expectedId ⟨disk, replies⟩ =
        (.ok record, reached) →
      Settled store content label architecture record
        (attempts.foldl store.after reached.disk) := by
  have hcatalog := catalog_of_listing hlisted
  refine ⟨?_, ?_⟩
  · intro calls results after himported
    have hmerged := himported.merged hcatalog
    refine ⟨hmerged.returned, hmerged.listing_eq, hmerged.blobs, ?_, ?_, ?_⟩
    · intro others found other hother hsame
      exact hmerged.same (hother.merged hcatalog) hsame
    · intro call hcall source expectedId hsource hexpected
      exact hmerged.again hcall hsource hexpected
    · intro call hcall other hother hbytes
      refine ⟨?_, hmerged.count_blob hcall⟩
      rw [BootImport.record, BootImport.record, recordOf, recordOf, hbytes]
  · intro source label architecture expectedId replies record reached content attempts hsource hrun
    obtain ⟨image, rfl, hdeployed⟩ := deployed_of_importOsImage hsource hrun
    have hfirst := ((moves_importOsImage source label architecture expectedId).of_ok trivial hrun).1
    have hadvance := @advance_attempts store attempts reached.disk
    obtain ⟨_, hlater⟩ := (hadvance.sound (hfirst.sound (sound_of_listing hlisted))).catalog
    have hdeployed := hdeployed.grows hadvance.grows
    refine ⟨fun again expected hagain hexpected => hdeployed.again hagain hexpected, ?_⟩
    intro again other target expected hagain hdiffers
    obtain ⟨error, later, hrefused, huntouched, -⟩ := hdeployed.refused hagain hdiffers
    exact ⟨error, later, hrefused, huntouched, listing_of_untouched hlater huntouched⟩

/-- Two bytes, imported as a kernel and then as an initrd. -/
def sharedBytes : List BootImport :=
  [⟨.kernel, by decide, .holding [7, 9], none, fun _ => .done⟩,
    ⟨.initrd, by decide, .holding [7, 9], none, fun _ => .done⟩]

theorem imports_commute_shared :
    (∃ after, Imported plainStore .empty sharedBytes (sharedBytes.map (·.record plainStore)) after ∧
      Commutes plainStore .empty [] sharedBytes (sharedBytes.map (·.record plainStore)) after) ∧
    ∃ reached, plainStore.importOsImage (.holding sector) "one sector" none none
        ⟨.empty, fun _ => .done⟩ = (.ok (sectorRecord sector), reached) ∧
      Settled plainStore sector "one sector" none (sectorRecord sector) reached.disk := by
  have hlisted : plainStore.listing .empty = .ok [] := rfl
  refine ⟨?_, ?_⟩
  · have hkernel : (sharedBytes[0].run plainStore .empty).1 =
        .ok (sharedBytes[0].record plainStore) := by decide +kernel
    have hinitrd : (sharedBytes[1].run plainStore (sharedBytes[0].run plainStore .empty).2.disk).1 =
          .ok (sharedBytes[1].record plainStore) := by decide +kernel
    have himported := Imported.cons (Prod.fst_eq_iff.mp hkernel)
      (.cons (Prod.fst_eq_iff.mp hinitrd) (.nil _))
    exact ⟨_, himported, (imports_commute hlisted).1 _ _ _ himported⟩
  · have hok : (plainStore.importOsImage (.holding sector) "one sector" none none
        ⟨.empty, fun _ => .done⟩).1 = .ok (sectorRecord sector) := by decide +kernel
    have hsteady : Steady sector (.holding sector) :=
      ⟨rfl, by decide +kernel, by decide +kernel, rfl, by decide +kernel⟩
    have hrun := Prod.fst_eq_iff.mp hok
    generalize (plainStore.importOsImage _ _ _ _ _).2 = reached at hrun
    exact ⟨reached, hrun, (imports_commute hlisted).2 _ _ _ _ _ _ _ _ [] hsteady hrun⟩

end Sequences

end Kernmux.Daemon
