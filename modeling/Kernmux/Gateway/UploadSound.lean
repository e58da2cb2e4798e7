import Kernmux.Gateway.Upload

/-!
# Kernmux.Gateway.UploadSound

**What an upload leaves behind.** Whether an upload gets as far as to rename its
file is decided by its fields and by the storage (`Renames`), and until then
files change only under the name of the staging file. An upload that goes no
further removes what stands there, whoever put it there; one that goes on
replaces what stands under the final name, and sends a request for it. So each
upload leaves other files alone and sends what it was given (`Tidy`) exactly if
the names that it gets to use are free and no failed write has gone unnoticed.
-/

namespace Kernmux.Gateway

open Library Folder MetadataField
open Faulty (EndsWithin attempt attempt_of_error attempt_of_ok bind_of_ok endsWithin_ofExcept
  endsWithin_pure mapError_eq_ok)

/-! ### Files of an upload -/

def Field.bytes (field : Field) : List UInt8 := field.chunks.flatten

def named (name : String) (field : Field) : Bool := field.name = some name

/-- A file that was read to its end, with something in it and not too much. -/
structure Whole (max : UInt64) (field : Field) : Prop where
  complete : field.complete = true
  nonempty : field.bytes ≠ []
  length_le : field.bytes.length ≤ max.toNat

/-- The files among the fields that have been read, at most one, are on the storage. -/
inductive Kept (part : OsString) (folder : Folder OsString) : List Field → Folder OsString → Prop
  | none : Kept part folder [] folder
  | file {file content last lost} (free : folder.files part = none)
      (created : folder.replies folder.calls = .done)
      (stored : Stores folder.replies (folder.calls + 1) folder.unreported file.chunks content
        last lost)
      (synced : folder.replies last = .done) :
      Kept part folder [file]
        ⟨Function.update folder.files part (some content), folder.replies, last + 1, lost⟩

/-- A check is passed, and the files stay as they are. -/
theorem check_eq_ok {ε α : Type} {bad : Prop} [Decidable bad] {error : ε} {next : Unit → Staging ε α}
    {folder reached : Folder OsString} {value : α} :
    (Faulty.ofExcept (rejectIf bad error) >>= next) folder = (.ok value, reached) ↔
      ¬ bad ∧ next () folder = (.ok value, reached) := by
  rw [Faulty.ofExcept_bind_eq_ok]
  constructor
  · rintro ⟨_, hcheck, hnext⟩
    exact ⟨rejectIf_eq_ok.mp hcheck, hnext⟩
  · rintro ⟨hcheck, hnext⟩
    exact ⟨(), rejectIf_eq_ok.mpr hcheck, hnext⟩

section Files

variable {max : UInt64} {part : OsString} {folder reached : Folder OsString} {written total : ℕ}
  {chunk : List UInt8} {chunks : List (List UInt8)}

theorem receiveChunks_cons_eq_ok :
    receiveChunks max part written (chunk :: chunks) folder = (.ok total, reached) ↔
      written + chunk.length ≤ max.toNat ∧
      ∃ between, append part chunk folder = (.ok (), between) ∧
        receiveChunks max part (written + chunk.length) chunks between = (.ok total, reached) := by
  have hmax := max.toNat_lt
  rw [receiveChunks, check_eq_ok, check_eq_ok, Faulty.bind_eq_ok]
  constructor
  · rintro ⟨-, hsmall, _, between, happend, hrest⟩
    exact ⟨Nat.le_of_not_lt hsmall, between, mapError_eq_ok.mp happend, hrest⟩
  · rintro ⟨hsmall, between, happend, hrest⟩
    exact ⟨by omega, Nat.not_lt.mpr hsmall, (), between, mapError_eq_ok.mpr happend, hrest⟩

/-- The pieces of a file are written as the storage takes them. -/
theorem receiveChunks_eq_ok {content : List UInt8} (hfile : folder.files part = some content)
    (hwritten : written ≤ max.toNat) :
    receiveChunks max part written chunks folder = (.ok total, reached) ↔
      total = written + chunks.flatten.length ∧ total ≤ max.toNat ∧ ∃ stored last lost,
        Stores folder.replies folder.calls folder.unreported chunks stored last lost ∧
        reached = ⟨Function.update folder.files part (some (content ++ stored)), folder.replies,
          last, lost⟩ := by
  have hsame : Function.update folder.files part (some content) = folder.files := by
    rw [← hfile, Function.update_eq_self]
  obtain ⟨files, replies, calls, unreported⟩ := folder
  induction chunks generalizing files calls unreported written content with
  | nil =>
      constructor
      · intro h
        obtain ⟨htotal, rfl⟩ := Prod.mk.inj h
        obtain rfl := Ended.ok.inj htotal
        refine ⟨rfl, hwritten, [], calls, unreported, .nil, ?_⟩
        rw [List.append_nil, hsame]
      · rintro ⟨rfl, -, stored, last, lost, hstored, rfl⟩
        cases hstored
        rw [List.append_nil, hsame]
        rfl
  | cons chunk chunks ih =>
      rw [receiveChunks_cons_eq_ok]
      by_cases hchunk : chunk = []
      · subst hchunk
        constructor
        · rintro ⟨-, between, happend, hrest⟩
          obtain rfl := (Prod.mk.inj ((append_nil part _).symm.trans happend)).2
          obtain ⟨htotal, hmax, stored, last, lost, hstored, hreached⟩ :=
            (ih hwritten _ _ _ hfile hsame).mp hrest
          exact ⟨by simpa using htotal, hmax, stored, last, lost, .empty hstored, hreached⟩
        · rintro ⟨htotal, hmax, stored, last, lost, hstored, hreached⟩
          cases hstored with
          | empty hrest =>
              exact ⟨hwritten, _, append_nil part _, (ih hwritten _ _ _ hfile hsame).mpr
                ⟨by simpa using htotal, hmax, stored, last, lost, hrest, hreached⟩⟩
          | write hnonempty => exact absurd rfl hnonempty
      · simp only [append_eq_ok hchunk hfile]
        constructor
        · rintro ⟨hsmall, between, ⟨hfresh, hsilent, rfl⟩, hrest⟩
          obtain rfl : unreported = false := hfresh
          obtain ⟨htotal, hmax, stored, last, lost, hstored, rfl⟩ :=
            (ih hsmall (Function.update files part _) _ _ (Function.update_self _ _ _)
              (Function.update_idem _ _ _)).mp hrest
          refine ⟨by simp [htotal, Nat.add_assoc], hmax, _, last, lost,
            .write hchunk hsilent hstored, ?_⟩
          simp [Function.update_idem]
        · rintro ⟨htotal, hmax, stored, last, lost, hstored, rfl⟩
          rw [List.flatten_cons, List.length_append, ← Nat.add_assoc] at htotal
          have hsmall : written + chunk.length ≤ max.toNat := by omega
          cases hstored with
          | empty => exact absurd rfl hchunk
          | write _ hsilent hrest =>
              refine ⟨hsmall, _, ⟨rfl, hsilent, rfl⟩, (ih hsmall (Function.update files part _) _ _
                (Function.update_self _ _ _) (Function.update_idem _ _ _)).mpr
                ⟨htotal, hmax, _, last, lost, hrest, ?_⟩⟩
              simp [Function.update_idem]

/-- A file that is whole is taken where there is none and the storage does not report a
failure. -/
theorem receiveFile_eq_ok {field : Field} : receiveFile max part field folder = (.ok (), reached) ↔
      Whole max field ∧ Kept part folder [field] reached := by
  have hspec := fun total reached => @receiveChunks_eq_ok max part
    { folder with
      files := Function.update folder.files part (some [])
      calls := folder.calls + 1 } reached 0 total field.chunks [] (Function.update_self _ _ _)
    (Nat.zero_le _)
  unfold receiveFile
  constructor
  · intro h
    obtain ⟨_, _, hcreate, h⟩ := Faulty.bind_eq_ok.mp h
    obtain ⟨hcreated, hfree, rfl⟩ := createNew_eq_ok.mp (mapError_eq_ok.mp hcreate)
    obtain ⟨total, _, hchunks, h⟩ := Faulty.bind_eq_ok.mp h
    obtain ⟨hcomplete, h⟩ := check_eq_ok.mp h
    obtain ⟨hempty, h⟩ := check_eq_ok.mp h
    obtain ⟨htotal, hmax, stored, last, lost, hstored, rfl⟩ := (hspec _ _).mp hchunks
    obtain ⟨hsynced, rfl⟩ := sync_eq_ok.mp (mapError_eq_ok.mp h)
    rw [Nat.zero_add] at htotal
    refine ⟨⟨by simpa using hcomplete, fun hnil => hempty ?_, htotal ▸ hmax⟩, ?_⟩
    · rw [htotal, ← Field.bytes, hnil]
      rfl
    · rw [Function.update_idem, List.nil_append]
      exact .file hfree hcreated hstored hsynced
  · rintro ⟨hwhole, hkept⟩
    cases hkept with
    | @file _ content last lost hfree hcreated hstored hsynced =>
        have hlength : field.chunks.flatten.length ≠ 0 := fun hzero =>
          hwhole.nonempty (List.eq_nil_of_length_eq_zero hzero)
        have hchunks := (hspec _ _).mpr
          ⟨rfl, (Nat.zero_add _).le.trans hwhole.length_le, content, last, lost, hstored, rfl⟩
        refine Faulty.bind_eq_ok.mpr ⟨(), _, mapError_eq_ok.mpr
          (createNew_eq_ok.mpr ⟨hcreated, hfree, rfl⟩), Faulty.bind_eq_ok.mpr
          ⟨_, _, hchunks, check_eq_ok.mpr ⟨by simp [hwhole.complete], check_eq_ok.mpr ⟨?_,
            mapError_eq_ok.mpr (sync_eq_ok.mpr ⟨hsynced, ?_⟩)⟩⟩⟩⟩
        · rw [Nat.zero_add]
          exact hlength
        · rw [Function.update_idem, List.nil_append]

end Files

/-! ### Fields of an upload -/

/-- A field that can be read. -/
inductive Field.Readable (max : UInt64) (field : Field) : Prop
  | file (name : field.name = some "file") (whole : Whole max field)
  | text (slot : MetadataField) (name : field.name = some slot.name)
      (text : field.text.isSome = true)

/-- The text of a field. -/
def textOf (fields : List Field) (slot : MetadataField) : Option String :=
  (fields.find? (named slot.name)).bind Field.text

/-- What has been read with these fields. -/
def Received.of (fields : List Field) : Received := ⟨textOf fields, fields.any (named "file")⟩

theorem MetadataField.name_injective : Function.Injective name := by
  intro slot other h
  cases slot <;> cases other <;> first | rfl | exact absurd h (by decide)

theorem MetadataField.name_ne_file (slot : MetadataField) : slot.name ≠ "file" := by
  cases slot <;> decide

theorem MetadataField.ofName_eq_some {name : String} {slot : MetadataField} :
    ofName name = some slot ↔ name = slot.name := by
  constructor
  · intro h
    exact (by simpa using List.find?_some h : slot.name = name).symm
  · rintro rfl
    cases slot <;> decide

section Fields

variable {max : UInt64} {part : OsString} {folder reached : Folder OsString} {next : Received}
  {field : Field} {read fields : List Field}

theorem Field.Readable.whole (h : field.Readable max) (hname : field.name = some "file") :
    Whole max field := by
  cases h with
  | file _ hwhole => exact hwhole
  | text slot hslot => exact absurd (Option.some.inj (hslot.symm.trans hname)) slot.name_ne_file

theorem Field.Readable.isSome_text (h : field.Readable max) {slot : MetadataField}
    (hname : field.name = some slot.name) : field.text.isSome = true := by
  cases h with
  | file hfile => exact absurd (Option.some.inj (hname.symm.trans hfile)) slot.name_ne_file
  | text _ _ htext => exact htext

theorem any_named_eq_false {name : String} :
    read.any (named name) = false ↔ some name ∉ read.map Field.name := by
  simp [named]

/-- Among fields that can be read, a text is missing exactly if no field has its name. -/
theorem textOf_eq_none (hread : ∀ other ∈ read, other.Readable max) {slot : MetadataField} :
    textOf read slot = none ↔ some slot.name ∉ read.map Field.name := by
  cases hfind : read.find? (named slot.name) with
  | none =>
      have hnone := List.find?_eq_none.mp hfind
      exact iff_of_true (by simp [textOf, hfind]) (by simpa [named] using hnone)
  | some found =>
      have hmem := List.mem_of_find?_eq_some hfind
      have hname : found.name = some slot.name := by simpa [named] using List.find?_some hfind
      have htext := (hread found hmem).isSome_text hname
      refine iff_of_false ?_ fun hnew => hnew (hname ▸ List.mem_map_of_mem hmem)
      simpa [textOf, hfind, Option.isSome_iff_ne_none] using htext

theorem receiveText_eq_ok (hread : ∀ other ∈ read, other.Readable max) {slot : MetadataField}
    (hname : field.name = some slot.name) :
    receiveText (.of read) slot field = .ok next ↔ some slot.name ∉ read.map Field.name ∧
      field.text.isSome = true ∧ next = .of (read ++ [field]) := by
  rw [receiveText, guard_eq_ok, rejectIf_eq_ok, Bool.not_eq_true, Option.isSome_eq_false_iff,
    Option.isNone_iff_eq_none]
  refine (and_congr_left' (textOf_eq_none hread)).trans (and_congr_right fun hnew => ?_)
  have htake : ∀ text, field.text = some text →
      { Received.of read with texts := Function.update (Received.of read).texts slot (some text) } =
        Received.of (read ++ [field]) := by
    intro text htext
    have hfile : named "file" field = false := by simp [named, hname, slot.name_ne_file]
    have hnone : read.find? (named slot.name) = none :=
      List.find?_eq_none.mpr (by simpa [named] using hnew)
    have htexts : Function.update (textOf read) slot (some text) = textOf (read ++ [field]) := by
      funext other
      by_cases hother : other = slot
      · subst hother
        simp [textOf, List.find?_append, hnone, named, hname, htext]
      · have hne : slot.name ≠ other.name := fun heq =>
          hother (name_injective heq).symm
        simp [textOf, List.find?_append, named, hname, hne, Function.update_of_ne hother]
    simp [Received.of, htexts, hfile]
  simp only [bind_eq_ok, okOr_eq_ok, pure_eq_ok]
  constructor
  · rintro ⟨text, htext, rfl⟩
    exact ⟨by simp [htext], htake text htext⟩
  · rintro ⟨hsome, rfl⟩
    obtain ⟨text, htext⟩ := Option.isSome_iff_exists.mp hsome
    exact ⟨text, htext, htake text htext⟩

/-- A field is read if it can be and is the first with its name. -/
theorem receiveField_eq_ok (hread : ∀ other ∈ read, other.Readable max) :
    receiveField max part (.of read) field folder = (.ok next, reached) ↔
      field.Readable max ∧ field.name ∉ read.map Field.name ∧ next = .of (read ++ [field]) ∧
        Kept part folder ([field].filter (named "file")) reached := by
  unfold receiveField
  cases hname : field.name with
  | none =>
      refine iff_of_false (by intro h; cases h) ?_
      rintro ⟨hfield | hfield, -⟩ <;> simp_all
  | some name =>
      dsimp only
      by_cases hfile : name = "file"
      · subst hfile
        have hnext : { Received.of read with uploaded := true } = .of (read ++ [field]) := by
          have htexts : textOf (read ++ [field]) = textOf read := by
            funext slot
            simp [textOf, List.find?_append, named, hname, slot.name_ne_file.symm]
          simp [Received.of, htexts, named, hname]
        have hnamed : [field].filter (named "file") = [field] := by simp [named, hname]
        have hfresh : (Received.of read).uploaded = false ↔ some "file" ∉ read.map Field.name :=
          any_named_eq_false
        rw [if_pos rfl, check_eq_ok, hnamed, Bool.not_eq_true, hfresh]
        constructor
        · rintro ⟨hnew, hrest⟩
          obtain ⟨_, between, hrun, hpure⟩ := Faulty.bind_eq_ok.mp hrest
          obtain ⟨hsame, rfl⟩ := Prod.mk.inj hpure
          obtain ⟨hwhole, hkept⟩ := receiveFile_eq_ok.mp hrun
          exact ⟨.file hname hwhole, hnew, (Ended.ok.inj hsame).symm.trans hnext, hkept⟩
        · rintro ⟨hfield, hnew, rfl, hkept⟩
          have hrun := receiveFile_eq_ok.mpr ⟨hfield.whole hname, hkept⟩
          exact ⟨hnew, Faulty.bind_eq_ok.mpr ⟨(), reached, hrun, by rw [← hnext]; rfl⟩⟩
      · have hnamed : [field].filter (named "file") = [] := by simp [named, hname, hfile]
        rw [if_neg hfile, hnamed]
        cases hslot : ofName name with
        | none =>
            refine iff_of_false (by intro h; cases h) ?_
            rintro ⟨hfield | ⟨slot, hother⟩, -⟩
            · simp_all
            · cases hslot.symm.trans
                (ofName_eq_some.mpr (Option.some.inj (hname.symm.trans hother)))
        | some slot =>
            obtain rfl := ofName_eq_some.mp hslot
            simp only [Faulty.ofExcept_eq_ok, receiveText_eq_ok hread hname]
            constructor
            · rintro ⟨⟨hnew, hsome, rfl⟩, rfl⟩
              exact ⟨.text slot hname hsome, hnew, rfl, .none⟩
            · rintro ⟨hfield, hnew, rfl, hkept⟩
              cases hkept
              exact ⟨⟨hnew, hfield.isSome_text hname, rfl⟩, rfl⟩

/-- A file is kept by its own field, and by no other. -/
theorem kept_cons (hnew : field.name ∉ fields.map Field.name) :
    Kept part folder ((field :: fields).filter (named "file")) reached ↔ ∃ between,
      Kept part folder ([field].filter (named "file")) between ∧
        Kept part between (fields.filter (named "file")) reached := by
  by_cases hfile : named "file" field = true
  · have hnone : fields.filter (named "file") = [] := by
      refine List.filter_eq_nil_iff.mpr fun other hother heq => hnew ?_
      rw [of_decide_eq_true hfile, ← of_decide_eq_true heq]
      exact List.mem_map_of_mem hother
    rw [List.filter_cons_of_pos hfile, List.filter_cons_of_pos hfile, hnone, List.filter_nil]
    constructor
    · exact fun h => ⟨reached, h, .none⟩
    · rintro ⟨between, h, hrest⟩
      cases hrest
      exact h
  · rw [List.filter_cons_of_neg hfile, List.filter_cons_of_neg hfile, List.filter_nil]
    constructor
    · exact fun h => ⟨folder, .none, h⟩
    · rintro ⟨between, hnone, h⟩
      cases hnone
      exact h

/-- All fields are read if each can be, and is the only one with its name. -/
theorem receiveFields_eq_ok (hread : ∀ other ∈ read, other.Readable max)
    (hnames : (read.map Field.name).Nodup) :
    receiveFields max part (.of read) fields folder = (.ok next, reached) ↔
      ((read ++ fields).map Field.name).Nodup ∧ (∀ field ∈ fields, field.Readable max) ∧
      next = .of (read ++ fields) ∧ Kept part folder (fields.filter (named "file")) reached := by
  induction fields generalizing read folder with
  | nil =>
      rw [List.append_nil]
      constructor
      · intro h
        obtain ⟨hnext, rfl⟩ := Prod.mk.inj h
        exact ⟨hnames, by simp, (Ended.ok.inj hnext).symm, .none⟩
      · rintro ⟨-, -, rfl, hkept⟩
        cases hkept
        rfl
  | cons field fields ih =>
      simp only [receiveFields, Faulty.bind_eq_ok, receiveField_eq_ok hread]
      -- the other fields are read with this one in addition
      have hlater := fun between (hfield : field.Readable max)
          (hnew : field.name ∉ read.map Field.name) =>
        @ih between (read ++ [field]) (List.forall_mem_append.mpr ⟨hread, by simpa using hfield⟩)
          (by simpa [List.nodup_append, hnames] using hnew)
      constructor
      · rintro ⟨_, between, ⟨hfield, hnew, rfl, hkept⟩, hrest⟩
        obtain ⟨hnodup, hall, hnext, hrest⟩ := (hlater between hfield hnew).mp hrest
        rw [List.append_assoc] at hnodup hnext
        have hother := hnodup
        rw [List.map_append, List.map_append] at hother
        refine ⟨hnodup, List.forall_mem_cons.mpr ⟨hfield, hall⟩, hnext, (kept_cons ?_).mpr
          ⟨between, hkept, hrest⟩⟩
        exact (List.nodup_cons.mp (List.nodup_append.mp hother).2.1).1
      · rintro ⟨hnodup, hall, rfl, hkept⟩
        obtain ⟨hfield, hall⟩ := List.forall_mem_cons.mp hall
        have hother := hnodup
        rw [List.map_append, List.map_cons, List.nodup_middle, List.nodup_cons, List.mem_append,
          not_or] at hother
        obtain ⟨between, hfirst, hrest⟩ := (kept_cons hother.1.2).mp hkept
        refine ⟨_, between, ⟨hfield, hother.1.1, rfl, hfirst⟩,
          (hlater between hfield hother.1.1).mpr ⟨?_, hall, ?_, hrest⟩⟩
        · rwa [List.append_assoc]
        · rw [List.append_assoc]
          rfl

theorem receive_eq_ok {received : Received} {body : Multipart} :
    receive max part body folder = (.ok received, reached) ↔
      body.complete = true ∧ (body.fields.map Field.name).Nodup ∧
      (∀ field ∈ body.fields, field.Readable max) ∧ received = .of body.fields ∧
      Kept part folder (body.fields.filter (named "file")) reached := by
  have hfields := fun next reached => @receiveFields_eq_ok max part folder reached next []
    body.fields (by simp) (by simp)
  rw [receive, Faulty.bind_eq_ok]
  simp only [show Received.none = .of [] from rfl, hfields, check_eq_ok, Bool.not_eq_false,
    List.nil_append]
  constructor
  · rintro ⟨_, between, ⟨hnames, hall, rfl, hkept⟩, hcomplete, hpure⟩
    obtain ⟨hsame, rfl⟩ := Prod.mk.inj hpure
    exact ⟨hcomplete, hnames, hall, (Ended.ok.inj hsame).symm, hkept⟩
  · rintro ⟨hcomplete, hnames, hall, rfl, hkept⟩
    exact ⟨_, reached, ⟨hnames, hall, rfl, hkept⟩, hcomplete, rfl⟩

end Fields

/-! ### Getting to the final name -/

/-- What is to be said about a file with these texts, unless the label or the generation is
missing. -/
def Staged.ofTexts (texts : MetadataField → Option String) : Option Staged :=
  ((texts .label).filter fun label => !label.isEmpty).bind fun label =>
    ((texts .expectedGeneration).bind (parseUnsigned (2 ^ 64))).map fun generation => {
      label
      expectedGeneration := UInt64.ofNat generation
      architecture := (texts .architecture).filter fun value => !value.isEmpty
      expectedSha256 := (texts .expectedSha256).filter fun value => !value.isEmpty }

/-- An upload gets to rename its file, as far as its fields and the storage are concerned: every
field can be read and no two have one name, there is a file, a label and a generation, and the
storage reports no failure. The directory was the first call of the storage. -/
structure Renames (max : UInt64) (body : Multipart) (replies : ℕ → StorageReply) (file : Field)
    (staged : Staged) (content : List UInt8) (lost : Bool) : Prop where
  complete : body.complete = true
  names : (body.fields.map Field.name).Nodup
  readable : ∀ field ∈ body.fields, field.Readable max
  only : body.fields.filter (named "file") = [file]
  described : Staged.ofTexts (textOf body.fields) = some staged
  created : replies 1 = .done
  stored : ∃ last, Stores replies 2 false file.chunks content last lost ∧
    replies last = .done ∧ replies (last + 1) = .done

section Renames

variable {max : UInt64} {body : Multipart} {replies : ℕ → StorageReply} {file : Field}
  {staged : Staged} {content : List UInt8} {lost : Bool}

theorem Renames.whole (h : Renames max body replies file staged content lost) : Whole max file := by
  obtain ⟨hmem, hname⟩ := List.mem_filter.mp (h.only ▸ List.mem_singleton_self file :
    file ∈ body.fields.filter (named "file"))
  exact (h.readable file hmem).whole (of_decide_eq_true hname)

/-- No metadata field is there twice. -/
theorem Renames.once (h : Renames max body replies file staged content lost)
    (slot : MetadataField) :
    (body.fields.filter (named slot.name)).length ≤ 1 := by
  have hcount : (body.fields.map Field.name).count (some slot.name) =
      (body.fields.filter (named slot.name)).length := by
    rw [List.count, List.countP_map, List.countP_eq_length_filter]
    exact congrArg List.length (List.filter_congr fun field _ => beq_eq_decide _ _)
  rw [← hcount]
  exact List.nodup_iff_count_le_one.mp h.names _

/-- The file has all of its content unless something was lost. -/
theorem Renames.content_eq_iff (h : Renames max body replies file staged content lost) :
    content = file.bytes ↔ lost = false := by
  obtain ⟨last, hstored, -⟩ := h.stored
  exact hstored.content_eq_iff.2 rfl

end Renames

section Preparing

variable {max : UInt64} {part ready : OsString} {folder reached : Folder OsString}
  {received : Received} {staged : Staged} {body : Multipart}

/-- The file gets its final name, or what stands under the name of the staging file is removed. -/
theorem stage_cases (part ready : OsString) (received : Received) :
    (∃ staged, Staged.ofTexts received.texts = some staged ∧ received.uploaded = true ∧
      stage part ready received = (do
        match ← attempt (rename part ready) with
        | .error () => discard part ⟨500, storageUnavailable⟩
        | .ok () => return staged)) ∨
    (∀ staged, Staged.ofTexts received.texts = some staged → received.uploaded = false) ∧
      ∃ rejection, stage part ready received = discard part rejection := by
  unfold stage Staged.ofTexts
  cases (received.texts .label).filter fun label => !label.isEmpty with
  | none => exact .inr ⟨by simp, _, rfl⟩
  | some label =>
      cases (received.texts .expectedGeneration).bind (parseUnsigned (2 ^ 64)) with
      | none => exact .inr ⟨by simp, _, rfl⟩
      | some generation =>
          cases received.uploaded with
          | false => exact .inr ⟨fun _ _ => rfl, _, rfl⟩
          | true => exact .inl ⟨_, rfl, rfl, rfl⟩

theorem stage_eq_ok : stage part ready received folder = (.ok staged, reached) ↔
    Staged.ofTexts received.texts = some staged ∧ received.uploaded = true ∧
      rename part ready folder = (.ok (), reached) := by
  rcases stage_cases part ready received with ⟨found, hfound, huploaded, heq⟩ |
    ⟨hnone, rejection, heq⟩
  · rw [heq, hfound, huploaded]
    rcases rename_cases part ready folder with ⟨last, hrename⟩ | ⟨last, hrename, -⟩
    · rw [bind_of_ok (attempt_of_ok hrename), hrename]
      show ((.ok found, last) : Ended _ _ × _) = _ ↔ _
      simp
    · rw [bind_of_ok (attempt_of_error hrename), hrename]
      exact iff_of_false (by intro h; cases h) (by simp)
  · rw [heq]
    refine iff_of_false (by intro h; cases h) ?_
    rintro ⟨htexts, huploaded, -⟩
    cases huploaded.symm.trans (hnone staged htexts)

theorem prepare_eq_ok : prepare max part ready body folder = (.ok staged, reached) ↔
    ∃ received between, receive max part body folder = (.ok received, between) ∧
      stage part ready received between = (.ok staged, reached) := by
  unfold prepare
  rcases hreceive : receive max part body folder with ⟨ended, between⟩
  cases ended with
  | ok received =>
      rw [bind_of_ok (attempt_of_ok hreceive)]
      simp
  | error code =>
      rw [bind_of_ok (attempt_of_error hreceive)]
      exact iff_of_false (by intro h; cases h) (by simp)
  | stopped =>
      rw [show (attempt (receive max part body) >>= _) folder = (.stopped, between) by
        simp [Bind.bind, Faulty.andThen, attempt, hreceive]]
      simp

/-- The file of an upload gets its final name exactly if the name of its staging file is free and
the fields and the storage let it. -/
theorem prepare_eq_ok_iff (hcalls : folder.calls = 1) (hreported : folder.unreported = false)
    {files : OsString → Option (List UInt8)} :
    (∃ reached, prepare max part ready body folder = (.ok staged, reached) ∧
      reached.files = files) ↔
    folder.files part = none ∧ ∃ file content lost,
      Renames max body folder.replies file staged content lost ∧
        files = Function.update folder.files ready (some content) := by
  simp only [prepare_eq_ok, stage_eq_ok, receive_eq_ok, rename_eq_ok]
  -- the staging file is gone after the renaming, as it was before
  have hfiles : ∀ content, folder.files part = none → Function.update (Function.update
      (Function.update folder.files part (some content)) part none) ready (some content) =
        Function.update folder.files ready (some content) := by
    intro content hfree
    rw [Function.update_idem, ← hfree, Function.update_eq_self]
  constructor
  · rintro ⟨_, ⟨_, between, ⟨hcomplete, hnames, hread, rfl, hkept⟩, htexts, huploaded, hrenamed,
      content, hcontent, rfl⟩, rfl⟩
    generalize honly : body.fields.filter (named "file") = files at hkept
    cases hkept with
    | none =>
        obtain ⟨file, hfile, hname⟩ := List.any_eq_true.mp huploaded
        exact absurd honly (List.ne_nil_of_mem (List.mem_filter.mpr ⟨hfile, hname⟩))
    | @file file stored last lost hfree hcreated hstored hsynced =>
        rw [hcalls] at hcreated hstored
        rw [hreported] at hstored
        obtain rfl := Option.some.inj ((Function.update_self part _ _).symm.trans hcontent)
        exact ⟨hfree, file, stored, lost, ⟨hcomplete, hnames, hread, honly, htexts, hcreated,
          last, hstored, hsynced, hrenamed⟩, hfiles stored hfree⟩
  · rintro ⟨hfree, file, content, lost, h, rfl⟩
    obtain ⟨last, hstored, hsynced, hrenamed⟩ := h.stored
    have hcreated := h.created
    rw [← hcalls] at hcreated
    rw [show 2 = folder.calls + 1 by rw [hcalls], ← hreported] at hstored
    have hkept := Kept.file hfree hcreated hstored hsynced
    rw [← h.only] at hkept
    have hmem : file ∈ body.fields.filter (named "file") := h.only ▸ List.mem_singleton_self file
    exact ⟨_, ⟨_, _, ⟨h.complete, h.names, h.readable, rfl, hkept⟩, h.described,
      List.any_eq_true.mpr ⟨file, List.mem_filter.mp hmem⟩, hrenamed, content,
      Function.update_self _ _ _, rfl⟩, hfiles content hfree⟩

/-- While the fields are read, only the staging file changes. -/
theorem endsWithin_receiveChunks (written : ℕ) (chunks : List (List UInt8)) :
    EndsWithin (Within [part]) (receiveChunks max part written chunks) := by
  induction chunks generalizing written with
  | nil => exact endsWithin_pure _
  | cons chunk chunks ih =>
      exact (endsWithin_ofExcept _).bind fun _ => (endsWithin_ofExcept _).bind fun _ =>
        ((endsWithin_append part chunk).mapError _).bind fun _ => ih _

theorem endsWithin_receiveField (received : Received) (field : Field) :
    EndsWithin (Within [part]) (receiveField max part received field) := by
  unfold receiveField
  split
  · exact Faulty.endsWithin_fail _
  split
  · refine (endsWithin_ofExcept _).bind fun _ => EndsWithin.bind ?_ fun _ =>
      endsWithin_pure _
    exact ((endsWithin_createNew part).mapError _).bind fun _ =>
      (endsWithin_receiveChunks 0 field.chunks).bind fun _ =>
        (endsWithin_ofExcept _).bind fun _ => (endsWithin_ofExcept _).bind fun _ =>
          (endsWithin_sync [part]).mapError _
  · split
    · exact Faulty.endsWithin_fail _
    · exact endsWithin_ofExcept _

theorem endsWithin_receive (body : Multipart) :
    EndsWithin (Within [part]) (receive max part body) := by
  have hfields : ∀ received, EndsWithin (Within [part])
      (receiveFields max part received body.fields) := by
    induction body.fields with
    | nil => exact fun _ => endsWithin_pure _
    | cons field fields ih => exact fun _ => (endsWithin_receiveField _ field).bind fun _ => ih _
  exact (hfields _).bind fun _ => (endsWithin_ofExcept _).bind fun _ =>
    endsWithin_pure _

/-- An upload that is not staged has removed what stood under the name of the staging file, and
changed nothing else. -/
theorem prepare_cases (max : UInt64) (part ready : OsString) (body : Multipart)
    (folder : Folder OsString) :
    (∃ staged reached, prepare max part ready body folder = (.ok staged, reached)) ∨
      ∃ rejection reached, prepare max part ready body folder = (.error rejection, reached) ∧
        reached.files = Function.update folder.files part none := by
  obtain ⟨hended, hwithin⟩ := @endsWithin_receive max part body folder
  rcases hreceive : receive max part body folder with ⟨ended, between⟩
  rw [hreceive] at hended hwithin
  have hremoved : ∀ reached : Folder OsString, reached.files = between.files →
      Function.update reached.files part none = Function.update folder.files part none := by
    intro reached hreached
    funext other
    by_cases hother : other = part
    · rw [hother, Function.update_self, Function.update_self]
    · rw [Function.update_of_ne hother, Function.update_of_ne hother, hreached]
      exact hwithin other (by simpa using hother)
  cases ended with
  | stopped => exact absurd rfl hended
  | error code =>
      exact .inr ⟨_, _, bind_of_ok (attempt_of_error hreceive), hremoved _ rfl⟩
  | ok received =>
      have hstage : prepare max part ready body folder = stage part ready received between :=
        bind_of_ok (attempt_of_ok hreceive)
      rw [hstage]
      rcases stage_cases part ready received with ⟨staged, -, -, heq⟩ | ⟨-, rejection, heq⟩
      · rw [heq]
        rcases rename_cases part ready between with ⟨last, hrename⟩ | ⟨last, hrename, hfiles⟩
        · exact .inl ⟨_, _, bind_of_ok (attempt_of_ok hrename)⟩
        · exact .inr ⟨_, _, bind_of_ok (attempt_of_error hrename), hremoved _ hfiles⟩
      · rw [heq]
        exact .inr ⟨_, _, rfl, hremoved _ rfl⟩

end Preparing

/-! ### The request -/

/-- A request goes out for the file, which stays at most until the operation has ended; or the
file is removed, as there is nothing to send. -/
theorem submit_cases (call : UploadCall) (uploadId : String) (ready : OsString) (staged : Staged)
    (folder : Folder OsString) :
    (call.toVec (staged.mutation ready) = none ∧ ∃ rejection reached,
      submit call uploadId ready staged folder = (.error rejection, reached) ∧
        reached.files = Function.update folder.files ready none) ∨
    ∃ body sent reached, call.toVec (staged.mutation ready) = some body ∧
      submit call uploadId ready staged folder = (.ok sent, reached) ∧
      sent.mutation = staged.mutation ready ∧ sent.request.body = body ∧
      sent.files = folder.files ∧ (reached.files = folder.files ∨
        reached.files = Function.update folder.files ready none) := by
  unfold submit
  cases hbody : call.toVec (staged.mutation ready) with
  | none => exact .inl ⟨rfl, _, _, rfl, rfl⟩
  | some body =>
      refine .inr ⟨body, ?_⟩
      have hget : ∀ next : Folder OsString → Staging Rejection Forwarded,
          (Faulty.get >>= next) folder = next folder folder := fun _ => rfl
      simp only [hget]
      cases call.execute uploadId ⟨"POST", "/1.0/os-images", body⟩ with
      | answered status operation polls =>
          by_cases haccepted : status = 202
          · simp only [if_pos haccepted, cleanupAfterOperation]
            split
            · exact ⟨_, _, trivial, rfl, rfl, rfl, rfl, .inr rfl⟩
            · exact ⟨_, _, trivial, rfl, rfl, rfl, rfl, .inl rfl⟩
          · simp only [if_neg haccepted]
            exact ⟨_, _, trivial, rfl, rfl, rfl, rfl, .inr rfl⟩
      | unavailable | crashed => exact ⟨_, _, trivial, rfl, rfl, rfl, rfl, .inr rfl⟩

/-! ### Uploads without traces -/

/-- The two names an upload uses. -/
def uploadPart (config : GatewayConfig) (process : Process) : OsString :=
  partPath config.uploadDir (generatedRequestId process).1

def uploadReady (config : GatewayConfig) (process : Process) : OsString :=
  readyPath config.uploadDir (generatedRequestId process).1

/-- The headers announce a body that is not too long, with this boundary. -/
structure HeadersPass (config : GatewayConfig) (call : UploadCall) (boundary : String) : Prop where
  length : ∃ length, (call.headers.text "content-length").bind (parseUnsigned (2 ^ 64)) =
    some length ∧ 0 < length ∧ length ≤ config.maxUploadBytes.toNat + 64 * 1024
  boundary : (call.headers.text "content-type").bind call.parseBoundary = some boundary

theorem uploadBoundary_eq_ok {config : GatewayConfig} {call : UploadCall} {boundary : String} :
    uploadBoundary config call = .ok boundary ↔ HeadersPass config call boundary := by
  unfold uploadBoundary
  rw [bind_eq_ok]
  simp only [guard_eq_ok, rejectIf_eq_ok, okOr_eq_ok]
  constructor
  · rintro ⟨length, hlength, hlimit, hboundary⟩
    exact ⟨⟨length, hlength, by omega⟩, hboundary⟩
  · rintro ⟨⟨length, hlength, hlimit⟩, hboundary⟩
    have hword : length < 2 ^ 64 := by
      obtain ⟨text, -, htext⟩ := Option.bind_eq_some_iff.mp hlength
      exact parseUnsigned_lt htext
    exact ⟨length, hlength, by omega, hboundary⟩

/-- Files that were there stay as they are. An upload that sends no request leaves no file; a
request that is sent names a new file with the content of the only file field. -/
structure Tidy (config : GatewayConfig) (call : UploadCall)
    (before : OsString → Option (List UInt8)) (ended : Ended Rejection Forwarded)
    (after : OsString → Option (List UInt8)) : Prop where
  kept : ∀ path content, before path = some content → after path = some content
  clean : (∀ sent, ended ≠ .ok sent) → ∀ path, before path = none → after path = none
  sent : ∀ sent, ended = .ok sent → call.toVec sent.mutation = some sent.request.body ∧
    ∃ boundary field, uploadBoundary config call = .ok boundary ∧
      (call.multipart boundary).fields.filter (named "file") = [field] ∧
      Whole config.maxUploadBytes field ∧
      (∀ slot : MetadataField,
        ((call.multipart boundary).fields.filter (named slot.name)).length ≤ 1) ∧
      before (.ofString sent.mutation.sourcePath) = none ∧
      sent.files (.ofString sent.mutation.sourcePath) = some field.bytes

section Tidy

variable {config : GatewayConfig} {process : Process} {call : UploadCall}
  {before : OsString → Option (List UInt8)} {replies : ℕ → StorageReply}

/-- The final name can be sent to the daemon when the name of the directory is text. -/
theorem toStr_uploadReady_isSome :
    (uploadReady config process).toStr.isSome = true ↔ config.uploadDir.toStr.isSome = true := by
  have hgateway : utf8Bytes "gateway-" = 103 :: utf8Bytes "ateway-" := by decide +kernel
  have hname : utf8Bytes ((generatedRequestId process).1 ++ ".ready") = 103 :: (utf8Bytes "ateway-" ++
      utf8Bytes (toString process.id.toNat ++ "-" ++ toString process.requestSequence.toNat ++
        ".ready")) := by
    simp only [generatedRequestId, utf8Bytes_append, hgateway, List.cons_append, List.append_assoc]
  exact OsString.toStr_join_isSome hname (by decide)

/-- Without a request, an upload is tidy if the files are as they were. -/
theorem tidy_of_rejection {rejection : Rejection} {after : OsString → Option (List UInt8)} :
    Tidy config call before (.error rejection) after ↔ after = before := by
  constructor
  · intro htidy
    funext path
    cases hpath : before path with
    | none => exact htidy.clean (by simp) path hpath
    | some content => exact htidy.kept path content hpath
  · rintro rfl
    exact ⟨fun _ _ h => h, fun _ _ h => h, by simp⟩

theorem update_none_eq_iff {path : OsString} :
    Function.update before path none = before ↔ before path = none := by
  constructor
  · intro h
    rw [← h, Function.update_self]
  · intro h
    rw [← h, Function.update_eq_self]

/-- A request is as it should be if it names the new file, and the file has all of its
content. -/
theorem tidy_of_sent {boundary : String} {file : Field} {staged : Staged} {content : List UInt8}
    {lost : Bool} {sent : Forwarded} {after : OsString → Option (List UInt8)}
    (hheaders : HeadersPass config call boundary)
    (h : Renames config.maxUploadBytes (call.multipart boundary) replies file staged content lost)
    (hmutation : sent.mutation = staged.mutation (uploadReady config process))
    (hbody : call.toVec sent.mutation = some sent.request.body)
    (hfiles : sent.files = Function.update before (uploadReady config process) (some content))
    (hafter : after = sent.files ∨
      after = Function.update sent.files (uploadReady config process) none) :
    Tidy config call before (.ok sent) after ↔ before (uploadReady config process) = none ∧
      config.uploadDir.toStr.isSome = true ∧ lost = false := by
  have hsource : sent.mutation.sourcePath = (uploadReady config process).toStringLossy := by
    rw [hmutation]
    rfl
  constructor
  · intro htidy
    obtain ⟨-, other, field, hother, honly, -, -, hnew, hfile⟩ := htidy.sent sent rfl
    obtain rfl : boundary = other :=
      Except.ok.inj ((uploadBoundary_eq_ok.mpr hheaders).symm.trans hother)
    obtain rfl : file = field := (List.cons.inj (h.only.symm.trans honly)).1
    -- otherwise the request names another file, which is not there
    have hname : OsString.ofString sent.mutation.sourcePath = uploadReady config process := by
      by_contra hne
      rw [hfiles, Function.update_of_ne hne, hnew] at hfile
      cases hfile
    rw [hname] at hnew hfile
    rw [hfiles, Function.update_self] at hfile
    refine ⟨hnew, ?_, h.content_eq_iff.mp (Option.some.inj hfile)⟩
    rw [hsource] at hname
    exact toStr_uploadReady_isSome.mp (OsString.ofString_toStringLossy.mp hname)
  · rintro ⟨hfree, hdir, hlost⟩
    have hname : OsString.ofString sent.mutation.sourcePath = uploadReady config process := by
      rw [hsource]
      exact OsString.ofString_toStringLossy.mpr (toStr_uploadReady_isSome.mpr hdir)
    refine ⟨fun path found hpath => ?_, fun hnone => absurd rfl (hnone sent), ?_⟩
    · have hne : path ≠ uploadReady config process := by
        rintro rfl
        cases hfree.symm.trans hpath
      rcases hafter with rfl | rfl
      · rw [hfiles, Function.update_of_ne hne, hpath]
      · rw [Function.update_of_ne hne, hfiles, Function.update_of_ne hne, hpath]
    · rintro other hother
      obtain rfl := Ended.ok.inj hother
      refine ⟨hbody, boundary, file, uploadBoundary_eq_ok.mpr hheaders, h.only, h.whole, h.once, ?_⟩
      rw [hname, hfiles, Function.update_self, h.content_eq_iff.mpr hlost]
      exact ⟨hfree, rfl⟩

/-- With a directory to write to, the body is read. -/
theorem handle_of_done {boundary : String} (hheaders : HeadersPass config call boundary)
    (hdone : replies 0 = .done) :
    handleOsImageUpload config process call (.fresh before replies) =
      (prepare config.maxUploadBytes (uploadPart config process) (uploadReady config process)
        (call.multipart boundary) >>= fun staged => submit call (generatedRequestId process).1
          (uploadReady config process) staged) ⟨before, replies, 1, false⟩ := by
  have hdir : sync (fresh before replies) = (.ok (), ⟨before, replies, 1, false⟩) :=
    sync_eq_ok.mpr ⟨hdone, rfl⟩
  unfold handleOsImageUpload
  rw [Faulty.ofExcept_bind_of_ok (uploadBoundary_eq_ok.mpr hheaders)]
  exact bind_of_ok (Faulty.mapError_of_ok hdir)

/-- Without a directory to write to, nothing is done. -/
theorem handle_of_not_done {boundary : String} (hheaders : HeadersPass config call boundary)
    (hdone : replies 0 ≠ .done) : ∃ rejection reached,
      handleOsImageUpload config process call (.fresh before replies) = (.error rejection, reached) ∧
        reached.files = before := by
  rcases call_cases some (fresh before replies) with ⟨reached, hdir⟩ |
    ⟨reached, hdir, hfiles⟩
  · exact absurd (sync_eq_ok.mp hdir).1 hdone
  · refine ⟨⟨500, storageUnavailable⟩, reached, ?_, hfiles⟩
    unfold handleOsImageUpload
    rw [Faulty.ofExcept_bind_of_ok (uploadBoundary_eq_ok.mpr hheaders)]
    exact Faulty.bind_of_error (Faulty.mapError_of_error hdir)

/-- An upload whose body is read is tidy if the name of the staging file is free, and the final
name too if the file gets to be renamed. -/
theorem tidy_of_done {boundary : String} (hheaders : HeadersPass config call boundary)
    (hdone : replies 0 = .done) :
    Tidy config call before
      (handleOsImageUpload config process call (.fresh before replies)).1
      (handleOsImageUpload config process call (.fresh before replies)).2.files ↔
    before (uploadPart config process) = none ∧ ∀ file staged content lost,
        Renames config.maxUploadBytes (call.multipart boundary) replies file staged content lost →
        before (uploadReady config process) = none ∧
        ((call.toVec (staged.mutation (uploadReady config process))).isSome = true →
          config.uploadDir.toStr.isSome = true ∧ lost = false) := by
  rw [handle_of_done hheaders hdone]
  rcases prepare_cases config.maxUploadBytes (uploadPart config process)
    (uploadReady config process) (call.multipart boundary) ⟨before, replies, 1, false⟩ with
    ⟨staged, reached, hprepare⟩ | ⟨rejection, reached, hprepare, hfiles⟩
  · -- the file was renamed
    obtain ⟨hpart, file, content, lost, hrenames, hfiles⟩ :=
      (prepare_eq_ok_iff rfl rfl).mp ⟨reached, hprepare, rfl⟩
    have hall {P : Staged → Bool → Prop} : (∀ file staged content lost,
        Renames config.maxUploadBytes (call.multipart boundary) replies file staged content lost →
        P staged lost) ↔ P staged lost := by
      refine ⟨fun h => h file staged content lost hrenames, fun h found other bytes gone hother => ?_⟩
      obtain ⟨again, hagain, hsame⟩ :=
        (prepare_eq_ok_iff rfl rfl).mpr ⟨hpart, found, bytes, gone, hother, rfl⟩
      obtain ⟨hstaged, rfl⟩ := Prod.mk.inj (hprepare.symm.trans hagain)
      obtain rfl := Ended.ok.inj hstaged
      obtain rfl : file = found := (List.cons.inj (hrenames.only.symm.trans hother.only)).1
      have hbytes := congrFun (hfiles.symm.trans hsame) (uploadReady config process)
      rw [Function.update_self, Function.update_self, Option.some.injEq] at hbytes
      have hlost : gone = false ↔ lost = false := by
        rw [← hother.content_eq_iff, ← hbytes, hrenames.content_eq_iff]
      obtain rfl : gone = lost := by grind
      exact h
    rw [bind_of_ok hprepare, hall, and_iff_right hpart]
    rcases submit_cases call (generatedRequestId process).1 (uploadReady config process) staged
      reached with ⟨hnone, rejection, last, hsubmit, hlast⟩ |
        ⟨body, sent, last, hsome, hsubmit, hmutation, hbody, hsent, hlast⟩
    · rw [hsubmit, tidy_of_rejection, hlast, hfiles, hnone, Function.update_idem, update_none_eq_iff]
      simp
    · rw [hsubmit, hsome]
      simpa using tidy_of_sent hheaders hrenames hmutation
        (by rw [hmutation, hsome, hbody]) (hsent.trans hfiles) (hsent.symm ▸ hlast)
  · -- the staging file was removed
    rw [Faulty.bind_of_error hprepare, tidy_of_rejection, hfiles, update_none_eq_iff]
    refine ⟨fun hpart => ⟨hpart, fun file staged content lost hrenames => ?_⟩, And.left⟩
    obtain ⟨again, hagain, -⟩ :=
      (prepare_eq_ok_iff rfl rfl).mpr ⟨hpart, file, content, lost, hrenames, rfl⟩
    cases hprepare.symm.trans hagain

/-- An upload is tidy exactly if the names are free that it gets to use, and if a request goes
out the name of the directory is text and no failed write has gone unnoticed. The name of the
staging file is used when the headers pass and the directory is there, the final name when the
file gets to be renamed. -/
theorem upload_tidy_iff (config : GatewayConfig) (process : Process) (call : UploadCall)
    (before : OsString → Option (List UInt8)) (replies : ℕ → StorageReply) :
    Tidy config call before
      (handleOsImageUpload config process call (.fresh before replies)).1
      (handleOsImageUpload config process call (.fresh before replies)).2.files ↔
    ∀ boundary, HeadersPass config call boundary → replies 0 = .done →
      before (uploadPart config process) = none ∧
      ∀ file staged content lost,
        Renames config.maxUploadBytes (call.multipart boundary) replies file staged content lost →
        before (uploadReady config process) = none ∧
        ((call.toVec (staged.mutation (uploadReady config process))).isSome = true →
          config.uploadDir.toStr.isSome = true ∧ lost = false) := by
  cases hcheck : uploadBoundary config call with
  | error rejection =>
      have hrun : handleOsImageUpload config process call (.fresh before replies) =
          (.error rejection, .fresh before replies) := Faulty.ofExcept_bind_of_error hcheck
      rw [hrun, tidy_of_rejection]
      refine ⟨fun _ boundary hheaders => ?_, fun _ => rfl⟩
      cases hcheck.symm.trans (uploadBoundary_eq_ok.mpr hheaders)
  | ok boundary =>
      have hheaders := uploadBoundary_eq_ok.mp hcheck
      by_cases hdone : replies 0 = .done
      · rw [tidy_of_done hheaders hdone]
        constructor
        · intro h other hother _
          obtain rfl : boundary = other :=
            Except.ok.inj (hcheck.symm.trans (uploadBoundary_eq_ok.mpr hother))
          exact h
        · exact fun h => h boundary hheaders hdone
      · obtain ⟨rejection, reached, hrun, hfiles⟩ :=
          @handle_of_not_done config process call before replies boundary hheaders hdone
        rw [hrun, tidy_of_rejection, hfiles]
        exact ⟨fun _ _ _ h => absurd h hdone, fun _ => rfl⟩

end Tidy

/-! ### A file of an earlier process -/

/-- An upload of these fields, for a daemon that is not there. -/
def plainCall (fields : List Field) : UploadCall where
  headers := [("content-length", [49]), ("content-type", [])]
  parseBoundary _ := some ""
  multipart _ := ⟨fields, true⟩
  toVec _ := some []
  execute _ _ := .unavailable

/-- The staging file of an earlier process with the same id. -/
def leftover (path : OsString) : Option (List UInt8) :=
  if path = .ofString "/var/lib/kernmux/images/uploads/gateway-17-1.part" then some [1] else none

/-- An upload without fields is refused, and takes the file of the earlier process away. -/
theorem leftover_taken_away :
    let run := handleOsImageUpload localGateway ⟨17, 1⟩ (plainCall [])
      (.fresh leftover fun _ => .done)
    ¬ Tidy localGateway (plainCall []) leftover run.1 run.2.files := by
  intro run htidy
  have hname : uploadPart localGateway ⟨17, 1⟩ =
      .ofString "/var/lib/kernmux/images/uploads/gateway-17-1.part" := by decide +kernel
  have hheaders : HeadersPass localGateway (plainCall []) "" :=
    ⟨⟨1, by decide +kernel, by decide, by omega⟩, by decide +kernel⟩
  have hfree := ((tidy_of_done hheaders rfl).mp htidy).1
  rw [hname, leftover, if_pos rfl] at hfree
  cases hfree

end Kernmux.Gateway
