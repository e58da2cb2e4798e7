import Kernmux.Library.Stream
import Kernmux.Library.Text
import Mathlib.Logic.Function.Basic

/-!
# Kernmux.Library.Disk

**Files on a disk of which every call may fail or be the last.** Directories
give names to inodes, and a file that is still being written has no name but
its temporary one. A `Device` is a disk with the replies it is going to give:
a call is carried out, fails, or never returns because the process is gone, and
a write may have got some of its bytes to the disk before that.

`Grows` is what publication by hard links does to a disk: directories only gain
names, and what has a name is never written again.
-/

namespace Kernmux.Library

open Faulty

variable {name : OsString} {inode : ℕ} {entry : OsString × ℕ}

/-- What an inode holds; files have permission bits. -/
inductive Node
  | file (content : List UInt8) (mode : UInt32)
  | symlink
  | directory
  deriving DecidableEq, Repr

def Node.length : Node → ℕ
  | .file content _ => content.length
  | .symlink | .directory => 0

/-- Directories `δ` over numbered inodes. The numbers from `next` on are free. -/
structure Disk (δ : Type) where
  nodes : ℕ → Node
  entries : δ → List (OsString × ℕ)
  /-- The files in the directory for temporary files; their names are random. -/
  temporary : List ℕ
  next : ℕ
  entries_lt : ∀ directory, ∀ entry ∈ entries directory, entry.2 < next
  temporary_lt : ∀ inode ∈ temporary, inode < next

namespace Disk

variable {δ : Type}

/-- Nothing has a name yet. -/
def empty : Disk δ := ⟨fun _ => .directory, fun _ => [], [], 0, nofun, nofun⟩

/-- The inode under a name. -/
def find (disk : Disk δ) (directory : δ) (name : OsString) : Option ℕ :=
  ((disk.entries directory).find? fun entry => entry.1 = name).map Prod.snd

def setNode (disk : Disk δ) (inode : ℕ) (node : Node) : Disk δ :=
  { disk with nodes := Function.update disk.nodes inode node }

/-- Bytes at the end of a file. -/
def append (disk : Disk δ) (inode : ℕ) (bytes : List UInt8) : Disk δ :=
  match disk.nodes inode with
  | .file content mode => disk.setNode inode (.file (content ++ bytes) mode)
  | .symlink | .directory => disk

def setMode (disk : Disk δ) (inode : ℕ) (mode : UInt32) : Disk δ :=
  match disk.nodes inode with
  | .file content _ => disk.setNode inode (.file content mode)
  | .symlink | .directory => disk

theorem entries_lt_succ (disk : Disk δ) (directory : δ) (entry : OsString × ℕ)
    (h : entry ∈ disk.entries directory) : entry.2 < disk.next + 1 :=
  Nat.lt_succ_of_lt (disk.entries_lt directory entry h)

theorem temporary_lt_succ (disk : Disk δ) (inode : ℕ) (h : inode ∈ disk.temporary ++ [disk.next]) :
    inode < disk.next + 1 := by
  rcases List.mem_append.mp h with h | h
  · exact Nat.lt_succ_of_lt (disk.temporary_lt inode h)
  · rw [List.mem_singleton.mp h]
    exact Nat.lt_succ_self _

/-- A new temporary file that only its owner may write. -/
def create (disk : Disk δ) : Disk δ where
  nodes := Function.update disk.nodes disk.next (.file [] 0o600)
  entries := disk.entries
  temporary := disk.temporary ++ [disk.next]
  next := disk.next + 1
  entries_lt := disk.entries_lt_succ
  temporary_lt := disk.temporary_lt_succ

theorem erase_lt (disk : Disk δ) (inode other : ℕ) (h : other ∈ disk.temporary.erase inode) :
    other < disk.next :=
  disk.temporary_lt other (List.mem_of_mem_erase h)

/-- The temporary name of a file is gone. -/
def unlinkTemporary (disk : Disk δ) (inode : ℕ) : Disk δ where
  nodes := disk.nodes
  entries := disk.entries
  temporary := disk.temporary.erase inode
  next := disk.next
  entries_lt := disk.entries_lt
  temporary_lt := disk.erase_lt inode

variable [DecidableEq δ]

/-- Directories with one more name. -/
def withEntry (disk : Disk δ) (directory : δ) (name : OsString) (inode : ℕ) :
    δ → List (OsString × ℕ) :=
  Function.update disk.entries directory (disk.entries directory ++ [(name, inode)])

theorem mem_withEntry {disk : Disk δ} {directory other : δ}
    (h : entry ∈ disk.withEntry directory name inode other) :
    entry ∈ disk.entries other ∨ other = directory ∧ entry = (name, inode) := by
  unfold withEntry at h
  by_cases hother : other = directory
  · subst hother
    rw [Function.update_self, List.mem_append, List.mem_singleton] at h
    exact h.imp_right fun hentry => ⟨rfl, hentry⟩
  · rw [Function.update_of_ne hother] at h
    exact .inl h

theorem withEntry_lt (disk : Disk δ) (hinode : inode ∈ disk.temporary) (directory : δ)
    (name : OsString) (other : δ) (entry : OsString × ℕ)
    (h : entry ∈ disk.withEntry directory name inode other) : entry.2 < disk.next := by
  rcases mem_withEntry h with h | ⟨-, rfl⟩
  · exact disk.entries_lt other entry h
  · exact disk.temporary_lt inode hinode

/-- A name for a temporary file. -/
def link (disk : Disk δ) (inode : ℕ) (hinode : inode ∈ disk.temporary) (directory : δ)
    (name : OsString) : Disk δ where
  nodes := disk.nodes
  entries := disk.withEntry directory name inode
  temporary := disk.temporary
  next := disk.next
  entries_lt := disk.withEntry_lt hinode directory name
  temporary_lt := disk.temporary_lt

theorem mem_link {disk : Disk δ} {directory other : δ} {hinode : inode ∈ disk.temporary}
    (h : entry ∈ (disk.link inode hinode directory name).entries other) :
    entry ∈ disk.entries other ∨ other = directory ∧ entry = (name, inode) :=
  mem_withEntry h

end Disk

/-! ### Growth -/

namespace Disk

variable {δ : Type} {before mid after : Disk δ} {directory : δ}

/-- Directories have only gained names, and what had a name has not been written. -/
structure Grows (before after : Disk δ) : Prop where
  entries : ∀ directory, ∃ added, after.entries directory = before.entries directory ++ added
  nodes : ∀ directory, ∀ entry ∈ before.entries directory,
    after.nodes entry.2 = before.nodes entry.2

theorem Grows.mem (h : Grows before after)
    (hentry : entry ∈ before.entries directory) : entry ∈ after.entries directory := by
  obtain ⟨added, hadded⟩ := h.entries directory
  rw [hadded]
  exact List.mem_append_left _ hentry

theorem Grows.refl (disk : Disk δ) : Grows disk disk :=
  ⟨fun _ => ⟨[], (List.append_nil _).symm⟩, fun _ _ _ => rfl⟩

theorem Grows.trans (hfirst : Grows before mid) (hsecond : Grows mid after) :
    Grows before after := by
  refine ⟨fun directory => ?_, fun directory entry hentry => ?_⟩
  · obtain ⟨earlier, hearlier⟩ := hfirst.entries directory
    obtain ⟨later, hlater⟩ := hsecond.entries directory
    exact ⟨earlier ++ later, by rw [hlater, hearlier, List.append_assoc]⟩
  · rw [hsecond.nodes directory entry (hfirst.mem hentry), hfirst.nodes directory entry hentry]

theorem mem_of_find (h : before.find directory name = some inode) :
    (name, inode) ∈ before.entries directory := by
  obtain ⟨entry, hentry, rfl⟩ := Option.map_eq_some_iff.mp h
  have hname := List.find?_some hentry
  obtain rfl : entry.1 = name := of_decide_eq_true hname
  exact List.mem_of_find?_eq_some hentry

/-- What was found under a name is still found there, unchanged. -/
theorem Grows.find (h : Grows before after) (hfind : before.find directory name = some inode) :
    after.find directory name = some inode ∧ after.nodes inode = before.nodes inode := by
  refine ⟨?_, h.nodes directory (name, inode) (mem_of_find hfind)⟩
  obtain ⟨added, hadded⟩ := h.entries directory
  obtain ⟨entry, hentry, rfl⟩ := Option.map_eq_some_iff.mp hfind
  rw [Disk.find, hadded, List.find?_append, hentry]
  rfl

theorem find_isSome_of_mem (h : entry ∈ before.entries directory) :
    ∃ inode, before.find directory entry.1 = some inode := by
  have hsome : ((before.entries directory).find? fun other => other.1 = entry.1).isSome := by
    rw [List.find?_isSome]
    exact ⟨entry, h, decide_eq_true rfl⟩
  obtain ⟨found, hfound⟩ := Option.isSome_iff_exists.mp hsome
  exact ⟨found.2, by rw [Disk.find, hfound]; rfl⟩

/-- Only files without a name have changed. -/
structure Unseen (before after : Disk δ) : Prop where
  entries : after.entries = before.entries
  nodes : ∀ directory, ∀ entry ∈ before.entries directory,
    after.nodes entry.2 = before.nodes entry.2

theorem Unseen.grows (h : Unseen before after) : Grows before after :=
  ⟨fun directory => ⟨[], by rw [h.entries, List.append_nil]⟩, h.nodes⟩

theorem Unseen.refl (disk : Disk δ) : Unseen disk disk := ⟨rfl, fun _ _ _ => rfl⟩

theorem Unseen.trans (hfirst : Unseen before mid) (hsecond : Unseen mid after) :
    Unseen before after :=
  ⟨hsecond.entries.trans hfirst.entries, (hfirst.grows.trans hsecond.grows).nodes⟩

instance : Std.Refl (Unseen (δ := δ)) := ⟨Unseen.refl⟩

instance : IsTrans (Disk δ) Unseen := ⟨fun _ _ _ => Unseen.trans⟩

/-- A temporary file that has no other name yet, and what it holds. -/
structure Draft (inode : ℕ) (content : List UInt8) (mode : UInt32) (disk : Disk δ) : Prop where
  temporary : inode ∈ disk.temporary
  node : disk.nodes inode = .file content mode
  hidden : ∀ directory, ∀ entry ∈ disk.entries directory, entry.2 ≠ inode

theorem unseen_create (disk : Disk δ) : Unseen disk disk.create := by
  refine ⟨rfl, fun directory entry hentry => ?_⟩
  exact Function.update_of_ne (Nat.ne_of_lt (disk.entries_lt directory entry hentry)) _ _

theorem draft_create (disk : Disk δ) : Draft disk.next [] 0o600 disk.create where
  temporary := List.mem_append_right _ List.mem_cons_self
  node := Function.update_self _ _ _
  hidden directory entry hentry := Nat.ne_of_lt (disk.entries_lt directory entry hentry)

section Draft

variable {content bytes : List UInt8} {mode : UInt32}

theorem Draft.unseen_setNode (h : Draft inode content mode before) (node : Node) :
    Unseen before (before.setNode inode node) :=
  ⟨rfl, fun directory entry hentry => Function.update_of_ne (h.hidden directory entry hentry) _ _⟩

theorem Draft.setNode (h : Draft inode content mode before) (bytes : List UInt8)
    (permissions : UInt32) :
    Draft inode bytes permissions (before.setNode inode (.file bytes permissions)) :=
  ⟨h.temporary, Function.update_self _ _ _, h.hidden⟩

theorem Draft.append_eq (h : Draft inode content mode before) (bytes : List UInt8) :
    before.append inode bytes = before.setNode inode (.file (content ++ bytes) mode) := by
  rw [Disk.append, h.node]

theorem Draft.setMode_eq (h : Draft inode content mode before) (permissions : UInt32) :
    before.setMode inode permissions = before.setNode inode (.file content permissions) := by
  rw [Disk.setMode, h.node]

variable [DecidableEq δ]

theorem grows_link (hinode : inode ∈ before.temporary) (directory : δ) (name : OsString) :
    Grows before (before.link inode hinode directory name) := by
  refine ⟨fun other => ?_, fun _ _ _ => rfl⟩
  by_cases hother : other = directory
  · subst hother
    exact ⟨[(name, inode)], Function.update_self _ _ _⟩
  · exact ⟨[], (Function.update_of_ne hother _ _).trans (List.append_nil _).symm⟩

theorem find_link (hinode : inode ∈ before.temporary) (hfree : before.find directory name = none) :
    (before.link inode hinode directory name).find directory name = some inode := by
  have hnone := Option.map_eq_none_iff.mp hfree
  show ((before.withEntry directory name inode directory).find? fun entry =>
    entry.1 = name).map Prod.snd = some inode
  rw [withEntry, Function.update_self, List.find?_append, hnone]
  simp

end Draft

end Disk

/-! ### Calls -/

/-- What becomes of a call. Of a write that is cut short, some bytes are on the disk. -/
inductive DiskReply
  | done
  | failed (error : IoError) (written : ℕ)
  | crashed (written : ℕ)
  deriving DecidableEq, Repr

/-- A disk and the replies it is going to give. -/
structure Device (δ : Type) where
  disk : Disk δ
  replies : ℕ → DiskReply

namespace Device

variable {δ α ε : Type}

/-- A call: its effect when it is carried out, and what is left of it when it is cut short. -/
def call (effect : Disk δ → Except IoError (α × Disk δ)) (cut : ℕ → Disk δ → Disk δ) :
    Faulty (Device δ) IoError α := fun device =>
  let replies := fun index => device.replies (index + 1)
  match device.replies 0 with
  | .done =>
      match effect device.disk with
      | .ok (value, disk) => (.ok value, ⟨disk, replies⟩)
      | .error error => (.error error, ⟨device.disk, replies⟩)
  | .failed error written => (.error error, ⟨cut written device.disk, replies⟩)
  | .crashed written => (.stopped, ⟨cut written device.disk, replies⟩)

/-- A call that only looks. -/
def look (result : Disk δ → Except IoError α) : Faulty (Device δ) IoError α :=
  call (fun disk => (result disk).map fun value => (value, disk)) fun _ disk => disk

def sync : Faulty (Device δ) IoError Unit := look fun _ => .ok ()

def createTemporary : Faulty (Device δ) IoError ℕ :=
  call (fun disk => .ok (disk.next, disk.create)) fun _ disk => disk

def writeAll (inode : ℕ) (bytes : List UInt8) : Faulty (Device δ) IoError Unit :=
  call (fun disk => .ok ((), disk.append inode bytes))
    fun written disk => disk.append inode (bytes.take written)

def setPermissions (inode : ℕ) (mode : UInt32) : Faulty (Device δ) IoError Unit :=
  call (fun disk => .ok ((), disk.setMode inode mode)) fun _ disk => disk

/-- A second name for a temporary file; names are never replaced. -/
def hardLink [DecidableEq δ] (inode : ℕ) (directory : δ) (name : OsString) :
    Faulty (Device δ) IoError Unit :=
  call
    (fun disk =>
      if h : inode ∈ disk.temporary then
        match disk.find directory name with
        | some _ => .error (.ofKind .alreadyExists)
        | none => .ok ((), disk.link inode h directory name)
      else .error (.ofKind .notFound))
    fun _ disk => disk

def removeTemporary (inode : ℕ) : Faulty (Device δ) IoError Unit :=
  call (fun disk => .ok ((), disk.unlinkTemporary inode)) fun _ disk => disk

/-- Symbolic links are not followed. -/
def openNoFollow (directory : δ) (name : OsString) : Faulty (Device δ) IoError ℕ :=
  look fun disk =>
    match disk.find directory name with
    | none => .error (.ofKind .notFound)
    | some inode => if disk.nodes inode = .symlink then .error ⟨.other, some 40⟩ else .ok inode

def metadata (inode : ℕ) : Faulty (Device δ) IoError Node :=
  look fun disk => .ok (disk.nodes inode)

def symlinkMetadata (directory : δ) (name : OsString) : Faulty (Device δ) IoError Node :=
  look fun disk =>
    match disk.find directory name with
    | none => .error (.ofKind .notFound)
    | some inode => .ok (disk.nodes inode)

def readToEnd (inode : ℕ) : Faulty (Device δ) IoError (List UInt8) :=
  look fun disk =>
    match disk.nodes inode with
    | .file content _ => .ok content
    | .symlink | .directory => .error ⟨.other, some 21⟩

def readDirectory (directory : δ) : Faulty (Device δ) IoError (List OsString) :=
  look fun disk => .ok ((disk.entries directory).map Prod.fst)

/-- Work with a temporary file, which is removed at the end unless the process is gone. -/
def withTemporary (failure : IoError → ε) (body : ℕ → Faulty (Device δ) ε α) :
    Faulty (Device δ) ε α := do
  let inode ← createTemporary.mapError failure
  let outcome ← (body inode).attempt
  let _ ← (removeTemporary inode).attempt
  ofExcept outcome

/-! ### What a call does -/

/-- A relation between disks, for the devices that have them. -/
def OnDisk (rel : Disk δ → Disk δ → Prop) (before after : Device δ) : Prop :=
  rel before.disk after.disk

section Moves

variable {δ α ε : Type} {rel : Disk δ → Disk δ → Prop} {pre : Disk δ → Prop}
  {content bytes : List UInt8} {mode : UInt32}

instance [IsTrans (Disk δ) rel] : IsTrans (Device δ) (OnDisk rel) :=
  ⟨fun _ _ _ hfirst hsecond => IsTrans.trans (r := rel) _ _ _ hfirst hsecond⟩

instance [Std.Refl rel] : Std.Refl (OnDisk rel) := ⟨fun device => Std.Refl.refl device.disk⟩

/-- Conditions on the disks before and after a computation: see `Faulty.Steps`. -/
abbrev Moves (rel : Disk δ → Disk δ → Prop) (pre : Disk δ → Prop) (action : Faulty (Device δ) ε α)
    (post : α → Disk δ → Prop) : Prop :=
  Steps (OnDisk rel) (fun device => pre device.disk) action
    fun value device => post value device.disk

theorem moves_call {effect : Disk δ → Except IoError (α × Disk δ)} {cut : ℕ → Disk δ → Disk δ}
    {post : α → Disk δ → Prop} [Std.Refl rel]
    (heffect : ∀ disk value after, pre disk → effect disk = .ok (value, after) →
      rel disk after ∧ post value after)
    (hcut : ∀ disk written, pre disk → rel disk (cut written disk)) :
    Moves rel pre (call effect cut) post := by
  intro device hpre
  unfold wp call
  cases hreply : device.replies 0 with
  | failed error written | crashed written => exact ⟨hcut device.disk written hpre, nofun⟩
  | done =>
      cases hend : effect device.disk with
      | error error => exact ⟨Std.Refl.refl device.disk, nofun⟩
      | ok result =>
          obtain ⟨value, after⟩ := result
          obtain ⟨hrel, hpost⟩ := heffect device.disk value after hpre hend
          refine ⟨hrel, fun other hother => ?_⟩
          obtain rfl := Ended.ok.inj hother
          exact hpost

/-- Looking changes nothing. -/
theorem moves_look {result : Disk δ → Except IoError α} [Std.Refl rel] :
    Moves rel pre (look result) fun value disk => pre disk ∧ result disk = .ok value := by
  refine moves_call (fun disk value after hpre heffect => ?_) fun disk _ _ => Std.Refl.refl disk
  cases hresult : result disk with
  | error error =>
      rw [hresult] at heffect
      cases heffect
  | ok found =>
      rw [hresult] at heffect
      cases heffect
      exact ⟨Std.Refl.refl disk, hpre, hresult⟩

theorem moves_sync [Std.Refl rel] : Moves rel pre sync fun _ => pre :=
  moves_look.mono (fun _ h => h) fun _ _ h => h.1

theorem moves_createTemporary :
    Moves (Disk.Unseen (δ := δ)) (fun _ => True) createTemporary fun inode =>
      Disk.Draft inode [] 0o600 := by
  refine moves_call (fun disk inode after _ heffect => ?_) fun disk _ _ => Disk.Unseen.refl disk
  cases heffect
  exact ⟨disk.unseen_create, disk.draft_create⟩

theorem moves_writeAll :
    Moves (Disk.Unseen (δ := δ)) (Disk.Draft inode content mode) (writeAll inode bytes)
      fun _ => Disk.Draft inode (content ++ bytes) mode := by
  refine moves_call (fun disk _ after hdraft heffect => ?_) fun disk written hdraft => ?_
  · obtain ⟨-, rfl⟩ := Prod.mk.inj (Except.ok.inj heffect)
    rw [hdraft.append_eq]
    exact ⟨hdraft.unseen_setNode _, hdraft.setNode _ _⟩
  · rw [hdraft.append_eq]
    exact hdraft.unseen_setNode _

theorem moves_setPermissions (permissions : UInt32) :
    Moves (Disk.Unseen (δ := δ)) (Disk.Draft inode content mode)
      (setPermissions inode permissions) fun _ => Disk.Draft inode content permissions := by
  refine moves_call (fun disk _ after hdraft heffect => ?_) fun disk _ _ => Disk.Unseen.refl disk
  obtain ⟨-, rfl⟩ := Prod.mk.inj (Except.ok.inj heffect)
  rw [hdraft.setMode_eq]
  exact ⟨hdraft.unseen_setNode _, hdraft.setNode _ _⟩

theorem moves_removeTemporary :
    Moves (Disk.Unseen (δ := δ)) (fun _ => True) (removeTemporary inode) fun _ _ => True := by
  refine moves_call (fun disk _ after _ heffect => ?_) fun disk _ _ => Disk.Unseen.refl disk
  obtain ⟨-, rfl⟩ := Prod.mk.inj (Except.ok.inj heffect)
  exact ⟨⟨rfl, fun _ _ _ => rfl⟩, trivial⟩

/-- What has to be shown of a link is what holds once the name is there. -/
theorem moves_hardLink [DecidableEq δ] {directory : δ} {post : Disk δ → Prop} [Std.Refl rel]
    (h : ∀ disk hinode, pre disk → disk.find directory name = none →
      rel disk (disk.link inode hinode directory name) ∧
        post (disk.link inode hinode directory name)) :
    Moves rel pre (hardLink inode directory name) fun _ => post := by
  refine moves_call (fun disk _ after hpre heffect => ?_) fun disk _ _ => Std.Refl.refl disk
  split at heffect
  case isFalse => cases heffect
  case isTrue hinode =>
    split at heffect
    case h_1 => cases heffect
    case h_2 hfree =>
      obtain ⟨-, rfl⟩ := Prod.mk.inj (Except.ok.inj heffect)
      exact h disk hinode hpre hfree

/-- Work with a temporary file keeps what its body keeps. -/
theorem moves_withTemporary [Std.Refl rel] [IsTrans (Disk δ) rel] {failure : IoError → ε}
    {body : ℕ → Faulty (Device δ) ε α} {post : α → Disk δ → Prop}
    (hunseen : ∀ before after, Disk.Unseen before after → rel before after)
    (hpre : ∀ before after, rel before after → pre before → pre after)
    (hpost : ∀ value before after, rel before after → post value before → post value after)
    (hbody : ∀ inode, Moves rel (fun disk => Disk.Draft inode [] 0o600 disk ∧ pre disk)
      (body inode) post) :
    Moves rel pre (withTemporary failure body) post := by
  have hunseen' : ∀ before after : Device δ, OnDisk Disk.Unseen before after →
      OnDisk rel before after := fun before after => hunseen before.disk after.disk
  have hcreate : Moves rel (fun disk => True ∧ pre disk) (createTemporary.mapError failure)
      fun inode disk => Disk.Draft inode [] 0o600 disk ∧ pre disk :=
    ((moves_createTemporary.weaken hunseen').mapError failure).frame
      fun before after hrel => hpre before.disk after.disk hrel
  -- the file is removed after a failure as well, so its outcome is carried past the removal
  have hremove (inode : ℕ) (outcome : Except ε α) :
      Moves rel (fun disk => True ∧ ∀ value, outcome = .ok value → post value disk)
        ((removeTemporary inode).attempt : Faulty (Device δ) ε (Except IoError Unit))
        fun done disk => (∀ value, done = .ok value → True) ∧
          ∀ value, outcome = .ok value → post value disk :=
    ((moves_removeTemporary.weaken hunseen').attempt).frame fun before after hrel h value hvalue =>
      hpost value before.disk after.disk hrel (h value hvalue)
  refine (hcreate.mono (fun _ h => ⟨trivial, h⟩) fun _ _ h => h).bind fun inode => ?_
  refine (hbody inode).attempt.bind fun outcome => ?_
  refine ((hremove inode outcome).mono (fun _ h => ⟨trivial, h⟩) fun _ _ h => h).bind fun _ => ?_
  exact Steps.ofExcept fun value device hvalue h => h.2 value hvalue

end Moves

/-! ### Computations that only look -/

/-- The computation leaves this disk as it is, and a value of it meets `post`. -/
def Looks (disk : Disk δ) (action : Faulty (Device δ) ε α) (post : α → Prop) : Prop :=
  Moves Eq (· = disk) action fun value after => after = disk ∧ post value

section Looks

variable {β ν : Type} {disk : Disk δ} {post : α → Prop}

theorem looks_look {result : Disk δ → Except IoError α} :
    Looks disk (look result) fun value => result disk = .ok value := by
  have hlook : Moves Eq (· = disk) (look result) fun value after =>
    after = disk ∧ result after = .ok value := moves_look
  exact hlook.mono (fun _ h => h) fun _ _ h => ⟨h.1, h.1 ▸ h.2⟩

theorem looks_pure {value : α} (h : post value) :
    Looks disk (pure value : Faulty (Device δ) ε α) post :=
  Steps.pure fun _ hdisk => ⟨hdisk, h⟩

theorem looks_fail (error : ε) : Looks disk (fail error : Faulty (Device δ) ε α) post :=
  Steps.fail error

theorem looks_ofExcept {result : Except ε α} :
    Looks disk (ofExcept result) fun value => result = .ok value :=
  Steps.ofExcept fun _ _ hvalue hdisk => ⟨hdisk, hvalue⟩

theorem Looks.bind {first : Faulty (Device δ) ε β} {next : β → Faulty (Device δ) ε α}
    {mid : β → Prop} (hfirst : Looks disk first mid)
    (hnext : ∀ value, mid value → Looks disk (next value) post) :
    Looks disk (first >>= next) post :=
  Steps.bind hfirst fun value device hdevice => hnext value hdevice.2 device hdevice.1

theorem Looks.mapError {action : Faulty (Device δ) ε α} (h : Looks disk action post)
    (change : ε → ν) : Looks disk (action.mapError change) post :=
  Steps.mapError h change

theorem Looks.mono {action : Faulty (Device δ) ε α} {stronger : α → Prop}
    (h : Looks disk action stronger) (hpost : ∀ value, stronger value → post value) :
    Looks disk action post :=
  Steps.mono h (fun _ hdisk => hdisk) fun value _ hvalue => ⟨hvalue.1, hpost value hvalue.2⟩

theorem looks_openNoFollow {directory : δ} :
    Looks disk (openNoFollow directory name) fun inode => disk.find directory name = some inode := by
  refine looks_look.mono fun inode hopen => ?_
  split at hopen
  case h_1 => cases hopen
  case h_2 found hfind =>
    split at hopen
    · cases hopen
    · cases hopen
      exact hfind

theorem looks_metadata : Looks disk (metadata inode) fun node => disk.nodes inode = node :=
  looks_look.mono fun _ hnode => Except.ok.inj hnode

theorem looks_readToEnd :
    Looks disk (readToEnd inode) fun content => ∃ mode, disk.nodes inode = .file content mode := by
  refine looks_look.mono fun content hread => ?_
  split at hread
  case h_1 found mode hnode =>
    cases hread
    exact ⟨mode, hnode⟩
  case h_2 => cases hread
  case h_3 => cases hread

/-- A computation that only looks is a step of every reflexive relation. -/
theorem Looks.moves {rel : Disk δ → Disk δ → Prop} {pre : Disk δ → Prop}
    {action : Faulty (Device δ) ε α} {post : α → Disk δ → Prop} [Std.Refl rel]
    (h : ∀ disk, Looks disk action fun value => post value disk) :
    Moves rel pre action fun value disk => pre disk ∧ post value disk := by
  intro device hpre
  obtain ⟨hsame, hvalue⟩ := h device.disk device rfl
  have hsame : (action device).2.disk = device.disk := hsame.symm
  refine ⟨?_, fun value hended => ?_⟩
  · show rel device.disk (action device).2.disk
    rw [hsame]
    exact Std.Refl.refl _
  · show pre (action device).2.disk ∧ post value (action device).2.disk
    rw [hsame]
    exact ⟨hpre, (hvalue value hended).2⟩

end Looks

/-! ### A disk on which every call is carried out -/

def healthy (disk : Disk δ) : Device δ := ⟨disk, fun _ => .done⟩

theorem look_healthy {result : Disk δ → Except IoError α} {disk : Disk δ} {value : α}
    (h : result disk = .ok value) : look result (healthy disk) = (.ok value, healthy disk) := by
  simp only [look, call, healthy, h, Except.map]

end Device

end Kernmux.Library
