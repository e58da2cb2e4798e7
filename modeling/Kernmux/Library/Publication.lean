import Kernmux.Library.Disk

/-!
# Kernmux.Library.Publication

**Directories that gain known files.** A file is published by a hard link, and a
link never replaces a name. So a directory that is to hold one file either gains
it, or held that name already and stays as it is. The relation composes: what has
been gained once is not gained again.
-/

namespace Kernmux.Library.Disk

variable {δ : Type} {new : δ → Option (OsString × List UInt8)} {before mid after : Disk δ}
  {directory : δ} {name : OsString} {inode : ℕ} {content : List UInt8} {mode : UInt32}

/-- The directory has one more file, under a name that was free. -/
structure Gained (directory : δ) (name : OsString) (content : List UInt8) (inode : ℕ)
    (before after : Disk δ) : Prop where
  free : before.find directory name = none
  entries : after.entries directory = before.entries directory ++ [(name, inode)]
  node : ∃ mode, after.nodes inode = .file content mode

/-- Each directory gains the file that `new` gives for it, or stays as it is. -/
structure Gains (new : δ → Option (OsString × List UInt8)) (before after : Disk δ) : Prop where
  grows : Grows before after
  added : ∀ directory, after.entries directory = before.entries directory ∨
    ∃ name content inode, new directory = some (name, content) ∧
      Gained directory name content inode before after

theorem Gained.mem (h : Gained directory name content inode before after) :
    (name, inode) ∈ after.entries directory := by
  rw [h.entries]
  exact List.mem_append_right _ (List.mem_singleton_self _)

theorem find_congr (h : after.entries directory = before.entries directory) :
    after.find directory name = before.find directory name := by
  rw [find, find, h]

theorem Gains.trans (hfirst : Gains new before mid) (hsecond : Gains new mid after) :
    Gains new before after := by
  refine ⟨hfirst.grows.trans hsecond.grows, ?_⟩
  intro directory
  obtain hmid | ⟨name, content, inode, hnew, hmid⟩ := hfirst.added directory
  · obtain hafter | ⟨name, content, inode, hnew, hafter⟩ := hsecond.added directory
    · exact .inl (hafter.trans hmid)
    · refine .inr ⟨name, content, inode, hnew, ?_, ?_, hafter.node⟩
      · rw [← find_congr hmid]
        exact hafter.free
      · rw [hafter.entries, hmid]
  · obtain hafter | ⟨other, bytes, later, hother, hafter⟩ := hsecond.added directory
    · refine .inr ⟨name, content, inode, hnew, hmid.free, hafter.trans hmid.entries, ?_⟩
      rw [hsecond.grows.nodes directory (name, inode) hmid.mem]
      exact hmid.node
    · -- the name is taken by then
      obtain ⟨rfl, rfl⟩ := Prod.mk.inj (Option.some.inj (hnew.symm.trans hother))
      obtain ⟨found, hfound⟩ := find_isSome_of_mem hmid.mem
      exact absurd (hfound.symm.trans hafter.free) nofun

theorem Gains.of_unseen (h : Unseen before after) : Gains new before after :=
  ⟨h.grows, fun _ => .inl (by rw [h.entries])⟩

instance : Std.Refl (Gains new) := ⟨fun disk => .of_unseen (.refl disk)⟩

instance : IsTrans (Disk δ) (Gains new) := ⟨fun _ _ _ => Gains.trans⟩

/-- The content of the file under a name. -/
def contentAt (disk : Disk δ) (directory : δ) (name : OsString) : Option (List UInt8) :=
  match (disk.find directory name).map disk.nodes with
  | some (.file content _) => some content
  | _ => none

theorem contentAt_eq (hfind : before.find directory name = some inode)
    (hnode : before.nodes inode = .file content mode) :
    before.contentAt directory name = some content := by
  rw [contentAt, hfind, Option.map_some, hnode]

/-- A name that was taken keeps its file; otherwise it is that of the new one. -/
theorem Gains.content_eq {stored : List UInt8} (h : Gains new before after)
    (hnew : new directory = some (name, content))
    (hfind : after.find directory name = some inode)
    (hnode : after.nodes inode = .file stored mode) :
    stored = (before.contentAt directory name).getD content := by
  cases hbefore : before.find directory name with
  | some found =>
      obtain ⟨hfound, hsame⟩ := h.grows.find hbefore
      obtain rfl := Option.some.inj (hfound.symm.trans hfind)
      rw [contentAt_eq hbefore (hsame.symm.trans hnode), Option.getD_some]
  | none =>
      have hnone : before.contentAt directory name = none := by rw [contentAt, hbefore]; rfl
      rw [hnone, Option.getD_none]
      obtain hsame | ⟨_, _, added, hadded, hgained⟩ := h.added directory
      · rw [find_congr hsame, hbefore] at hfind
        cases hfind
      · obtain ⟨rfl, rfl⟩ := Prod.mk.inj (Option.some.inj (hnew.symm.trans hadded))
        have hlast : after.find directory name = some added := by
          rw [find, hgained.entries, List.find?_append,
            Option.map_eq_none_iff.mp (show Option.map _ _ = none from hbefore)]
          simp
        obtain rfl := Option.some.inj (hlast.symm.trans hfind)
        obtain ⟨_, hadded⟩ := hgained.node
        exact (Node.file.inj (hnode.symm.trans hadded)).1

/-- The names in a directory. -/
def names (disk : Disk δ) (directory : δ) : List OsString := (disk.entries directory).map Prod.fst

theorem find_isSome_iff : (∃ inode, before.find directory name = some inode) ↔
    name ∈ before.names directory := by
  constructor
  · intro ⟨inode, hinode⟩
    exact List.mem_map.mpr ⟨_, mem_of_find hinode, rfl⟩
  · intro hname
    obtain ⟨entry, hentry, rfl⟩ := List.mem_map.mp hname
    exact find_isSome_of_mem hentry

/-- Where a name is taken, the directory stays as it is. -/
theorem Gains.entries_eq (h : Gains new before after) (hnew : ∀ file ∈ new directory,
    file.1 ∈ before.names directory) : after.entries directory = before.entries directory := by
  obtain hsame | ⟨name, content, inode, hadded, hgained⟩ := h.added directory
  · exact hsame
  · obtain ⟨found, hfound⟩ := find_isSome_iff.mpr (hnew (name, content) hadded)
    exact absurd (hfound.symm.trans hgained.free) nofun

/-- A directory that has the name afterwards has it once more than before, if at all. -/
theorem Gains.names_perm (h : Gains new before after)
    (hnew : new directory = some (name, content)) (hafter : name ∈ after.names directory) :
    (after.names directory).Perm ((before.names directory).insert name) := by
  by_cases hbefore : name ∈ before.names directory
  · rw [List.insert_of_mem hbefore, names, h.entries_eq ?_, ← names]
    intro file hfile
    obtain rfl := Option.some.inj (hnew.symm.trans hfile)
    exact hbefore
  · rw [List.insert_of_not_mem hbefore]
    obtain hsame | ⟨_, _, inode, hadded, hgained⟩ := h.added directory
    · rw [names, hsame] at hafter
      exact absurd hafter hbefore
    · obtain ⟨rfl, rfl⟩ := Prod.mk.inj (Option.some.inj (hnew.symm.trans hadded))
      rw [names, hgained.entries, List.map_append]
      exact List.perm_append_singleton _ _

/-- Publication of the file that is to be gained. -/
theorem gains_link [DecidableEq δ] (hnew : new directory = some (name, content))
    (hdraft : Draft inode content mode before) (hfree : before.find directory name = none) :
    Gains new before (before.link inode hdraft.temporary directory name) := by
  refine ⟨grows_link hdraft.temporary directory name, ?_⟩
  intro other
  by_cases hother : other = directory
  · subst hother
    exact .inr ⟨name, content, inode, hnew, hfree, Function.update_self _ _ _, mode, hdraft.node⟩
  · exact .inl (Function.update_of_ne hother _ _)

end Kernmux.Library.Disk
