import Kernmux.Library.Disk

/-!
# Kernmux.Library.Scratch

**Work that leaves nothing behind.** On a disk on which every call is carried out
a computation has one end. `Ends` says which one, and that afterwards all names and
the files under them are as they were (`Untouched`): temporary files may have been
written, and are gone again.
-/

namespace Kernmux.Library

namespace Disk

variable {δ : Type} {before mid after : Disk δ}

/-- Names and temporary files are the same, and so is all that has a name. -/
structure Untouched (before after : Disk δ) : Prop where
  unseen : Unseen before after
  temporary : after.temporary = before.temporary

theorem Untouched.refl (disk : Disk δ) : Untouched disk disk := ⟨.refl disk, rfl⟩

theorem Untouched.trans (hfirst : Untouched before mid) (hsecond : Untouched mid after) :
    Untouched before after :=
  ⟨hfirst.unseen.trans hsecond.unseen, hsecond.temporary.trans hfirst.temporary⟩

/-- A temporary file is removed again. -/
theorem Untouched.of_create (h : Untouched before.create after) :
    Untouched before (after.unlinkTemporary before.next) := by
  refine ⟨before.unseen_create.trans ⟨h.unseen.entries, h.unseen.nodes⟩, ?_⟩
  have hnew : before.next ∉ before.temporary :=
    fun hmem => Nat.lt_irrefl _ (before.temporary_lt _ hmem)
  show after.temporary.erase before.next = before.temporary
  rw [h.temporary]
  show (before.temporary ++ [before.next]).erase before.next = before.temporary
  rw [List.erase_append_right _ hnew, List.erase_cons_head, List.append_nil]

theorem Draft.untouched_setNode {inode : ℕ} {content : List UInt8} {mode : UInt32}
    (h : Draft inode content mode before) (node : Node) :
    Untouched before (before.setNode inode node) :=
  ⟨h.unseen_setNode node, rfl⟩

end Disk

/-- The end of a computation with this outcome. -/
def Ended.ofExcept {ε α : Type} : Except ε α → Ended ε α
  | .ok value => .ok value
  | .error reason => .error reason

namespace Device

variable {δ ε ν α β : Type} {disk : Disk δ} {post mid : Disk δ → Prop}

/-- On this disk the computation ends like this, with all names as they were. -/
def Ends (disk : Disk δ) (action : Faulty (Device δ) ε α) (outcome : Except ε α)
    (post : Disk δ → Prop) : Prop :=
  ∃ after, action (healthy disk) = (.ofExcept outcome, healthy after) ∧
    Disk.Untouched disk after ∧ post after

theorem ends_of_eq {action : Faulty (Device δ) ε α} {outcome : Except ε α}
    (h : action (healthy disk) = (.ofExcept outcome, healthy disk)) (hpost : post disk) :
    Ends disk action outcome post :=
  ⟨disk, h, .refl disk, hpost⟩

theorem Ends.bind {first : Faulty (Device δ) ε β} {next : β → Faulty (Device δ) ε α} {value : β}
    {outcome : Except ε α} (hfirst : Ends disk first (.ok value) mid)
    (hnext : ∀ between, Disk.Untouched disk between → mid between →
      Ends between (next value) outcome post) :
    Ends disk (first >>= next) outcome post := by
  obtain ⟨between, hrun, huntouched, hmid⟩ := hfirst
  obtain ⟨after, hrest, hafter, hpost⟩ := hnext between huntouched hmid
  exact ⟨after, by rw [Faulty.bind_of_ok hrun, hrest], huntouched.trans hafter, hpost⟩

theorem Ends.bind_error {first : Faulty (Device δ) ε β} {next : β → Faulty (Device δ) ε α}
    {error : ε} (hfirst : Ends disk first (.error error) post) :
    Ends disk (first >>= next) (.error error) post := by
  obtain ⟨after, hrun, huntouched, hpost⟩ := hfirst
  exact ⟨after, Faulty.bind_of_error hrun, huntouched, hpost⟩

theorem Ends.mapError {action : Faulty (Device δ) ε α} {value : α}
    (h : Ends disk action (.ok value) post) (change : ε → ν) :
    Ends disk (action.mapError change) (.ok value) post := by
  obtain ⟨after, hrun, huntouched, hpost⟩ := h
  exact ⟨after, Faulty.mapError_of_ok hrun, huntouched, hpost⟩

theorem ends_ofExcept_bind {result : Except ε β} {next : β → Faulty (Device δ) ε α} {value : β}
    {outcome : Except ε α} (hresult : result = .ok value)
    (hnext : Ends disk (next value) outcome post) :
    Ends disk (Faulty.ofExcept result >>= next) outcome post := by
  obtain ⟨after, hrun, huntouched, hpost⟩ := hnext
  exact ⟨after, by rw [Faulty.ofExcept_bind_of_ok hresult, hrun], huntouched, hpost⟩

theorem ofExcept_run (result : Except ε α) :
    Faulty.ofExcept result (healthy disk) = (.ofExcept result, healthy disk) := by
  cases result <;> rfl

/-! ### Calls -/

section Calls

variable {inode : ℕ} {content bytes : List UInt8} {mode : UInt32}

theorem ends_sync (hpost : post disk) : Ends disk sync (.ok ()) post := ends_of_eq rfl hpost

theorem ends_writeAll (h : Disk.Draft inode content mode disk) :
    Ends disk (writeAll inode bytes) (.ok ()) (Disk.Draft inode (content ++ bytes) mode) := by
  refine ⟨disk.append inode bytes, rfl, ?_, ?_⟩
  · rw [h.append_eq]
    exact h.untouched_setNode _
  · rw [h.append_eq]
    exact h.setNode _ _

theorem ends_setPermissions (h : Disk.Draft inode content mode disk) (permissions : UInt32) :
    Ends disk (setPermissions inode permissions) (.ok ()) (Disk.Draft inode content permissions) := by
  refine ⟨disk.setMode inode permissions, rfl, ?_, ?_⟩
  · rw [h.setMode_eq]
    exact h.untouched_setNode _
  · rw [h.setMode_eq]
    exact h.setNode _ _

/-- A name that is taken is not linked again. -/
theorem hardLink_of_taken [DecidableEq δ] {directory : δ} {name : OsString} {other : ℕ}
    (hinode : inode ∈ disk.temporary) (htaken : disk.find directory name = some other) :
    hardLink inode directory name (healthy disk) =
      (.error (.ofKind .alreadyExists), healthy disk) := by
  simp only [hardLink, call, healthy, dif_pos hinode, htaken]

/-- A temporary file is there for a while. -/
theorem ends_withTemporary {failure : IoError → ε} {body : ℕ → Faulty (Device δ) ε α}
    {outcome : Except ε α} (hbody : Ends disk.create (body disk.next) outcome fun _ => True) :
    Ends disk (withTemporary failure body) outcome fun _ => True := by
  obtain ⟨after, hrun, huntouched, -⟩ := hbody
  refine ⟨after.unlinkTemporary disk.next, ?_, huntouched.of_create, trivial⟩
  have hcreate : (createTemporary.mapError failure) (healthy disk) =
      (.ok disk.next, healthy disk.create) := rfl
  have hattempt : ((body disk.next).attempt : Faulty (Device δ) ε (Except ε α))
      (healthy disk.create) = (.ok outcome, healthy after) := by
    unfold Faulty.attempt
    rw [hrun]
    cases outcome <;> rfl
  rw [withTemporary, Faulty.bind_of_ok hcreate, Faulty.bind_of_ok hattempt]
  cases outcome <;> rfl

end Calls

end Device

end Kernmux.Library
