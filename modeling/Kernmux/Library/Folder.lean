import Kernmux.Library.Faulty
import Mathlib.Logic.Function.Basic

/-!
# Kernmux.Library.Folder

**Files under names, on a storage that may fail.** A file is created only where
there is none, grows, and is renamed or removed by its name. The storage answers
each call by doing it or by failing. A write that fails may have written a part,
and its failure may come out only with the next write, or never (`Stores`).
Renaming replaces what stood under the new name, and removing takes away whatever
stands under a name, no matter who put it there.
-/

namespace Kernmux.Library

/-- What the storage does with a call: all of it; a part of it, which is reported; or a part of
it, which is reported by the next write only. -/
inductive StorageReply
  | done
  | failed (written : ℕ)
  | late (written : ℕ)
  deriving DecidableEq, Repr

namespace StorageReply

/-- What is written of some bytes. -/
def part (bytes : List UInt8) : StorageReply → List UInt8
  | done => bytes
  | failed written | late written => bytes.take written

/-- The call itself reports a failure. -/
def reports : StorageReply → Bool
  | failed _ => true
  | done | late _ => false

end StorageReply

/-- The files, with what the storage does with each call, the number of calls so far, and whether
a write has failed that is not reported yet. -/
structure Folder (κ : Type) where
  files : κ → Option (List UInt8)
  replies : ℕ → StorageReply
  calls : ℕ
  unreported : Bool

namespace Folder

variable {κ ε α : Type}

/-- Files on a storage that has not been called yet. -/
def fresh (files : κ → Option (List UInt8)) (replies : ℕ → StorageReply) : Folder κ :=
  ⟨files, replies, 0, false⟩

/-- A call of the storage that is done as a whole or not at all. -/
def call (effect : (κ → Option (List UInt8)) → Option (κ → Option (List UInt8))) :
    Faulty (Folder κ) Unit Unit := fun folder =>
  let later := { folder with calls := folder.calls + 1 }
  match folder.replies folder.calls, effect folder.files with
  | .done, some files => (.ok (), { later with files := files })
  | _, _ => (.error (), later)

/-- A call that changes no file. -/
def sync : Faulty (Folder κ) Unit Unit := call some

variable [DecidableEq κ]

def createNew (name : κ) : Faulty (Folder κ) Unit Unit :=
  call fun files => if (files name).isSome then none else some (Function.update files name (some []))

/-- Write at the end of a file. Writing nothing calls no storage, and a failure that was not
reported is reported instead of writing more. -/
def append (name : κ) (bytes : List UInt8) : Faulty (Folder κ) Unit Unit := fun folder =>
  if bytes = [] then (.ok (), folder)
  else if folder.unreported then (.error (), { folder with unreported := false })
  else
    let reply := folder.replies folder.calls
    let part := reply.part bytes
    let later : Folder κ :=
      ⟨Function.update folder.files name ((folder.files name).map fun content => content ++ part),
        folder.replies, folder.calls + 1, !reply.reports && part ≠ bytes⟩
    if reply.reports then (.error (), later) else (.ok (), later)

def rename (name target : κ) : Faulty (Folder κ) Unit Unit :=
  call fun files => (files name).map fun content =>
    Function.update (Function.update files name none) target (some content)

/-- Take a file away, if there is one. -/
def remove (name : κ) : Faulty (Folder κ) ε Unit :=
  Faulty.modify fun folder => { folder with files := Function.update folder.files name none }

/-! ### What the calls do -/

omit [DecidableEq κ] in
/-- A call that succeeds has done all of it. -/
theorem call_eq_ok {effect : (κ → Option (List UInt8)) → Option (κ → Option (List UInt8))}
    {folder reached : Folder κ} :
    call effect folder = (.ok (), reached) ↔ folder.replies folder.calls = .done ∧
      ∃ files, effect folder.files = some files ∧
        reached = { folder with files := files, calls := folder.calls + 1 } := by
  unfold call
  cases folder.replies folder.calls with
  | done => cases effect folder.files <;> simp [eq_comm]
  | failed | late => simp

omit [DecidableEq κ] in
/-- A call that fails has changed no file. -/
theorem call_cases (effect : (κ → Option (List UInt8)) → Option (κ → Option (List UInt8)))
    (folder : Folder κ) : (∃ reached, call effect folder = (.ok (), reached)) ∨
      ∃ reached, call effect folder = (.error (), reached) ∧ reached.files = folder.files := by
  unfold call
  split
  · exact .inl ⟨_, rfl⟩
  · exact .inr ⟨_, rfl, rfl⟩

theorem rename_cases (name target : κ) (folder : Folder κ) :
    (∃ reached, rename name target folder = (.ok (), reached)) ∨
      ∃ reached, rename name target folder = (.error (), reached) ∧ reached.files = folder.files :=
  call_cases _ folder

omit [DecidableEq κ] in
@[simp] theorem sync_eq_ok {folder reached : Folder κ} :
    sync folder = (.ok (), reached) ↔ folder.replies folder.calls = .done ∧
      reached = { folder with calls := folder.calls + 1 } := by
  simp [sync, call_eq_ok]

/-- A file is created only where there is none. -/
theorem createNew_eq_ok {name : κ} {folder reached : Folder κ} :
    createNew name folder = (.ok (), reached) ↔ folder.replies folder.calls = .done ∧
      folder.files name = none ∧ reached = { folder with
        files := Function.update folder.files name (some []), calls := folder.calls + 1 } := by
  rw [createNew, call_eq_ok]
  cases folder.files name <;> simp

/-- A file takes the place of what stood under its new name. -/
theorem rename_eq_ok {name target : κ} {folder reached : Folder κ} :
    rename name target folder = (.ok (), reached) ↔ folder.replies folder.calls = .done ∧
      ∃ content, folder.files name = some content ∧ reached = { folder with
        files := Function.update (Function.update folder.files name none) target (some content)
        calls := folder.calls + 1 } := by
  rw [rename, call_eq_ok]
  cases folder.files name <;> simp

theorem append_nil (name : κ) (folder : Folder κ) : append name [] folder = (.ok (), folder) :=
  if_pos rfl

/-- A write that reports no failure has written a part. -/
theorem append_eq_ok {name : κ} {bytes content : List UInt8} {folder reached : Folder κ}
    (hbytes : bytes ≠ []) (hfile : folder.files name = some content) :
    append name bytes folder = (.ok (), reached) ↔ folder.unreported = false ∧
      (folder.replies folder.calls).reports = false ∧ reached = ⟨Function.update folder.files name
            (some (content ++ (folder.replies folder.calls).part bytes)), folder.replies,
          folder.calls + 1, decide ((folder.replies folder.calls).part bytes ≠ bytes)⟩ := by
  unfold append
  rw [if_neg hbytes, hfile]
  cases hunreported : folder.unreported with
  | true => simp
  | false =>
      cases hreports : (folder.replies folder.calls).reports with
      | true => simp [hreports]
      | false => simp [hreports, eq_comm]

/-! ### Where the calls change files -/

/-- Files differ only under these names. -/
def Within (names : List κ) (before after : Folder κ) : Prop :=
  ∀ name ∉ names, after.files name = before.files name

omit [DecidableEq κ] in
instance within_refl (names : List κ) : Std.Refl (Within names) := ⟨fun _ _ _ => rfl⟩

omit [DecidableEq κ] in
instance within_trans (names : List κ) : IsTrans (Folder κ) (Within names) :=
  ⟨fun _ _ _ hfirst hsecond name hname => (hsecond name hname).trans (hfirst name hname)⟩

theorem update_of_not_mem {name other : κ} {files : κ → Option (List UInt8)}
    {content : Option (List UInt8)} (hother : other ∉ [name]) :
    Function.update files name content other = files other :=
  Function.update_of_ne (fun heq => hother (List.mem_singleton.mpr heq)) _ _

omit [DecidableEq κ] in
theorem endsWithin_call {names : List κ}
    {effect : (κ → Option (List UInt8)) → Option (κ → Option (List UInt8))}
    (heffect : ∀ before files, effect before = some files →
      ∀ other ∉ names, files other = before other) :
    Faulty.EndsWithin (Within names) (call effect) := by
  intro folder
  unfold call
  split
  · rename_i files _ hfiles
    exact ⟨nofun, heffect _ _ hfiles⟩
  · exact ⟨nofun, fun _ _ => rfl⟩

omit [DecidableEq κ] in
theorem endsWithin_sync (names : List κ) :
    Faulty.EndsWithin (Within names) (sync : Faulty (Folder κ) _ _) := by
  refine endsWithin_call fun before files hfiles other _ => ?_
  rw [Option.some.inj hfiles]

theorem endsWithin_createNew (name : κ) : Faulty.EndsWithin (Within [name]) (createNew name) := by
  refine endsWithin_call fun before files hfiles other hother => ?_
  obtain ⟨-, hfiles⟩ := Option.ite_none_left_eq_some.mp hfiles
  cases hfiles
  exact update_of_not_mem hother

theorem endsWithin_append (name : κ) (bytes : List UInt8) :
    Faulty.EndsWithin (Within [name]) (append name bytes) := by
  intro folder
  unfold append
  split
  · exact ⟨nofun, fun _ _ => rfl⟩
  split
  · exact ⟨nofun, fun _ _ => rfl⟩
  dsimp only
  split <;> exact ⟨nofun, fun _ hother => update_of_not_mem hother⟩

/-! ### Pieces of a file -/

/-- How the storage takes pieces that are written one after the other, from a call on. A piece is
written in part only if the failure is not reported, and then no other piece can follow. With what
is written, the number of calls, and whether something was lost before and after. -/
inductive Stores (replies : ℕ → StorageReply) :
    ℕ → Bool → List (List UInt8) → List UInt8 → ℕ → Bool → Prop
  | nil {calls lost} : Stores replies calls lost [] [] calls lost
  | empty {calls lost pieces content last after}
      (rest : Stores replies calls lost pieces content last after) :
      Stores replies calls lost ([] :: pieces) content last after
  | write {calls piece pieces content last after} (nonempty : piece ≠ [])
      (silent : (replies calls).reports = false)
      (rest : Stores replies (calls + 1) (decide ((replies calls).part piece ≠ piece)) pieces content
        last after) :
      Stores replies calls false (piece :: pieces) ((replies calls).part piece ++ content) last after

/-- All pieces are there unless something was lost, after which nothing was to be written. -/
theorem Stores.content_eq_iff {replies : ℕ → StorageReply} {calls last : ℕ} {lost after : Bool}
    {pieces : List (List UInt8)} {content : List UInt8}
    (h : Stores replies calls lost pieces content last after) :
    (lost = true → content = [] ∧ pieces.flatten = [] ∧ after = true) ∧
      (lost = false → (content = pieces.flatten ↔ after = false)) := by
  induction h with
  | nil => simp
  | empty rest ih => simpa using ih
  | @write calls piece pieces content last after nonempty silent rest ih =>
      refine ⟨nofun, fun _ => ?_⟩
      by_cases hwhole : (replies calls).part piece = piece
      · simpa [hwhole] using ih.2
      · obtain ⟨rfl, hnone, rfl⟩ := ih.1 (by simp [hwhole])
        simp [hnone, hwhole]

end Folder

end Kernmux.Library
