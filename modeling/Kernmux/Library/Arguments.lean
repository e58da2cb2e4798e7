import Kernmux.Library.Text

/-!
# Kernmux.Library.Arguments

**Argument vectors that say one thing only.** Optional arguments follow each
other in a fixed order, and each begins with a mark of its own. As long as no
mark begins with another one, a vector shows which of them are there and what
their values are, whatever the values contain (`optionals_inj`).
-/

namespace Kernmux.Library

namespace OsString

variable {argument : OsString} {mark other : String}

/-- The argument begins with the mark. -/
def Begins (mark : String) (argument : OsString) : Prop := utf8Bytes mark <+: argument.bytes

theorem begins_append (mark : String) (value : OsString) :
    Begins mark ((ofString mark).append value) := List.prefix_append _ _

theorem begins_ofString (mark value : String) : Begins mark (ofString (mark ++ value)) := by
  rw [Begins, ofString, utf8Bytes_append]
  exact List.prefix_append _ _

theorem begins_self (mark : String) : Begins mark (ofString mark) := List.prefix_rfl

/-- Neither of two marks begins with the other. -/
def Apart (mark other : String) : Prop :=
  ¬ utf8Bytes mark <+: utf8Bytes other ∧ ¬ utf8Bytes other <+: utf8Bytes mark

instance : Decidable (Apart mark other) := inferInstanceAs (Decidable (_ ∧ _))

theorem Apart.not_begins (h : Apart mark other) (hother : Begins other argument) :
    ¬ Begins mark argument := by
  intro hmark
  rcases List.prefix_or_prefix_of_prefix hmark hother with hle | hle
  · exact h.1 hle
  · exact h.2 hle

theorem append_ofString_inj {value value' : OsString}
    (h : (ofString mark).append value = (ofString mark).append value') : value = value' := by
  have hbytes := List.append_cancel_left (congrArg bytes h)
  cases value
  cases value'
  exact congrArg mk hbytes

theorem ofString_append_inj {value value' : String}
    (h : ofString (mark ++ value) = ofString (mark ++ value')) : value = value' :=
  (String.append_right_inj mark).mp (ofString_injective h)

end OsString

/-- An optional item is told from the rest by a property that the rest does not have. -/
theorem append_optional_inj {α : Type*} {property : α → Prop} {first first' : Option α}
    {rest rest' : List α} (hfirst : ∀ item ∈ first, property item)
    (hfirst' : ∀ item ∈ first', property item) (hrest : ∀ item ∈ rest, ¬ property item)
    (hrest' : ∀ item ∈ rest', ¬ property item) (h : first.toList ++ rest = first'.toList ++ rest') :
    first = first' ∧ rest = rest' := by
  cases first with
  | none =>
      cases first' with
      | none => exact ⟨rfl, h⟩
      | some item =>
          -- the item would stand at the head of the rest
          have hmem : item ∈ rest := by
            simp only [Option.toList_none, List.nil_append] at h
            simp [h]
          exact absurd (hfirst' item rfl) (hrest item hmem)
  | some item =>
      cases first' with
      | none =>
          have hmem : item ∈ rest' := by
            simp only [Option.toList_none, List.nil_append] at h
            simp [← h]
          exact absurd (hfirst item rfl) (hrest' item hmem)
      | some item' =>
          simp only [Option.toList_some, List.singleton_append, List.cons.injEq] at h
          exact ⟨congrArg some h.1, h.2⟩

/-- Optional arguments in a fixed order. -/
def optionals (options : List (Option OsString)) : List OsString := options.flatMap Option.toList

/-- Each argument that is there begins with the mark of its place. -/
def Marked (marks : List String) (options : List (Option OsString)) : Prop :=
  List.Forall₂ (fun mark option => ∀ argument ∈ option, OsString.Begins mark argument) marks options

theorem Marked.begins {marks : List String} {options : List (Option OsString)}
    (h : Marked marks options) {argument : OsString} (hargument : argument ∈ optionals options) :
    ∃ mark ∈ marks, OsString.Begins mark argument := by
  induction h with
  | nil => exact absurd hargument List.not_mem_nil
  | @cons mark option marks options hoption _ ih =>
      rw [optionals, List.flatMap_cons, List.mem_append] at hargument
      rcases hargument with hfirst | hrest
      · exact ⟨mark, List.mem_cons_self, hoption argument (Option.mem_toList.mp hfirst)⟩
      · obtain ⟨other, hother, hbegins⟩ := ih hrest
        exact ⟨other, List.mem_cons_of_mem _ hother, hbegins⟩

/-- Arguments with marks of their own are read back. -/
theorem optionals_inj {marks : List String} (hmarks : marks.Pairwise OsString.Apart)
    {options options' : List (Option OsString)} (h : Marked marks options)
    (h' : Marked marks options') (heq : optionals options = optionals options') :
    options = options' := by
  induction h generalizing options' with
  | nil =>
      cases h'
      rfl
  | @cons mark option marks options hoption hrest ih =>
      cases h' with
      | @cons _ option' _ options' hoption' hrest' =>
          obtain ⟨hmark, hmarks⟩ := List.pairwise_cons.mp hmarks
          -- the arguments that follow have other marks
          have hother : ∀ {options : List (Option OsString)}, Marked marks options →
              ∀ argument ∈ optionals options, ¬ OsString.Begins mark argument := by
            intro options hmarked argument hargument
            obtain ⟨other, hother, hbegins⟩ := hmarked.begins hargument
            exact (hmark other hother).not_begins hbegins
          obtain ⟨hfirst, hoptions⟩ := append_optional_inj hoption hoption' (hother hrest)
            (hother hrest') heq
          rw [hfirst, ih hmarks hrest' hoptions]

end Kernmux.Library
