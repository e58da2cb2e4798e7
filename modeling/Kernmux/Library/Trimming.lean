import Kernmux.Library.Text

/-!
# Kernmux.Library.Trimming

**Trimming and words.** Trimming takes off items at both ends of a text as long
as they are of some kind. What is left is bare: it neither begins nor ends with
such an item, and this determines it.
-/

namespace Kernmux.Library

section Trimming

variable {α : Type} {p : α → Bool}

/-- Neither the first nor the last item is of the kind `p`. -/
def Bare (p : α → Bool) (items : List α) : Prop :=
  (∀ item ∈ items.head?, p item = false) ∧ ∀ item ∈ items.getLast?, p item = false

/-- The items between those of the kind `p` at both ends. -/
def trimAround (p : α → Bool) (items : List α) : List α :=
  ((items.dropWhile p).reverse.dropWhile p).reverse

/-- Dropping stops at the first item of another kind. -/
theorem dropWhile_eq_iff {items rest : List α} :
    items.dropWhile p = rest ↔ (∀ item ∈ rest.head?, p item = false) ∧
      ∃ before, items = before ++ rest ∧ ∀ item ∈ before, p item = true := by
  induction items with
  | nil =>
      constructor
      · intro h
        rw [List.dropWhile_nil] at h
        subst h
        exact ⟨by simp, [], rfl, by simp⟩
      · intro ⟨_, before, hitems, _⟩
        rw [List.dropWhile_nil, (List.append_eq_nil_iff.mp hitems.symm).2]
  | cons item items ih =>
      by_cases hitem : p item = true
      · rw [List.dropWhile_cons_of_pos hitem, ih]
        refine and_congr_right fun hhead => ⟨?_, ?_⟩
        · intro ⟨before, hitems, hbefore⟩
          exact ⟨item :: before, by rw [hitems, List.cons_append],
            List.forall_mem_cons.mpr ⟨hitem, hbefore⟩⟩
        · intro ⟨before, hitems, hbefore⟩
          cases before with
          | nil =>
              -- the rest would begin with an item that is dropped
              have hfirst := hhead item (by rw [List.nil_append] at hitems; simp [← hitems])
              rw [hitem] at hfirst
              cases hfirst
          | cons first before =>
              obtain ⟨rfl, hrest⟩ := List.cons.inj hitems
              exact ⟨before, hrest, (List.forall_mem_cons.mp hbefore).2⟩
      · rw [List.dropWhile_cons_of_neg hitem]
        constructor
        · intro h
          subst h
          exact ⟨by simpa using hitem, [], rfl, by simp⟩
        · intro ⟨_, before, hitems, hbefore⟩
          cases before with
          | nil => exact hitems
          | cons first before =>
              obtain ⟨rfl, _⟩ := List.cons.inj hitems
              exact absurd (hbefore item List.mem_cons_self) hitem

/-- What is left of a text is the bare middle of it. -/
theorem trimAround_eq_iff {items middle : List α} :
    trimAround p items = middle ↔ Bare p middle ∧ ∃ before after,
      items = before ++ middle ++ after ∧ (∀ item ∈ before, p item = true) ∧
        ∀ item ∈ after, p item = true := by
  constructor
  · intro h
    obtain ⟨hfront, before, hitems, hbefore⟩ := dropWhile_eq_iff.mp (Eq.refl (items.dropWhile p))
    obtain ⟨hrear, after, hreverse, hafter⟩ := dropWhile_eq_iff.mp
      (Eq.refl ((items.dropWhile p).reverse.dropWhile p))
    have hmiddle : (items.dropWhile p).reverse.dropWhile p = middle.reverse := by
      rw [← h, trimAround, List.reverse_reverse]
    rw [hmiddle] at hrear hreverse
    have hkept : items.dropWhile p = middle ++ after.reverse := by
      rw [← List.reverse_reverse (items.dropWhile p), hreverse, List.reverse_append,
        List.reverse_reverse]
    refine ⟨⟨?_, by simpa using hrear⟩, before, after.reverse, ?_, hbefore, ?_⟩
    · intro item hitem
      refine hfront item ?_
      rw [hkept, List.head?_append, Option.mem_def.mp hitem]
      rfl
    · rw [List.append_assoc, ← hkept]
      exact hitems
    · exact fun item hitem => hafter item (List.mem_reverse.mp hitem)
  · intro ⟨⟨hhead, hlast⟩, before, after, hitems, hbefore, hafter⟩
    rw [trimAround, hitems, List.append_assoc, List.dropWhile_append_of_pos hbefore]
    cases middle with
    | nil => simp [List.dropWhile_eq_nil_iff.mpr hafter]
    | cons first middle =>
        have hfirst : ¬ p first = true := by simp [hhead first (by simp)]
        have hrear : ((first :: middle) ++ after).reverse.dropWhile p = (first :: middle).reverse :=
          dropWhile_eq_iff.mpr ⟨by rw [List.head?_reverse]; exact hlast, after.reverse,
            List.reverse_append, fun item hitem => hafter item (List.mem_reverse.mp hitem)⟩
        rw [List.cons_append, List.dropWhile_cons_of_neg hfirst, ← List.cons_append, hrear,
          List.reverse_reverse]

end Trimming

/-- The string without the occurrences of a character around it. -/
def trimMatches (char : Char) (text : String) : String :=
  String.ofList (trimAround (· = char) text.toList)

theorem ofList_trimAround_eq_iff {p : Char → Bool} {text middle : String} :
    String.ofList (trimAround p text.toList) = middle ↔ Bare p middle.toList ∧
      ∃ before after : String, text = before ++ middle ++ after ∧
        (∀ char ∈ before.toList, p char = true) ∧ ∀ char ∈ after.toList, p char = true := by
  rw [← String.toList_inj, String.toList_ofList, trimAround_eq_iff]
  refine and_congr_right fun _ => ⟨?_, ?_⟩
  · intro ⟨before, after, htext, hbefore, hafter⟩
    refine ⟨.ofList before, .ofList after, ?_, by simpa using hbefore, by simpa using hafter⟩
    apply String.toList_inj.mp
    simpa using htext
  · intro ⟨before, after, htext, hbefore, hafter⟩
    exact ⟨before.toList, after.toList, by simp [htext], hbefore, hafter⟩

theorem trimText_eq_iff {text middle : String} :
    trimText text = middle ↔ Bare isWhitespace middle.toList ∧
      ∃ before after : String, text = before ++ middle ++ after ∧
        (∀ char ∈ before.toList, isWhitespace char = true) ∧
          ∀ char ∈ after.toList, isWhitespace char = true :=
  ofList_trimAround_eq_iff

theorem trimMatches_eq_iff {char : Char} {text middle : String} :
    trimMatches char text = middle ↔ Bare (· = char) middle.toList ∧
      ∃ before after : String, text = before ++ middle ++ after ∧
        (∀ other ∈ before.toList, other = char) ∧ ∀ other ∈ after.toList, other = char := by
  rw [trimMatches, ofList_trimAround_eq_iff]
  simp only [decide_eq_true_eq]

/-- Between the last stretch of whitespace and the end stands the last word. -/
theorem getLast?_splitWhitespace {front word after : String} {gap : Char}
    (hgap : isWhitespace gap = true) (hword : word ≠ "")
    (hplain : ∀ char ∈ word.toList, isWhitespace char = false)
    (hafter : ∀ char ∈ after.toList, isWhitespace char = true) :
    (splitWhitespace (front ++ String.singleton gap ++ word ++ after)).getLast? = some word := by
  have hempty : ∀ blanks : List Char, (∀ char ∈ blanks, isWhitespace char = true) →
      ((blanks.splitOnP isWhitespace).filter fun part => !part.isEmpty) = [] := by
    intro blanks hblanks
    induction blanks with
    | nil => simp
    | cons char blanks ih =>
        obtain ⟨hchar, hrest⟩ := List.forall_mem_cons.mp hblanks
        have hsplit := List.splitOnP_append_cons (p := isWhitespace) [] blanks hchar
        rw [List.nil_append] at hsplit
        rw [hsplit, List.filter_append, ih hrest]
        simp
  have hend : ((word.toList ++ after.toList).splitOnP isWhitespace).filter
      (fun part => !part.isEmpty) = [word.toList] := by
    cases hchars : after.toList with
    | nil =>
        rw [List.append_nil, List.splitOnP_eq_singleton hplain]
        simpa using hword
    | cons char blanks =>
        rw [hchars] at hafter
        obtain ⟨hchar, hrest⟩ := List.forall_mem_cons.mp hafter
        rw [List.splitOnP_append_cons_of_forall_mem hplain char hchar, List.filter_cons_of_pos
          (by simpa using hword), hempty blanks hrest]
  have htext : (front ++ String.singleton gap ++ word ++ after).toList =
      front.toList ++ gap :: (word.toList ++ after.toList) := by simp
  rw [splitWhitespace, htext, List.splitOnP_append_cons _ _ hgap, List.filter_append, hend]
  simp

end Kernmux.Library
