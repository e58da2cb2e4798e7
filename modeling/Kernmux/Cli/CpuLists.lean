import Kernmux.Cli.Commands
import Kernmux.Core.HostProbe
import Kernmux.Daemon.Lifecycle

/-!
# Kernmux.Cli.CpuLists

**CPU lists mean the same set everywhere.** The command line and the host probe
read lists of CPUs and of ranges of CPUs, and the daemon writes such lists for
Kerf. What a list means is said once, by what is written in each of its parts
(`Written`). The command line accepts fewer lists than the probe: it refuses
blanks, empty parts, long ranges and CPUs that are written twice. What it does
accept, the probe reads in the same way.
-/

namespace Kernmux.Cli

open Kernmux.Core Library

variable {part value : String} {range : ℕ × ℕ} {cpus others : List UInt32} {parts : List String}
  {ranges : List (ℕ × ℕ)}

/-! ### What is written -/

/-- A part of a list is one CPU, or a range with its first and its last CPU. -/
inductive Written : String → ℕ × ℕ → Prop
  | cpu {part : String} {cpu : ℕ} (hdash : '-' ∉ part.toList)
      (hcpu : parseUnsigned (2 ^ 32) part = some cpu) : Written part (cpu, cpu)
  | range {first last : String} {low high : ℕ} (hdash : '-' ∉ first.toList)
      (hlow : parseUnsigned (2 ^ 32) first = some low)
      (hhigh : parseUnsigned (2 ^ 32) last = some high) (hle : low ≤ high) :
      Written (first ++ String.singleton '-' ++ last) (low, high)

/-- The numbers from the first to the last. -/
def interval (range : ℕ × ℕ) : List ℕ := List.range' range.1 (range.2 - range.1 + 1)

/-- The CPUs of some ranges, in the order in which they are written. -/
def written (ranges : List (ℕ × ℕ)) : List UInt32 := (ranges.flatMap interval).map UInt32.ofNat

theorem Written.high_lt (h : Written part range) : range.1 ≤ range.2 ∧ range.2 < 2 ^ 32 := by
  cases h with
  | cpu _ hcpu => exact ⟨Nat.le_refl _, parseUnsigned_lt hcpu⟩
  | range _ _ hhigh hle => exact ⟨hle, parseUnsigned_lt hhigh⟩

theorem mem_interval (h : range.1 ≤ range.2) {number : ℕ} :
    number ∈ interval range ↔ range.1 ≤ number ∧ number ≤ range.2 := by
  rw [interval, List.mem_range'_1]
  omega

/-! ### The command line -/

theorem of_numberU64_eq_ok {label : String} {number : UInt64}
    (h : numberU64 value label = .ok number) :
    parseUnsigned (2 ^ 64) value = some number.toNat := by
  obtain ⟨found, hfound, hnumber⟩ := bind_eq_ok.mp h
  rw [okOr_eq_ok] at hfound
  obtain rfl := pure_eq_ok.mp hnumber
  rw [hfound, UInt64.toNat_ofNat_of_lt' (parseUnsigned_lt hfound)]

/-- Each CPU joins the set behind the others. -/
theorem of_insertCpu_eq_ok {cpu : ℕ} (h : insertCpu cpus cpu = .ok others) :
    cpu < 2 ^ 32 ∧ UInt32.ofNat cpu ∉ cpus ∧ others = cpus ++ [.ofNat cpu] := by
  simp only [insertCpu, guard_eq_ok, rejectIf_eq_ok, pure_eq_ok] at h
  obtain ⟨hfits, hnew, rfl⟩ := h
  exact ⟨Nat.lt_of_not_le hfits, hnew, rfl⟩

theorem foldlM_insertCpu {numbers : List ℕ} (h : numbers.foldlM insertCpu cpus = .ok others)
    (hcpus : cpus.Nodup) :
    others = cpus ++ numbers.map UInt32.ofNat ∧ others.Nodup := by
  induction numbers generalizing cpus with
  | nil =>
      cases h
      exact ⟨(List.append_nil _).symm, hcpus⟩
  | cons number numbers ih =>
      rw [List.foldlM_cons, bind_eq_ok] at h
      obtain ⟨next, hnext, hrest⟩ := h
      obtain ⟨-, hnew, rfl⟩ := of_insertCpu_eq_ok hnext
      have hnodup : (cpus ++ [UInt32.ofNat number]).Nodup := by
        rw [List.nodup_append_comm]
        exact List.nodup_cons.mpr ⟨hnew, hcpus⟩
      obtain ⟨hothers, hresult⟩ := ih hrest hnodup
      refine ⟨?_, hresult⟩
      rw [hothers, List.map_cons, List.append_assoc, List.singleton_append]

theorem of_insertCpuRange_eq_ok (h : insertCpuRange cpus part = .ok others) (hcpus : cpus.Nodup) :
    ∃ range, Written part range ∧ others = cpus ++ (interval range).map UInt32.ofNat ∧
      others.Nodup := by
  rw [insertCpuRange, bind_eq_ok] at h
  obtain ⟨first, hfirst, h⟩ := h
  obtain ⟨last, hlast, h⟩ := bind_eq_ok.mp h
  rw [guard_eq_ok, rejectIf_eq_ok] at h
  simp only [not_or, gt_iff_lt, not_lt] at h
  obtain ⟨⟨hlow, hhigh, hle, -⟩, hfold⟩ := h
  have hle := UInt64.le_iff_toNat_le.mp (UInt64.not_lt.mp hle)
  have hfirst := of_numberU64_eq_ok hfirst
  have hlast := of_numberU64_eq_ok hlast
  refine ⟨(first.toNat, last.toNat), ?_, foldlM_insertCpu hfold hcpus⟩
  cases hsplit : splitOnce '-' part with
  | none =>
      rw [hsplit] at hfirst hlast
      have hsame : first.toNat = last.toNat := Option.some.inj (hfirst.symm.trans hlast)
      rw [← hsame]
      exact .cpu (not_mem_of_splitOnce hsplit) (parseUnsigned_of_lt hfirst (by omega))
  | some bounds =>
      obtain ⟨low, high⟩ := bounds
      rw [hsplit] at hfirst hlast
      obtain ⟨rfl, hdash⟩ := eq_append_of_splitOnce hsplit
      exact .range hdash (parseUnsigned_of_lt hfirst (by omega))
        (parseUnsigned_of_lt hlast (by omega)) hle

theorem foldlM_insertCpuRange (h : parts.foldlM insertCpuRange cpus = .ok others)
    (hcpus : cpus.Nodup) :
    ∃ ranges, List.Forall₂ Written parts ranges ∧ others = cpus ++ written ranges ∧
      others.Nodup := by
  induction parts generalizing cpus with
  | nil =>
      cases h
      exact ⟨[], .nil, (List.append_nil _).symm, hcpus⟩
  | cons part parts ih =>
      rw [List.foldlM_cons, bind_eq_ok] at h
      obtain ⟨next, hnext, hrest⟩ := h
      obtain ⟨range, hrange, rfl, hnodup⟩ := of_insertCpuRange_eq_ok hnext hcpus
      obtain ⟨ranges, hranges, hothers, hresult⟩ := ih hrest hnodup
      refine ⟨range :: ranges, .cons hrange hranges, ?_, hresult⟩
      rw [hothers, written, written, List.flatMap_cons, List.map_append, List.append_assoc]

/-- A list that is accepted is the set of what is written in it, and nothing is written twice. -/
theorem of_cpuList_eq_ok (h : cpuList value = .ok cpus) :
    ∃ ranges, List.Forall₂ Written (splitText ',' value) ranges ∧ cpus = elements (written ranges) ∧
      (written ranges).Nodup := by
  rw [cpuList, guard_eq_ok] at h
  obtain ⟨others, hfold, hcpus⟩ := bind_eq_ok.mp h.2
  obtain rfl := pure_eq_ok.mp hcpus
  obtain ⟨ranges, hranges, rfl, hnodup⟩ := foldlM_insertCpuRange hfold List.nodup_nil
  exact ⟨ranges, hranges, rfl, hnodup⟩

/-! ### The host probe -/

theorem isWhitespace_of_isDigit {char : Char} (h : char.isDigit = true) :
    isWhitespace char = false := by
  simp only [Char.isDigit, Bool.and_eq_true, decide_eq_true_eq, UInt32.le_iff_toNat_le] at h
  have hlow : 48 ≤ char.toNat := h.1
  have hhigh : char.toNat ≤ 57 := h.2
  simp [isWhitespace]
  omega

/-- A part contains neither blanks nor nothing. -/
theorem Written.trimText_eq (h : Written part range) : trimText part = part ∧ part ≠ "" := by
  have hplain : ∀ {text : String} {number : ℕ}, parseUnsigned (2 ^ 32) text = some number →
      ∀ char ∈ text.toList, isWhitespace char = false := by
    intro text number hnumber char hchar
    rcases (mem_of_parseUnsigned hnumber).2 char hchar with rfl | hdigit
    · decide
    · exact isWhitespace_of_isDigit hdigit
  cases h with
  | cpu _ hcpu => exact ⟨trimText_eq_self (hplain hcpu), (mem_of_parseUnsigned hcpu).1⟩
  | range _ hlow hhigh _ =>
      constructor
      · refine trimText_eq_self ?_
        intro char hchar
        simp only [String.toList_append, String.toList_singleton, List.mem_append,
          List.mem_singleton] at hchar
        rcases hchar with (hfirst | rfl) | hlast
        · exact hplain hlow char hfirst
        · decide
        · exact hplain hhigh char hlast
      · intro hempty
        have hlist := congrArg String.toList hempty
        simp at hlist

theorem parseU32Value_of_some {number : ℕ} (h : parseUnsigned (2 ^ 32) value = some number)
    (context : String) :
    parseU32Value value context = .ok (.ofNat number) := by
  rw [parseU32Value, h]
  rfl

/-- The probe reads a part as it is written. -/
theorem Written.parseCpuRange_eq (h : Written part range) :
    parseCpuRange part = .ok ((interval range).map UInt32.ofNat) := by
  have hfits := h.high_lt
  cases h with
  | @cpu part cpu hdash hcpu =>
      rw [parseCpuRange, splitOnce_of_not_mem hdash, parseU32Value_of_some hcpu]
      simp only [interval, Nat.sub_self]
      rfl
  | @range first last low high hdash hlow hhigh hle =>
      have hlowNat : (UInt32.ofNat low).toNat = low :=
        UInt32.toNat_ofNat_of_lt' (Nat.lt_of_le_of_lt hle hfits.2)
      have hhighNat : (UInt32.ofNat high).toNat = high := UInt32.toNat_ofNat_of_lt' hfits.2
      have hordered : ¬ UInt32.ofNat low > UInt32.ofNat high := by
        rw [gt_iff_lt, UInt32.lt_iff_toNat_lt, hlowNat, hhighNat]
        omega
      rw [parseCpuRange, splitOnce_append hdash]
      simp only [parseU32Value_of_some hlow, parseU32Value_of_some hhigh]
      show (rejectIf (UInt32.ofNat low > UInt32.ofNat high) _ >>= fun _ => _) = _
      rw [guard_eq_ok, rejectIf_eq_ok]
      refine ⟨hordered, ?_⟩
      rw [hlowNat, hhighNat]
      rfl

theorem collectEach_parseCpuRange (h : List.Forall₂ Written parts ranges) :
    collectEach ((parts.map trimText).filter (· ≠ "")) parseCpuRange =
      .ok (ranges.map fun range => (interval range).map UInt32.ofNat) := by
  induction h with
  | nil => rfl
  | @cons part range parts ranges hpart _ ih =>
      obtain ⟨htrim, hne⟩ := hpart.trimText_eq
      rw [List.map_cons, htrim, List.filter_cons_of_pos (by simpa using hne)]
      rw [collectEach_eq_ok] at ih ⊢
      exact .cons hpart.parseCpuRange_eq ih

/-- The probe finds the set of what is written. -/
theorem parseCpuList_of_written (h : List.Forall₂ Written (splitText ',' value) ranges) :
    parseCpuList value = .ok (elements (written ranges)) := by
  have hflatten : (ranges.map fun range => (interval range).map UInt32.ofNat).flatten =
      written ranges := by
    rw [written, List.map_flatMap, List.flatMap_def]
  rw [parseCpuList, collectEach_parseCpuRange h]
  show Except.ok _ = _
  rw [hflatten]
  refine congrArg Except.ok (eq_elements (List.nodup_dedup _) ?_ ?_)
  · exact (List.pairwise_insertionSort _ _).sublist (List.dedup_sublist _)
  · intro cpu
    rw [List.mem_dedup, List.mem_insertionSort]

/-! ### The daemon's lists -/

theorem numberU64_toString (cpu : UInt32) (label : String) :
    numberU64 (toString cpu.toNat) label = .ok (.ofNat cpu.toNat) := by
  have hfits : cpu.toNat < 2 ^ 64 := Nat.lt_trans cpu.toNat_lt (by decide)
  rw [numberU64, parseUnsigned_toString hfits]
  rfl

/-- One CPU that is written in digits joins the set. -/
theorem insertCpuRange_toString {cpu : UInt32} (h : cpu ∉ cpus) :
    insertCpuRange cpus (toString cpu.toNat) = .ok (cpus ++ [cpu]) := by
  have hdash : '-' ∉ (toString cpu.toNat).toList :=
    fun hmem => absurd (isDigit_of_mem_toString hmem) (by decide)
  have hfits : cpu.toNat < 2 ^ 64 := Nat.lt_trans cpu.toNat_lt (by decide)
  have hnat : (UInt64.ofNat cpu.toNat).toNat = cpu.toNat := UInt64.toNat_ofNat_of_lt' hfits
  have hcpu := cpu.toNat_lt
  have hinsert : insertCpu cpus cpu.toNat = .ok (cpus ++ [cpu]) := by
    simp only [insertCpu, guard_eq_ok, rejectIf_eq_ok, pure_eq_ok, UInt32.ofNat_toNat]
    exact ⟨by omega, h, trivial⟩
  rw [insertCpuRange, splitOnce_of_not_mem hdash]
  simp only [Option.getD_none, numberU64_toString]
  show (rejectIf _ _ >>= fun _ => _) = _
  rw [guard_eq_ok, rejectIf_eq_ok]
  constructor
  · simp
    omega
  · rw [hnat, Nat.sub_self]
    show (insertCpu cpus cpu.toNat >>= fun cpus => .ok cpus) = _
    rw [hinsert]
    rfl

theorem foldlM_insertCpuRange_toString (h : (others ++ cpus).Nodup) :
    (cpus.map fun cpu => toString cpu.toNat).foldlM insertCpuRange others = .ok (others ++ cpus) := by
  induction cpus generalizing others with
  | nil => rw [List.append_nil]; rfl
  | cons cpu cpus ih =>
      have hnew : cpu ∉ others := by
        intro hmem
        exact (List.nodup_append.mp h).2.2 cpu hmem cpu List.mem_cons_self rfl
      rw [List.map_cons, List.foldlM_cons, insertCpuRange_toString hnew]
      have hrest : (others ++ [cpu] ++ cpus).Nodup := by simpa using h
      have hfold := ih hrest
      rw [List.append_assoc, List.singleton_append] at hfold
      exact hfold

/-- The command line reads a list of the daemon back. -/
theorem cpuList_render (hne : cpus ≠ []) (h : cpus.Pairwise (· < ·)) :
    cpuList (Daemon.Lifecycle.cpuList cpus) = .ok cpus := by
  have hnodup : cpus.Nodup := by
    refine h.imp ?_
    intro first second hlt heq
    exact UInt32.lt_irrefl second (heq ▸ hlt)
  have hsorted : cpus.Pairwise (· ≤ ·) := h.imp UInt32.le_of_lt
  have hcomma : ∀ item ∈ cpus.map fun cpu => toString cpu.toNat, ',' ∉ item.toList := by
    intro item hitem hmem
    obtain ⟨cpu, -, rfl⟩ := List.mem_map.mp hitem
    exact absurd (isDigit_of_mem_toString hmem) (by decide)
  have hsplit : splitText ',' (Daemon.Lifecycle.cpuList cpus) =
      cpus.map fun cpu => toString cpu.toNat :=
    splitText_intercalate (by simpa using hne) hcomma
  have hsome : Daemon.Lifecycle.cpuList cpus ≠ "" := by
    intro hempty
    have hpart : "" ∈ splitText ',' (Daemon.Lifecycle.cpuList cpus) := by
      rw [hempty]
      decide
    rw [hsplit] at hpart
    obtain ⟨cpu, -, hcpu⟩ := List.mem_map.mp hpart
    exact (mem_of_parseUnsigned (parseUnsigned_toString cpu.toNat_lt)).1 hcpu
  rw [cpuList, guard_eq_ok, rejectIf_eq_ok]
  refine ⟨hsome, ?_⟩
  rw [hsplit, foldlM_insertCpuRange_toString (by simpa using hnodup)]
  exact congrArg Except.ok (eq_elements hnodup hsorted fun _ => Iff.rfl).symm

/-! ### The three agree -/

theorem mem_written (h : List.Forall₂ Written parts ranges) (cpu : UInt32) :
    cpu ∈ written ranges ↔ ∃ range ∈ ranges, range.1 ≤ cpu.toNat ∧ cpu.toNat ≤ range.2 := by
  have hfits : ∀ range ∈ ranges, range.1 ≤ range.2 ∧ range.2 < 2 ^ 32 := by
    induction h with
    | nil => exact List.forall_mem_nil _
    | cons hpart _ ih =>
        intro range hrange
        rcases List.mem_cons.mp hrange with rfl | hrest
        · exact hpart.high_lt
        · exact ih range hrest
  simp only [written, List.mem_map, List.mem_flatMap]
  constructor
  · intro hcpu
    obtain ⟨number, ⟨range, hrange, hnumber⟩, rfl⟩ := hcpu
    obtain ⟨hle, hhigh⟩ := hfits range hrange
    have hbounds := (mem_interval hle).mp hnumber
    refine ⟨range, hrange, ?_⟩
    rw [UInt32.toNat_ofNat_of_lt' (Nat.lt_of_le_of_lt hbounds.2 hhigh)]
    exact hbounds
  · rintro ⟨range, hrange, hbounds⟩
    exact ⟨cpu.toNat, ⟨range, hrange, (mem_interval (hfits range hrange).1).mpr hbounds⟩,
      UInt32.ofNat_toNat⟩

/-- A list that the command line accepts is the ascending list of what is written in it, once
each, and the probe finds the same. -/
structure MeansSame (value : String) (cpus : List UInt32) : Prop where
  ne_nil : cpus ≠ []
  increasing : cpus.Pairwise (· < ·)
  union : ∃ ranges, List.Forall₂ Written (splitText ',' value) ranges ∧
    (∀ cpu : UInt32, cpu ∈ cpus ↔ ∃ range ∈ ranges, range.1 ≤ cpu.toNat ∧ cpu.toNat ≤ range.2) ∧
    (ranges.flatMap interval).Nodup
  probe : parseCpuList value = .ok cpus

theorem meansSame_of_cpuList (h : cpuList value = .ok cpus) : MeansSame value cpus := by
  obtain ⟨ranges, hranges, rfl, hnodup⟩ := of_cpuList_eq_ok h
  refine ⟨?_, ?_, ⟨ranges, hranges, ?_, hnodup.of_map _⟩, parseCpuList_of_written hranges⟩
  · -- a text has a first part, and the first CPU of that part is in the set
    intro hempty
    cases ranges with
    | nil =>
        rw [List.forall₂_nil_right_iff] at hranges
        simp [splitText] at hranges
    | cons range ranges =>
        have hfirst : UInt32.ofNat range.1 ∈ elements (written (range :: ranges)) := by
          rw [mem_elements]
          simp [written, interval, List.range'_succ]
        rw [hempty] at hfirst
        exact absurd hfirst List.not_mem_nil
  · have hsorted := elements_pairwise (written ranges)
    refine (hsorted.and (elements_nodup (written ranges))).imp ?_
    intro first second hpair
    exact UInt32.lt_of_le_of_ne hpair.1 hpair.2
  · intro cpu
    rw [mem_elements]
    exact mem_written hranges cpu

/-- CPU lists mean the same to the command line, the probe and the daemon. -/
theorem cpuLists_agree : (∀ value cpus, cpuList value = .ok cpus → MeansSame value cpus) ∧
    ∀ cpus : List UInt32, cpus ≠ [] → cpus.Pairwise (· < ·) →
      cpuList (Daemon.Lifecycle.cpuList cpus) = .ok cpus ∧
        parseCpuList (Daemon.Lifecycle.cpuList cpus) = .ok cpus := by
  constructor
  · intro value cpus h
    exact meansSame_of_cpuList h
  · intro cpus hne hincreasing
    have hread := cpuList_render hne hincreasing
    exact ⟨hread, (meansSame_of_cpuList hread).probe⟩

theorem cpuLists_agree_ranges : MeansSame "9,0-2" [0, 1, 2, 9] ∧
      cpuList (Daemon.Lifecycle.cpuList [3, 4, 4294967295]) = .ok [3, 4, 4294967295] ∧
      parseCpuList (Daemon.Lifecycle.cpuList [3, 4, 4294967295]) = .ok [3, 4, 4294967295] :=
  ⟨cpuLists_agree.1 "9,0-2" [0, 1, 2, 9] (by decide +kernel),
    cpuLists_agree.2 [3, 4, 4294967295] (by decide) (by decide)⟩

end Kernmux.Cli
