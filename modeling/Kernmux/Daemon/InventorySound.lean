import Kernmux.Daemon.Inventory
import Kernmux.Library.Versioned

/-!
# Kernmux.Daemon.InventorySound

**A generation identifies one host state.** The service refines the versioned
cell of `Library/Versioned.lean`: its version is the generation, its content is
the generation-relevant state with every generation mark removed
(`content`). The marks have to go because a snapshot carries its own generation
in several places, so two snapshots of one host state taken at different
generations are never literally equal.

The comparison in `nextSnapshot` is made between two snapshots with the *same*
mark, which is why it decides equality of contents (`relevant_eq_iff`).
-/

namespace Kernmux.Daemon.Inventory

open Api.V1 Kernmux.Core Library Versioned

variable {snapshot current : HostSnapshot} {n m : ℕ}

/-! ### Contents -/

/-- Mark a snapshot and all its instances with a generation. -/
def restamp (generation : Generation) (snapshot : HostSnapshot) : HostSnapshot :=
  { snapshot with
    generation := generation
    instances := snapshot.instances.map fun inst => { inst with generation := generation } }

/-- Generation-relevant state without its generation marks. -/
def content (snapshot : HostSnapshot) : HostSnapshot :=
  restamp ⟨0⟩ (generationRelevantState snapshot)

/-- What an observation says about the generation-relevant state of the host. -/
def observedContent (observations : HostObservations) : HostSnapshot :=
  content (assembleSnapshot ⟨0⟩ observations)

theorem restamp_assembleSnapshot (marked generation : Generation) (obs : HostObservations) :
    restamp generation (assembleSnapshot marked obs) = assembleSnapshot generation obs := by
  simp only [restamp, assembleSnapshot, mapInstances, List.map_map]
  rfl

theorem restamp_restamp (outer inner : Generation) (snapshot : HostSnapshot) :
    restamp outer (restamp inner snapshot) = restamp outer snapshot := by
  simp only [restamp, List.map_map]
  rfl

/-- Marking commutes with forgetting free memory. -/
theorem restamp_generationRelevantState (generation : Generation) (snapshot : HostSnapshot) :
    restamp generation (generationRelevantState snapshot) =
      generationRelevantState (restamp generation snapshot) := rfl

@[simp] theorem content_assembleSnapshot (generation : Generation) (obs : HostObservations) :
    content (assembleSnapshot generation obs) = observedContent obs := by
  rw [observedContent, content, content, restamp_generationRelevantState,
    restamp_generationRelevantState, restamp_assembleSnapshot, restamp_assembleSnapshot]

/-- A content and a mark give back the generation-relevant state. -/
theorem restamp_observedContent (generation : Generation) (obs : HostObservations) :
    restamp generation (observedContent obs) =
      generationRelevantState (assembleSnapshot generation obs) := by
  rw [observedContent, content, restamp_restamp, restamp_generationRelevantState,
    restamp_assembleSnapshot]

/-- Under one mark, equal generation-relevant state is equal content. -/
theorem relevant_eq_iff (generation : Generation) (obs obs' : HostObservations) :
    generationRelevantState (assembleSnapshot generation obs) =
        generationRelevantState (assembleSnapshot generation obs') ↔
      observedContent obs = observedContent obs' := by
  constructor
  · intro h
    rw [← content_assembleSnapshot generation obs, ← content_assembleSnapshot generation obs',
      content, content, h]
  · intro h
    rw [← restamp_observedContent, ← restamp_observedContent, h]

/-! ### The retained snapshot is a versioned cell -/

/-- A snapshot that `assembleSnapshot` made from some observation. -/
def Assembled (snapshot : HostSnapshot) : Prop :=
  ∃ obs, snapshot = assembleSnapshot snapshot.generation obs

theorem assembled_assembleSnapshot (generation : Generation) (obs : HostObservations) :
    Assembled (assembleSnapshot generation obs) := ⟨obs, rfl⟩

/-- An assembled snapshot is determined by its generation and its content. -/
theorem Assembled.relevant_eq {other : HostSnapshot} (h : Assembled snapshot) (h' : Assembled other)
    (hgen : snapshot.generation = other.generation) (hcontent : content snapshot = content other) :
    generationRelevantState snapshot = generationRelevantState other := by
  obtain ⟨obs, hobs⟩ := h
  obtain ⟨obs', hobs'⟩ := h'
  rw [hobs, hobs', content_assembleSnapshot, content_assembleSnapshot] at hcontent
  rw [hobs, hobs', hgen]
  exact (relevant_eq_iff other.generation obs obs').mpr hcontent

/-- The version of a snapshot and what it is the version of. -/
def cell (snapshot : HostSnapshot) : Versioned HostSnapshot :=
  ⟨snapshot.generation.val.toNat, content snapshot⟩

/-- How generations count: up to the largest word, where they stay. -/
def bump (version : ℕ) : ℕ := if version < 2 ^ 64 - 1 then version + 1 else version

theorem le_bump (version : ℕ) : version ≤ bump version := by
  unfold bump
  split <;> omega

theorem lt_bump {version : ℕ} (h : version < 2 ^ 64 - 1) : version < bump version := by
  rw [bump, if_pos h]
  exact Nat.lt_succ_self version

/-- Generations count as the saturating addition of the source does. -/
theorem toNat_saturatingAdd_one_eq_bump (word : UInt64) :
    (saturatingAdd word 1).toNat = bump word.toNat := by
  have hlt := word.toNat_lt
  have hone : (1 : UInt64).toNat = 1 := rfl
  rw [toNat_saturatingAdd, hone]
  unfold bump
  split <;> omega

/-- The answer to a good observation advances the cell by that observation. -/
theorem nextSnapshot_cell (hcurrent : Assembled current) (obs : HostObservations) :
    cell (nextSnapshot current obs) = observe bump (some (cell current)) (observedContent obs) := by
  obtain ⟨obs₀, hobs₀⟩ := hcurrent
  have hcontent : content current = observedContent obs₀ := by
    rw [hobs₀, content_assembleSnapshot]
  have hsame : generationRelevantState (assembleSnapshot current.generation obs) =
      generationRelevantState current ↔ content current = observedContent obs := by
    have hiff := relevant_eq_iff current.generation obs obs₀
    rw [← hobs₀] at hiff
    rw [hiff, hcontent]
    exact eq_comm
  unfold nextSnapshot
  by_cases h : content current = observedContent obs
  · rw [if_pos (hsame.mpr h), observe_same bump h]
    simp only [cell, content_assembleSnapshot, h]
    rfl
  · rw [if_neg (fun hEq => h (hsame.mp hEq)), observe_changed bump h]
    simp only [cell, content_assembleSnapshot]
    congr 1
    exact toNat_saturatingAdd_one_eq_bump current.generation.val

/-- The answer to a good observation is a healthy snapshot assembled from it. -/
theorem nextSnapshot_eq_assemble (current : HostSnapshot) (obs : HostObservations) :
    ∃ generation, nextSnapshot current obs = assembleSnapshot generation obs := by
  unfold nextSnapshot
  dsimp only
  split
  · exact ⟨_, rfl⟩
  · exact ⟨_, rfl⟩

/-- A good observation is answered with what is retained from then on: a healthy snapshot
that advances the cell. -/
theorem settle_ok_cell {ε : Type} {current : Option HostSnapshot}
    (hcurrent : ∀ snapshot, current = some snapshot → Assembled snapshot) (obs : HostObservations) :
    ∃ snapshot, settle (ε := ε) current (.ok obs) = (.ok snapshot, some snapshot) ∧
      Assembled snapshot ∧
      cell snapshot = observe bump (current.map cell) (observedContent obs) := by
  cases current with
  | none =>
      refine ⟨_, rfl, assembled_assembleSnapshot ⟨1⟩ obs, ?_⟩
      simp only [cell, content_assembleSnapshot]
      rfl
  | some current =>
      obtain ⟨generation, hnext⟩ := nextSnapshot_eq_assemble current obs
      refine ⟨_, rfl, ?_, nextSnapshot_cell (hcurrent current rfl) obs⟩
      rw [hnext]
      exact assembled_assembleSnapshot generation obs

/-- A failed observation changes nothing and is not answered with a healthy snapshot. -/
theorem settle_error {ε : Type} (current : Option HostSnapshot) (error : ε) :
    (settle current (.error error)).2 = current ∧
      ∀ snapshot, (settle current (.error error)).1 = .ok snapshot → snapshot.health ≠ .healthy := by
  cases current with
  | none => exact ⟨rfl, by simp [settle]⟩
  | some current =>
      refine ⟨rfl, fun snapshot h => ?_⟩
      cases h
      simp [staleSnapshot]

/-! ### Runs

The source is an infinite sequence of results, so that every run of any length
is a prefix of one. `retained` is what the service holds before refresh number
`n` and `answer` what that refresh returns. -/

section Runs

variable {ε : Type}

/-- A source that hands out a given sequence of results. -/
def sequenceSource (ε : Type) : InventorySource (ℕ → Except ε HostObservations) ε where
  observe results := (results 0, fun n => results (n + 1))

variable (results : ℕ → Except ε HostObservations)

/-- The service after `n` refreshes. -/
def serviceAfter : ℕ → InventoryService (ℕ → Except ε HostObservations)
  | 0 => .new results
  | n + 1 => ((serviceAfter n).refresh (sequenceSource ε)).2

/-- The snapshot retained when refresh number `n` starts. -/
def retained (n : ℕ) : Option HostSnapshot := (serviceAfter results n).current

/-- What refresh number `n` returns. -/
def answer (n : ℕ) : Except ε HostSnapshot :=
  ((serviceAfter results n).refresh (sequenceSource ε)).1

theorem serviceAfter_source (n k : ℕ) : (serviceAfter results n).source k = results (n + k) := by
  induction n generalizing k with
  | zero => rw [Nat.zero_add]; rfl
  | succ n ih =>
      have hstep : (serviceAfter results (n + 1)).source k =
          (serviceAfter results n).source (k + 1) := rfl
      rw [hstep, ih, Nat.add_right_comm, Nat.add_assoc]

theorem answer_eq (n : ℕ) : answer results n = (settle (retained results n) (results n)).1 := by
  have h := serviceAfter_source results n 0
  rw [Nat.add_zero] at h
  rw [← h]
  rfl

@[simp] theorem retained_zero : retained results 0 = none := rfl

theorem retained_succ (n : ℕ) :
    retained results (n + 1) = (settle (retained results n) (results n)).2 := by
  have h := serviceAfter_source results n 0
  rw [Nat.add_zero] at h
  rw [← h]
  rfl

/-! ### One refresh -/

variable {results}

theorem retained_succ_of_error {error : ε} (h : results n = .error error) :
    retained results (n + 1) = retained results n := by
  rw [retained_succ, h]
  cases retained results n <;> rfl

theorem answer_of_error {error : ε} (h : results n = .error error)
    (hcurrent : retained results n = some current) :
    answer results n = .ok (staleSnapshot current) := by
  rw [answer_eq, h, hcurrent]
  rfl

/-- A good observation is answered with what is retained from then on. -/
theorem answer_of_ok {obs : HostObservations} (h : results n = .ok obs) :
    ∃ generation, answer results n = .ok (assembleSnapshot generation obs) ∧
      retained results (n + 1) = some (assembleSnapshot generation obs) := by
  rw [answer_eq, retained_succ, h]
  cases retained results n with
  | none => exact ⟨⟨1⟩, rfl, rfl⟩
  | some current =>
      obtain ⟨generation, hnext⟩ := nextSnapshot_eq_assemble current obs
      refine ⟨generation, ?_, ?_⟩
      · rw [← hnext]; rfl
      · rw [← hnext]; rfl

/-- Every answer is the snapshot retained after it, possibly marked stale. -/
theorem answer_retained (h : answer results n = .ok snapshot) :
    ∃ current, retained results (n + 1) = some current ∧
      (snapshot = current ∨ snapshot = staleSnapshot current) := by
  cases hres : results n with
  | ok obs =>
      obtain ⟨generation, hans, hret⟩ := answer_of_ok hres
      rw [hans] at h
      exact ⟨_, hret, .inl (Except.ok.inj h).symm⟩
  | error error =>
      have hret := retained_succ_of_error hres
      cases hcur : retained results n with
      | none =>
          rw [answer_eq, hres, hcur] at h
          exact absurd h (by simp [settle])
      | some current =>
          rw [answer_of_error hres hcur] at h
          exact ⟨current, hret.trans hcur, .inr (Except.ok.inj h).symm⟩

/-- What is retained was assembled from an observation. -/
theorem retained_assembled (h : retained results n = some current) : Assembled current := by
  induction n with
  | zero => cases h
  | succ n ih =>
      cases hres : results n with
      | ok obs =>
          obtain ⟨generation, -, hret⟩ := answer_of_ok hres
          obtain rfl : assembleSnapshot generation obs = current := by
            rw [hret] at h; exact Option.some.inj h
          exact assembled_assembleSnapshot generation obs
      | error error => exact ih (by rw [← retained_succ_of_error hres]; exact h)

/-- Over time the retained snapshot is a versioned cell. -/
theorem retained_evolves (results : ℕ → Except ε HostObservations) :
    Evolves bump fun n => (retained results n).map cell := by
  intro n
  cases hres : results n with
  | error error => exact .inl (congrArg _ (retained_succ_of_error hres))
  | ok obs =>
      refine .inr ⟨observedContent obs, ?_⟩
      show (retained results (n + 1)).map cell =
        some (observe bump ((retained results n).map cell) (observedContent obs))
      have hassembled : ∀ snapshot, retained results n = some snapshot → Assembled snapshot :=
        fun _ => retained_assembled
      obtain ⟨snapshot, hsettle, -, hcell⟩ := settle_ok_cell (ε := ε) hassembled obs
      rw [retained_succ, hres, hsettle, Option.map_some, hcell]

/-- The retained snapshots of a run come one after the other. -/
theorem retained_precedes (hmn : m ≤ n) {earlier later : HostSnapshot}
    (h : retained results m = some earlier) (h' : retained results n = some later) :
    Precedes (2 ^ 64 - 1) (cell earlier) (cell later) := by
  obtain ⟨reached, hreached, hprec⟩ := (retained_evolves results).precedes
    le_bump (fun _ => lt_bump) hmn (congrArg (Option.map cell) h)
  rw [h'] at hreached
  cases hreached
  exact hprec

/-! ### Errors change nothing -/

/-- Refresh `m` succeeded and every one between `m` and `n` failed. -/
def LastSuccess (results : ℕ → Except ε HostObservations) (m n : ℕ) (obs : HostObservations) :
    Prop :=
  m < n ∧ results m = .ok obs ∧ ∀ k, m < k → k < n → ∃ error, results k = .error error

/-- Failed refreshes keep what the last good one retained. -/
theorem LastSuccess.retained_eq {obs : HostObservations} (h : LastSuccess results m n obs)
    (hans : answer results m = .ok snapshot) :
    retained results n = some snapshot := by
  obtain ⟨hmn, hobs, herrors⟩ := h
  induction n, hmn using Nat.le_induction with
  | base =>
      obtain ⟨generation, hans', hret⟩ := answer_of_ok hobs
      rw [hans'] at hans
      rw [hret, Except.ok.inj hans]
  | succ n hmn ih =>
      obtain ⟨error, herror⟩ := herrors n hmn (Nat.lt_succ_self n)
      rw [retained_succ_of_error herror]
      exact ih fun k hk hkn => herrors k hk (hkn.trans (Nat.lt_succ_self n))

/-- The sequence of results without its entry number `n`. -/
def dropResult (results : ℕ → Except ε HostObservations) (n : ℕ) : ℕ → Except ε HostObservations :=
  fun k => if k < n then results k else results (k + 1)

theorem retained_dropResult_of_le : ∀ {k : ℕ}, k ≤ n →
    retained (dropResult results n) k = retained results k
  | 0, _ => rfl
  | k + 1, h => by
      have hk : dropResult results n k = results k := if_pos (Nat.lt_of_succ_le h)
      rw [retained_succ, retained_succ, hk, retained_dropResult_of_le (Nat.le_of_succ_le h)]

/-- After a failed refresh the service is where it would be without it. -/
theorem retained_dropResult {error : ε} (herror : results n = .error error) {k : ℕ}
    (hnk : n ≤ k) : retained (dropResult results n) k = retained results (k + 1) := by
  induction k, hnk using Nat.le_induction with
  | base => rw [retained_succ_of_error herror, retained_dropResult_of_le (Nat.le_refl n)]
  | succ k hnk ih =>
      have hk : dropResult results n k = results (k + 1) := if_neg (Nat.not_lt.mpr hnk)
      rw [retained_succ, retained_succ, hk, ih]

theorem answer_dropResult {error : ε} (herror : results n = .error error) {k : ℕ}
    (hnk : n ≤ k) : answer (dropResult results n) k = answer results (k + 1) := by
  have hk : dropResult results n k = results (k + 1) := if_neg (Nat.not_lt.mpr hnk)
  rw [answer_eq, answer_eq, hk, retained_dropResult herror hnk]

/-! ### The generation of a run -/

/-- What the generations of a run mean. `results` is any sequence of observations and
errors; snapshots are compared by what is relevant for generations. -/
structure GenerationHistory (results : ℕ → Except ε HostObservations) : Prop where
  /-- Below the largest word a generation names one host state. -/
  identifies : ∀ m n snapshot other, answer results m = .ok snapshot →
    answer results n = .ok other → snapshot.health = .healthy → other.health = .healthy →
    snapshot.generation.val ≠ maxWord → snapshot.generation = other.generation →
    generationRelevantState snapshot = generationRelevantState other
  /-- The generation never decreases. -/
  monotone : ∀ m n snapshot other, m ≤ n → answer results m = .ok snapshot →
    answer results n = .ok other → snapshot.generation.val ≤ other.generation.val
  /-- A good refresh counts up by one when it brings something new and else keeps
  the generation of the last good one. -/
  counts : ∀ m n obs obs' snapshot other, LastSuccess results m n obs →
    results n = .ok obs' → answer results m = .ok snapshot → answer results n = .ok other →
    snapshot.generation.val ≠ maxWord →
    other.generation.val.toNat =
      if observedContent obs = observedContent obs' then snapshot.generation.val.toNat
      else snapshot.generation.val.toNat + 1
  /-- An error after the first success answers with the last good snapshot marked
  indeterminate and leaves no trace in the rest of the run. -/
  errors : ∀ m n obs error snapshot, LastSuccess results m n obs →
    results n = .error error → answer results m = .ok snapshot →
    answer results n = .ok (staleSnapshot snapshot) ∧
      retained results (n + 1) = retained results n ∧
      ∀ k, n ≤ k → answer results (k + 1) = answer (dropResult results n) k

/-- An answer's generation is that of the snapshot retained after it; a healthy answer is
that snapshot. -/
theorem answer_spec (h : answer results n = .ok snapshot) :
    ∃ current, retained results (n + 1) = some current ∧ snapshot.generation = current.generation ∧
      (snapshot.health = .healthy → snapshot = current) := by
  obtain ⟨current, hret, hcase⟩ := answer_retained h
  refine ⟨current, hret, ?_, ?_⟩
  · rcases hcase with rfl | rfl <;> rfl
  · rcases hcase with rfl | rfl
    · exact fun _ => rfl
    · intro hhealth
      exact absurd hhealth (by simp [staleSnapshot])

/-- Retained snapshots with one generation below the largest word have one state. -/
theorem retained_identifies {earlier later : HostSnapshot} (hmn : m ≤ n)
    (h : retained results m = some earlier) (h' : retained results n = some later)
    (hmax : earlier.generation.val ≠ maxWord) (hgen : earlier.generation = later.generation) :
    generationRelevantState earlier = generationRelevantState later := by
  have hprec := (retained_precedes hmn h h').2 (toNat_lt_of_ne_maxWord hmax)
  refine (retained_assembled h).relevant_eq (retained_assembled h') hgen (hprec ?_)
  exact congrArg (fun generation => generation.val.toNat) hgen

/-- The generations of a run of the inventory service, over every sequence of
observations and errors its source may hand out. -/
theorem refresh_generationHistory (results : ℕ → Except ε HostObservations) :
    GenerationHistory results where
  identifies m n snapshot other hsnapshot hother hhealthy hhealthy' hmax hgen := by
    obtain ⟨current, hret, -, hcur⟩ := answer_spec hsnapshot
    obtain ⟨current', hret', -, hcur'⟩ := answer_spec hother
    obtain rfl := hcur hhealthy
    obtain rfl := hcur' hhealthy'
    rcases Nat.le_total m n with hmn | hnm
    · exact retained_identifies (Nat.succ_le_succ hmn) hret hret' hmax hgen
    · exact (retained_identifies (Nat.succ_le_succ hnm) hret' hret (hgen ▸ hmax) hgen.symm).symm
  monotone m n snapshot other hmn hsnapshot hother := by
    obtain ⟨current, hret, hgen, -⟩ := answer_spec hsnapshot
    obtain ⟨current', hret', hgen', -⟩ := answer_spec hother
    rw [hgen, hgen', UInt64.le_iff_toNat_le]
    exact (retained_precedes (Nat.succ_le_succ hmn) hret hret').1
  counts m n obs obs' snapshot other hlast hobs' hsnapshot hother hmax := by
    have hret := hlast.retained_eq hsnapshot
    have hcontent : content snapshot = observedContent obs := by
      obtain ⟨generation, hans, -⟩ := answer_of_ok hlast.2.1
      rw [hans] at hsnapshot
      rw [← Except.ok.inj hsnapshot, content_assembleSnapshot]
    have hnext : other = nextSnapshot snapshot obs' := by
      rw [answer_eq, hobs', hret] at hother
      exact (Except.ok.inj hother).symm
    have hcell := congrArg version (nextSnapshot_cell (retained_assembled hret) obs')
    rw [← hnext] at hcell
    rw [← hcontent]
    split
    case isTrue h =>
      rwa [observe_same bump h] at hcell
    case isFalse h =>
      rw [observe_changed bump h] at hcell
      exact hcell.trans (if_pos (toNat_lt_of_ne_maxWord hmax))
  errors m n obs error snapshot hlast herror hsnapshot :=
    ⟨answer_of_error herror (hlast.retained_eq hsnapshot), retained_succ_of_error herror,
      fun _ hnk => (answer_dropResult herror hnk).symm⟩

end Runs

end Kernmux.Daemon.Inventory
