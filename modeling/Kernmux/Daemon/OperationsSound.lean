import Kernmux.Daemon.Operations
import Kernmux.Library.Text

/-!
# Kernmux.Daemon.OperationsSound

**The registry over whole runs.** What one call can do is said once
(`CallEffect`): it is rejected and changes nothing, or it creates the next
operation, or it moves one retained operation a step along its life
(`OperationStep`); in the last two cases exactly one event is published.

From this follow the invariant of a single registry (`RegistryInv`), where an
operation of a registry comes from (`origin_of_call`), and what two registries
of one run have to do with each other (`RegistryHistory`).
-/

namespace Kernmux.Daemon

open Api.V1 Library OperationRegistry

variable {before after operation : Operation} {registry : OperationRegistry}
  {operationCapacity eventCapacity next capacity n m : ℕ} {operations : List Operation}

theorem operationId_injective : Function.Injective operationId := by
  intro a b h
  have hstring : "op-" ++ toString a = "op-" ++ toString b := congrArg OperationId.val h
  exact toString_nat_injective ((String.append_right_inj _).mp hstring)

/-! ### The life of an operation -/

/-- Moves along the path from queued over running to a terminal state. -/
inductive StateStep : OperationState → OperationState → Prop
  | start : StateStep .queued .running
  | progress : StateStep .running .running
  | finishQueued {terminal : OperationState} (h : isTerminal terminal = true) :
      StateStep .queued terminal
  | finishRunning {terminal : OperationState} (h : isTerminal terminal = true) :
      StateStep .running terminal

/-- Progress does not go back; no progress at all comes first. -/
def ProgressLe (earlier later : Option UInt8) : Prop :=
  ∀ percent, earlier = some percent → ∃ percent', later = some percent' ∧ percent ≤ percent'

theorem ProgressLe.refl (progress : Option UInt8) : ProgressLe progress progress :=
  fun percent h => ⟨percent, h, UInt8.le_refl percent⟩

theorem ProgressLe.trans {a b c : Option UInt8} (hab : ProgressLe a b) (hbc : ProgressLe b c) :
    ProgressLe a c := by
  intro percent h
  obtain ⟨percent', h', hle⟩ := hab percent h
  obtain ⟨percent'', h'', hle'⟩ := hbc percent' h'
  exact ⟨percent'', h'', UInt8.le_trans hle hle'⟩

/-- One change of a retained operation. -/
structure OperationStep (before after : Operation) : Prop where
  id_eq : after.id = before.id
  state : StateStep before.state after.state
  progress : ProgressLe before.progressPercent after.progressPercent

/-- A state that the registry gives to an operation, and progress in percent once it has
been started. -/
structure OperationKnown (operation : Operation) : Prop where
  state : operation.state ≠ .unknown
  queued : operation.state = .queued → operation.progressPercent = none
  progress : ∀ percent, operation.progressPercent = some percent → percent ≤ 100

theorem StateStep.not_terminal {before after : OperationState} (h : StateStep before after) :
    isTerminal before = false := by
  cases h <;> rfl

theorem StateStep.known {before after : OperationState} (h : StateStep before after) :
    after ≠ .unknown := by
  intro heq
  subst heq
  cases h with
  | finishQueued h | finishRunning h => exact absurd h (by decide)

/-- A mutation that may be made to every known operation. -/
def Advances (mutation : Operation → Except OperationRegistryError Operation) : Prop :=
  ∀ before after, OperationKnown before → mutation before = .ok after →
    OperationStep before after ∧ OperationKnown after

theorem startMutation_eq_ok : startMutation before = .ok after ↔ before.state = .queued ∧
      { before with state := .running, progressPercent := some 0 } = after := by
  simp only [startMutation, guard_eq_ok, rejectIf_eq_ok, pure_eq_ok, ne_eq, not_not]

theorem progressMutation_eq_ok {progressPercent : UInt8} :
    progressMutation progressPercent before = .ok after ↔ before.state = .running ∧
      progressPercent ≤ 100 ∧
      (∀ percent, before.progressPercent = some percent → percent ≤ progressPercent) ∧
      { before with progressPercent := some progressPercent } = after := by
  simp only [progressMutation, guard_eq_ok, rejectIf_eq_ok, pure_eq_ok, ne_eq, not_not, not_or,
    gt_iff_lt, UInt8.not_lt, Option.any_eq_true, decide_eq_true_eq, not_exists, not_and, and_assoc]

theorem finishMutation_eq_ok {state : OperationState} {observedGeneration : Option Generation}
    {error : Option ApiError} {completedAt : String} :
    finishMutation state observedGeneration error completedAt before = .ok after ↔
      isTerminal before.state = false ∧ isTerminal state = true ∧
      { before with
        state := state
        observedGeneration := observedGeneration
        error := error
        completedAt := some completedAt
        progressPercent := if state = .succeeded then some 100 else before.progressPercent } =
          after := by
  simp only [finishMutation, guard_eq_ok, rejectIf_eq_ok, pure_eq_ok, not_or, Bool.not_eq_true,
    Bool.not_eq_false, and_assoc]

theorem startMutation_advances : Advances startMutation := by
  intro before after hknown h
  obtain ⟨hqueued, rfl⟩ := startMutation_eq_ok.mp h
  have hstep : StateStep before.state .running := hqueued ▸ .start
  refine ⟨⟨rfl, hstep, ?_⟩, ⟨hstep.known, fun heq => ?_, fun percent heq => ?_⟩⟩
  · intro percent hpercent
    rw [hknown.queued hqueued] at hpercent
    cases hpercent
  · cases heq
  · cases heq
    decide

theorem progressMutation_advances (progressPercent : UInt8) :
    Advances (progressMutation progressPercent) := by
  intro before after hknown h
  obtain ⟨hrunning, hbound, hforward, rfl⟩ := progressMutation_eq_ok.mp h
  have hstep : StateStep before.state before.state := by
    rw [hrunning]
    exact .progress
  refine ⟨⟨rfl, hstep, ?_⟩, ⟨hknown.state, fun heq => ?_, fun percent heq => ?_⟩⟩
  · exact fun percent hpercent => ⟨progressPercent, rfl, hforward percent hpercent⟩
  · exact absurd (hrunning.symm.trans heq) (by simp)
  · cases heq
    exact hbound

theorem finishMutation_advances (state : OperationState) (observedGeneration : Option Generation)
    (error : Option ApiError) (completedAt : String) :
    Advances (finishMutation state observedGeneration error completedAt) := by
  intro before after hknown h
  obtain ⟨hlive, hterminal, rfl⟩ := finishMutation_eq_ok.mp h
  have hstep : StateStep before.state state := by
    cases hbefore : before.state with
    | queued => exact .finishQueued hterminal
    | running => exact .finishRunning hterminal
    | unknown => exact absurd hbefore hknown.state
    -- what has come to an end is not finished again
    | succeeded | failed | cancelled | indeterminate =>
        rw [hbefore] at hlive
        exact absurd hlive (by decide)
  refine ⟨⟨rfl, hstep, ?_⟩, ⟨hstep.known, fun heq => ?_, fun percent heq => ?_⟩⟩
  · intro percent hpercent
    simp only
    split
    · exact ⟨100, rfl, hknown.progress percent hpercent⟩
    · exact ⟨percent, hpercent, UInt8.le_refl percent⟩
  · simp only at heq
    rw [heq] at hterminal
    exact absurd hterminal (by decide)
  · simp only at heq
    split at heq
    · cases heq
      decide
    · exact hknown.progress percent heq

/-! ### What one call can do -/

/-- The registry with other operations, after the event that announces `operation`. -/
def OperationRegistry.announce (registry : OperationRegistry) (nextOperation : UInt64)
    (operations : List Operation) (operation : Operation) : OperationRegistry :=
  { registry with
    state := publishOperationEvent registry.eventCapacity
      { registry.state with nextOperation := nextOperation, operations := operations } operation }

/-- The three effects of a call. -/
inductive CallEffect (registry : OperationRegistry) :
    Except OperationRegistryError Operation × OperationRegistry → Prop
  /-- Rejected: nothing happens. -/
  | rejected (error : OperationRegistryError) : CallEffect registry (.error error, registry)
  /-- The next operation joins the queue. -/
  | created (operation : Operation)
      (hid : operation.id = operationId registry.state.nextOperation.toNat)
      (hqueued : operation.state = .queued) (hprogress : operation.progressPercent = none) :
      CallEffect registry (.ok operation, registry.announce
        (saturatingAdd registry.state.nextOperation 1)
        (pushBounded registry.operationCapacity registry.state.operations operation) operation)
  /-- A retained operation makes a step where it stands. -/
  | advanced (before after : Operation) (index : ℕ)
      (hat : registry.state.operations[index]? = some before)
      (hstep : OperationKnown before → OperationStep before after ∧ OperationKnown after)
      (hid : after.id = before.id) :
      CallEffect registry (.ok after, registry.announce registry.state.nextOperation
        (registry.state.operations.set index after) after)

/-- What a call on one operation leads to. -/
inductive UpdateEffect (registry : OperationRegistry) (id : OperationId)
    (mutation : Operation → Except OperationRegistryError Operation) :
    Except OperationRegistryError Operation × OperationRegistry → Prop
  | missing (hget : registry.get id = none) :
      UpdateEffect registry id mutation (.error .notFound, registry)
  | rejected {before : Operation} {error : OperationRegistryError}
      (hget : registry.get id = some before) (hmutation : mutation before = .error error) :
      UpdateEffect registry id mutation (.error error, registry)
  | changed {before after : Operation} {index : ℕ} (hget : registry.get id = some before)
      (hmutation : mutation before = .ok after)
      (hat : registry.state.operations[index]? = some before) :
      UpdateEffect registry id mutation (.ok after, registry.announce
        registry.state.nextOperation (registry.state.operations.set index after) after)

theorem update_cases (registry : OperationRegistry) (id : OperationId)
    (mutation : Operation → Except OperationRegistryError Operation) :
    UpdateEffect registry id mutation (registry.update id mutation) := by
  unfold OperationRegistry.update
  cases hget : registry.get id with
  | none => exact .missing hget
  | some before =>
      cases hafter : mutation before with
      | error error =>
          simp only [hafter]
          exact .rejected hget hafter
      | ok after =>
          simp only [hafter]
          refine .changed hget hafter ?_
          rw [← hget, OperationRegistry.get, List.find?_eq_getElem?_findIdx]

theorem mem_of_get {id : OperationId} (h : registry.get id = some operation) :
    operation ∈ registry.state.operations ∧ operation.id = id :=
  ⟨List.mem_of_find?_eq_some h, by simpa using List.find?_some h⟩

theorem UpdateEffect.callEffect {id : OperationId}
    {mutation : Operation → Except OperationRegistryError Operation}
    {reached : Except OperationRegistryError Operation × OperationRegistry}
    (h : UpdateEffect registry id mutation reached) (hmutation : Advances mutation)
    (hid : ∀ before after, mutation before = .ok after → after.id = before.id) :
    CallEffect registry reached := by
  cases h with
  | missing hget => exact .rejected .notFound
  | rejected hget herror => exact .rejected _
  | changed hget hafter hat =>
      exact .advanced _ _ _ hat (fun hknown => hmutation _ _ hknown hafter) (hid _ _ hafter)

/-- Every call has one of the three effects. -/
theorem call_effect (registry : OperationRegistry) (call : RegistryCall) :
    CallEffect registry (registry.call call) := by
  cases call with
  | create request =>
      exact .created (queuedOperation registry.state.nextOperation request) rfl rfl rfl
  | start id =>
      refine (update_cases registry id _).callEffect startMutation_advances
        fun before after h => ?_
      rw [← (startMutation_eq_ok.mp h).2]
  | setProgress id progressPercent =>
      refine (update_cases registry id _).callEffect (progressMutation_advances progressPercent)
        fun before after h => ?_
      rw [← (progressMutation_eq_ok.mp h).2.2.2]
  | finish id state observedGeneration error completedAt =>
      refine (update_cases registry id _).callEffect
        (finishMutation_advances state observedGeneration error completedAt)
        fun before after h => ?_
      rw [← (finishMutation_eq_ok.mp h).2.2]

/-! ### The invariant -/

/-- Retained operations: the last ones created, each in a state the registry gives. -/
structure OperationsInv (next capacity : ℕ) (operations : List Operation) : Prop where
  numbered : Numbered operationId Operation.id next operations
  bounded : operations.length ≤ capacity
  known : ∀ operation ∈ operations, OperationKnown operation

/-- Retained events: the last ones published, with generations up to the latest. -/
structure EventsInv (next capacity : ℕ) (latest : Generation) (events : List Event) : Prop where
  numbered : Numbered id (fun event : Event => event.sequence.val.toNat) next events
  bounded : events.length ≤ capacity
  sorted : events.Pairwise fun one other =>
    one.snapshotGeneration.val ≤ other.snapshotGeneration.val
  le_latest : ∀ event ∈ events, event.snapshotGeneration.val ≤ latest.val

/-- What holds of a registry after `calls` calls. -/
structure RegistryInv (calls : ℕ) (registry : OperationRegistry) : Prop where
  operations : OperationsInv registry.state.nextOperation.toNat registry.operationCapacity
    registry.state.operations
  events : EventsInv registry.state.nextSequence.toNat registry.eventCapacity
    registry.state.latestGeneration registry.state.events
  nextOperation_le : registry.state.nextOperation.toNat ≤ calls + 1
  nextSequence_le : registry.state.nextSequence.toNat ≤ calls + 1

theorem OperationRegistry.of_new_eq_ok (h : OperationRegistry.new operationCapacity eventCapacity =
      .ok registry) :
    registry.operationCapacity = operationCapacity ∧ registry.eventCapacity = eventCapacity ∧
      registry.state = ⟨1, 1, ⟨0⟩, [], []⟩ := by
  unfold OperationRegistry.new at h
  split at h
  · cases h
  · cases h
    exact ⟨rfl, rfl, rfl⟩

theorem registryInv_new (h : OperationRegistry.new operationCapacity eventCapacity = .ok registry) :
    RegistryInv 0 registry := by
  obtain ⟨-, -, hstate⟩ := OperationRegistry.of_new_eq_ok h
  constructor <;> rw [hstate]
  · exact ⟨numbered_nil, Nat.zero_le _, by simp⟩
  · exact ⟨numbered_nil, Nat.zero_le _, List.Pairwise.nil, by simp⟩
  · decide
  · decide

/-- In one registry an ID belongs to one operation. -/
theorem OperationsInv.eq_of_id_eq (h : OperationsInv next capacity operations)
    {one other : Operation} (hone : one ∈ operations) (hother : other ∈ operations)
    (hid : one.id = other.id) : one = other :=
  List.inj_on_of_nodup_map (h.numbered.nodup operationId_injective) hone hother hid

/-- A new operation at the end of the queue. -/
theorem OperationsInv.push (h : OperationsInv next capacity operations) (hpos : 0 < capacity)
    (hid : operation.id = operationId next) (hqueued : operation.state = .queued)
    (hprogress : operation.progressPercent = none) :
    OperationsInv (next + 1) capacity (pushBounded capacity operations operation) := by
  refine ⟨h.numbered.push hid, length_pushBounded_le hpos h.bounded, fun other hother => ?_⟩
  rcases mem_of_mem_pushBounded hother with hold | rfl
  · exact h.known other hold
  · exact ⟨by simp [hqueued], fun _ => hprogress, by simp [hprogress]⟩

/-- A step of one operation where it stands. -/
theorem OperationsInv.set (h : OperationsInv next capacity operations) {index : ℕ}
    (hat : operations[index]? = some before) (hid : after.id = before.id)
    (hknown : OperationKnown after) :
    OperationsInv next capacity (operations.set index after) := by
  refine ⟨h.numbered.of_map_eq ?_, ?_, fun other hother => ?_⟩
  · obtain ⟨hindex, hbefore⟩ := List.getElem?_eq_some_iff.mp hat
    rw [List.map_set, hid, ← hbefore, ← List.map_set, List.set_getElem_self]
  · rw [List.length_set]
    exact h.bounded
  · rcases List.mem_or_eq_of_mem_set hother with hold | rfl
    · exact h.known other hold
    · exact hknown

/-- The operations when one has changed: the changed one, and all with other IDs. -/
theorem OperationsInv.mem_set (h : OperationsInv next capacity operations) {index : ℕ}
    (hat : operations[index]? = some before) :
    operation ∈ operations.set index after ↔
      operation = after ∨ operation ∈ operations ∧ operation.id ≠ before.id := by
  obtain ⟨hindex, hbefore⟩ := List.getElem?_eq_some_iff.mp hat
  have hother : ∀ {position other}, operations[position]? = some other →
      (other.id ≠ before.id ↔ index ≠ position) := by
    intro position other hposition
    have hnodup := h.numbered.nodup operationId_injective
    rw [← List.getElem?_inj (by rwa [List.length_map]) hnodup |>.ne, List.getElem?_map,
      List.getElem?_map, hat, hposition]
    simp [eq_comm]
  constructor
  · intro hmem
    obtain ⟨position, hposition⟩ := List.mem_iff_getElem?.mp hmem
    by_cases hsame : index = position
    · subst hsame
      exact .inl (Option.some.inj (hposition.symm.trans (List.getElem?_set_self hindex)))
    · rw [List.getElem?_set_ne hsame] at hposition
      exact .inr ⟨List.mem_of_getElem? hposition, (hother hposition).mpr hsame⟩
  · rintro (rfl | ⟨hmem, hne⟩)
    · exact List.mem_set hindex _
    · obtain ⟨position, hposition⟩ := List.mem_iff_getElem?.mp hmem
      rw [← List.getElem?_set_ne ((hother hposition).mp hne)] at hposition
      exact List.mem_of_getElem? hposition

theorem latest_ge_left (current reported : Generation) :
    current.val ≤ (latest current reported).val := by
  unfold latest
  split
  case isTrue h => exact UInt64.le_of_lt h
  case isFalse => exact UInt64.le_refl _

/-- One more event, whatever happened to the operations. -/
theorem EventsInv.publish (state : RegistryState) (hpos : 0 < capacity)
    (h : EventsInv state.nextSequence.toNat capacity state.latestGeneration state.events)
    (hroom : state.nextSequence.toNat < 2 ^ 64 - 1) (operation : Operation) :
    let published := publishOperationEvent capacity state operation
    EventsInv published.nextSequence.toNat capacity published.latestGeneration
      published.events := by
  have hsequence := toNat_saturatingAdd_one hroom
  have hlatest := latest_ge_left state.latestGeneration (operationGeneration operation)
  refine ⟨?_, length_pushBounded_le hpos h.bounded, ?_, fun event hevent => ?_⟩
  · simp only [publishOperationEvent, hsequence]
    exact h.numbered.push rfl
  · exact pairwise_pushBounded h.sorted fun event hevent =>
      UInt64.le_trans (h.le_latest event hevent) hlatest
  · rcases mem_of_mem_pushBounded hevent with hold | rfl
    · exact UInt64.le_trans (h.le_latest event hold) hlatest
    · exact UInt64.le_refl _

/-- A change of the operations and the event that announces it. -/
theorem RegistryInv.announce {calls : ℕ} (h : RegistryInv calls registry)
    (hcalls : calls + 1 < 2 ^ 64 - 1) {nextOperation : UInt64} (operation : Operation)
    (hoperations : OperationsInv nextOperation.toNat registry.operationCapacity operations)
    (hnext : nextOperation.toNat ≤ calls + 2) :
    RegistryInv (calls + 1) (registry.announce nextOperation operations operation) := by
  have hroom := h.nextSequence_le.trans_lt hcalls
  have hevents := EventsInv.publish
    { registry.state with nextOperation := nextOperation, operations := operations }
    registry.eventCapacity_pos h.events hroom operation
  refine ⟨hoperations, hevents, hnext, ?_⟩
  simp only [OperationRegistry.announce, publishOperationEvent, toNat_saturatingAdd_one hroom]
  exact Nat.succ_le_succ h.nextSequence_le

/-- Every call keeps the invariant. -/
theorem RegistryInv.call {calls : ℕ} (h : RegistryInv calls registry)
    (hcalls : calls + 1 < 2 ^ 64 - 1) (call : RegistryCall) :
    RegistryInv (calls + 1) (registry.call call).2 := by
  have heffect := call_effect registry call
  generalize registry.call call = reached at heffect
  cases heffect with
  | rejected error =>
      exact ⟨h.operations, h.events, Nat.le_succ_of_le h.nextOperation_le,
        Nat.le_succ_of_le h.nextSequence_le⟩
  | created operation hid hqueued hprogress =>
      have hnext := toNat_saturatingAdd_one (h.nextOperation_le.trans_lt hcalls)
      refine h.announce hcalls operation ?_ ?_
      · rw [hnext]
        exact h.operations.push registry.operationCapacity_pos hid hqueued hprogress
      · rw [hnext]
        exact Nat.succ_le_succ h.nextOperation_le
  | advanced before after index hat hstep hid =>
      have hknown := h.operations.known before (List.mem_of_getElem? hat)
      exact h.announce hcalls after (h.operations.set hat hid (hstep hknown).2)
        (Nat.le_succ_of_le h.nextOperation_le)

/-! ### Two registries of one run -/

variable {call : RegistryCall}

/-- Where an operation of the next registry comes from: it was there, possibly a step
behind, or it is the one just created. -/
theorem origin_of_call {calls : ℕ} (h : RegistryInv calls registry)
    (hafter : after ∈ (registry.call call).2.state.operations) :
    (∃ before ∈ registry.state.operations,
        before.id = after.id ∧ (before = after ∨ OperationStep before after)) ∨
      after.id = operationId registry.state.nextOperation.toNat ∧ after.state = .queued ∧
        after.progressPercent = none := by
  have heffect := call_effect registry call
  generalize registry.call call = reached at heffect hafter
  cases heffect with
  | rejected error => exact .inl ⟨after, hafter, rfl, .inl rfl⟩
  | created operation hid hqueued hprogress =>
      rcases mem_of_mem_pushBounded hafter with hold | rfl
      · exact .inl ⟨after, hold, rfl, .inl rfl⟩
      · exact .inr ⟨hid, hqueued, hprogress⟩
  | advanced before changed index hat hstep hid =>
      have hmem := List.mem_of_getElem? hat
      -- the changed operation took the place of the one it came from
      rcases List.mem_or_eq_of_mem_set hafter with hold | rfl
      · exact .inl ⟨after, hold, rfl, .inl rfl⟩
      · have hchange := (hstep (h.operations.known before hmem)).1
        exact .inl ⟨before, hmem, hid.symm, .inr hchange⟩

/-- The counter of operations never goes back. -/
theorem nextOperation_le_call (registry : OperationRegistry) (call : RegistryCall) :
    registry.state.nextOperation.toNat ≤ (registry.call call).2.state.nextOperation.toNat := by
  have heffect := call_effect registry call
  generalize registry.call call = reached at heffect
  cases heffect with
  | rejected error | advanced before changed index hat hstep hid => exact Nat.le_refl _
  | created operation hid hqueued hprogress =>
      have hlt := registry.state.nextOperation.toNat_lt
      simp only [OperationRegistry.announce, publishOperationEvent, toNat_saturatingAdd,
        UInt64.toNat_one]
      omega

/-- The registry after `n` of the calls. -/
def registryAt (registry : OperationRegistry) (calls : ℕ → RegistryCall) : ℕ → OperationRegistry
  | 0 => registry
  | n + 1 => ((registryAt registry calls n).call (calls n)).2

section Runs

variable (calls : ℕ → RegistryCall)

theorem registryInv_registryAt (h : RegistryInv 0 registry) (hn : n < 2 ^ 64 - 1) :
    RegistryInv n (registryAt registry calls n) := by
  induction n with
  | zero => exact h
  | succ n ih => exact (ih (by omega)).call hn (calls n)

variable (registry) in
theorem nextOperation_mono (hmn : m ≤ n) : (registryAt registry calls m).state.nextOperation.toNat ≤
      (registryAt registry calls n).state.nextOperation.toNat := by
  induction n, hmn using Nat.le_induction with
  | base => exact Nat.le_refl _
  | succ n _ ih => exact ih.trans (nextOperation_le_call _ (calls n))

/-- An ID is handed out once, so an operation that was there before is not a new one. -/
theorem not_new_of_mem (h : RegistryInv 0 registry) (hmn : m ≤ n) (hn : n < 2 ^ 64 - 1)
    (hbefore : before ∈ (registryAt registry calls m).state.operations) :
    before.id ≠ operationId (registryAt registry calls n).state.nextOperation.toNat := by
  intro heq
  have hinv := registryInv_registryAt calls h (by omega : m < 2 ^ 64 - 1)
  obtain ⟨number, hlt, hid⟩ := hinv.operations.numbered.exists_lt hbefore
  have hsame := operationId_injective (hid.symm.trans heq)
  have hmono := nextOperation_mono registry calls hmn
  omega

/-- An operation seen before and after a call was there when the call was made. -/
theorem exists_middle (h : RegistryInv 0 registry) (hmn : m ≤ n) (hn : n + 1 < 2 ^ 64 - 1)
    (hbefore : before ∈ (registryAt registry calls m).state.operations)
    (hafter : after ∈ (registryAt registry calls (n + 1)).state.operations)
    (hid : before.id = after.id) :
    ∃ middle ∈ (registryAt registry calls n).state.operations,
      middle.id = after.id ∧ (middle = after ∨ OperationStep middle after) := by
  have hinv := registryInv_registryAt calls h (by omega : n < 2 ^ 64 - 1)
  rcases origin_of_call hinv hafter with hold | ⟨hnew, -, -⟩
  · exact hold
  · exact absurd (hid.trans hnew) (not_new_of_mem calls h hmn (by omega) hbefore)

/-- What becomes of an operation as long as it is retained. -/
theorem lasting_of_mem (h : RegistryInv 0 registry) (hmn : m ≤ n) (hn : n < 2 ^ 64 - 1)
    (hbefore : before ∈ (registryAt registry calls m).state.operations)
    (hafter : after ∈ (registryAt registry calls n).state.operations) (hid : before.id = after.id) :
    ProgressLe before.progressPercent after.progressPercent ∧
      (isTerminal before.state = true → after = before) := by
  induction n, hmn using Nat.le_induction generalizing after with
  | base =>
      obtain rfl := (registryInv_registryAt calls h hn).operations.eq_of_id_eq hbefore hafter hid
      exact ⟨ProgressLe.refl _, fun _ => rfl⟩
  | succ n hmn ih =>
      obtain ⟨middle, hmiddle, hmid, hstep⟩ := exists_middle calls h hmn hn hbefore hafter hid
      obtain ⟨hprogress, hterminal⟩ := ih (by omega) hmiddle (hid.trans hmid.symm)
      rcases hstep with rfl | hstep
      · exact ⟨hprogress, hterminal⟩
      · refine ⟨hprogress.trans hstep.progress, fun hend => ?_⟩
        -- a terminal operation makes no step
        have hlive := hstep.state.not_terminal
        rw [hterminal hend] at hlive
        exact absurd hend (by simp [hlive])

/-- An operation that is gone does not come back. -/
theorem retained_between (h : RegistryInv 0 registry) {k : ℕ} (hmk : m ≤ k) (hkn : k ≤ n)
    (hn : n < 2 ^ 64 - 1) (hbefore : before ∈ (registryAt registry calls m).state.operations)
    (hafter : after ∈ (registryAt registry calls n).state.operations) (hid : before.id = after.id) :
    ∃ middle ∈ (registryAt registry calls k).state.operations, middle.id = before.id := by
  induction n, hkn using Nat.le_induction generalizing after with
  | base => exact ⟨after, hafter, hid.symm⟩
  | succ n hkn ih =>
      obtain ⟨middle, hmiddle, hmid, -⟩ :=
        exists_middle calls h (hmk.trans hkn) hn hbefore hafter hid
      exact ih (by omega) hmiddle (hid.trans hmid.symm)

/-- A successful call publishes one event. -/
theorem call_publishes {count : ℕ} (h : RegistryInv count registry)
    (hcount : count + 1 < 2 ^ 64 - 1) (hok : (registry.call call).1 = .ok operation) :
    ∃ event, event.sequence.val = registry.state.nextSequence ∧
      (registry.call call).2.state.events =
        pushBounded registry.eventCapacity registry.state.events event ∧
      (registry.call call).2.state.nextSequence.toNat = registry.state.nextSequence.toNat + 1 := by
  have hnext := toNat_saturatingAdd_one (h.nextSequence_le.trans_lt hcount)
  have heffect := call_effect registry call
  generalize registry.call call = reached at heffect hok
  cases heffect with
  | rejected error => cases hok
  | created operation hid hqueued hprogress
  | advanced before changed index hat hstep hid => exact ⟨_, rfl, rfl, hnext⟩

theorem call_rejects {error : OperationRegistryError}
    (herror : (registry.call call).1 = .error error) : (registry.call call).2 = registry := by
  have heffect := call_effect registry call
  generalize registry.call call = reached at heffect herror
  cases heffect with
  | rejected error => rfl
  | created operation hid hqueued hprogress
  | advanced before changed index hat hstep hid => cases herror

/-- The registry over a run of fewer than `2 ^ 64 - 1` calls, each with any arguments. The
registry after `n` calls is `registryAt registry calls n`. -/
structure RegistryHistory (registry : OperationRegistry) (calls : ℕ → RegistryCall) : Prop where
  /-- Retained operations are the last ones created, in order and with distinct IDs. -/
  operations : ∀ n < 2 ^ 64 - 1, let state := (registryAt registry calls n).state
    state.operations.length ≤ registry.operationCapacity ∧
      Numbered operationId Operation.id state.nextOperation.toNat state.operations ∧
      (state.operations.map Operation.id).Nodup
  /-- Retained events are the last ones published: consecutive sequence numbers up to the
  one before the next, with generations that never go back. -/
  events : ∀ n < 2 ^ 64 - 1, let state := (registryAt registry calls n).state
    state.events.length ≤ registry.eventCapacity ∧
      Numbered id (fun event : Event => event.sequence.val.toNat) state.nextSequence.toNat
        state.events ∧
      state.events.Pairwise fun one other =>
        one.snapshotGeneration.val ≤ other.snapshotGeneration.val
  /-- An operation that was not there before the call is queued. -/
  appears : ∀ n, n + 1 < 2 ^ 64 - 1 →
    ∀ after ∈ (registryAt registry calls (n + 1)).state.operations,
      (∀ before ∈ (registryAt registry calls n).state.operations, before.id ≠ after.id) →
        after.state = .queued ∧ after.progressPercent = none
  /-- An operation that was there has stayed as it was or made one step along its path. -/
  advances : ∀ n, n + 1 < 2 ^ 64 - 1 → ∀ before ∈ (registryAt registry calls n).state.operations,
    ∀ after ∈ (registryAt registry calls (n + 1)).state.operations,
      before.id = after.id → before = after ∨ OperationStep before after
  /-- An operation that is gone does not come back. -/
  uninterrupted : ∀ m k n, m ≤ k → k ≤ n → n < 2 ^ 64 - 1 →
    ∀ before ∈ (registryAt registry calls m).state.operations,
    ∀ after ∈ (registryAt registry calls n).state.operations, before.id = after.id →
      ∃ middle ∈ (registryAt registry calls k).state.operations, middle.id = before.id
  /-- Progress never goes back, and a terminal operation never changes. -/
  lasting : ∀ m n, m ≤ n → n < 2 ^ 64 - 1 →
    ∀ before ∈ (registryAt registry calls m).state.operations,
    ∀ after ∈ (registryAt registry calls n).state.operations, before.id = after.id →
      ProgressLe before.progressPercent after.progressPercent ∧
        (isTerminal before.state = true → after = before)
  /-- Progress is at most 100 percent. -/
  percent : ∀ n < 2 ^ 64 - 1, ∀ operation ∈ (registryAt registry calls n).state.operations,
    ∀ percent, operation.progressPercent = some percent → percent ≤ 100
  /-- A successful call publishes exactly one event, the next in sequence. -/
  publishes : ∀ n, n + 1 < 2 ^ 64 - 1 →
    ∀ operation, ((registryAt registry calls n).call (calls n)).1 = .ok operation →
      ∃ event, event.sequence.val = (registryAt registry calls n).state.nextSequence ∧
        (registryAt registry calls (n + 1)).state.events =
          pushBounded registry.eventCapacity (registryAt registry calls n).state.events event ∧
        (registryAt registry calls (n + 1)).state.nextSequence.toNat =
          (registryAt registry calls n).state.nextSequence.toNat + 1
  /-- A rejected call changes nothing. -/
  rejects : ∀ n error, ((registryAt registry calls n).call (calls n)).1 = .error error →
    registryAt registry calls (n + 1) = registryAt registry calls n

theorem call_capacities (registry : OperationRegistry) (call : RegistryCall) :
    (registry.call call).2.operationCapacity = registry.operationCapacity ∧
      (registry.call call).2.eventCapacity = registry.eventCapacity := by
  have heffect := call_effect registry call
  generalize registry.call call = reached at heffect
  cases heffect <;> exact ⟨rfl, rfl⟩

variable (registry) in
theorem registryAt_capacities (n : ℕ) :
    (registryAt registry calls n).operationCapacity = registry.operationCapacity ∧
      (registryAt registry calls n).eventCapacity = registry.eventCapacity := by
  induction n with
  | zero => exact ⟨rfl, rfl⟩
  | succ n ih =>
      obtain ⟨hoperations, hevents⟩ := call_capacities (registryAt registry calls n) (calls n)
      exact ⟨hoperations.trans ih.1, hevents.trans ih.2⟩

/-- Every run of every registry. -/
theorem registryHistory_of_new
    (hnew : OperationRegistry.new operationCapacity eventCapacity = .ok registry) :
    RegistryHistory registry calls := by
  have h := registryInv_new hnew
  have hinv : ∀ n < 2 ^ 64 - 1, RegistryInv n (registryAt registry calls n) :=
    fun n hn => registryInv_registryAt calls h hn
  have hcap := registryAt_capacities registry calls
  refine ⟨fun n hn => ?_, fun n hn => ?_, fun n hn after hafter hfresh => ?_,
    fun n hn before hbefore after hafter hid => ?_,
    fun m k n hmk hkn hn before hbefore after hafter hid =>
      retained_between calls h hmk hkn hn hbefore hafter hid,
    fun m n hmn hn before hbefore after hafter hid =>
      lasting_of_mem calls h hmn hn hbefore hafter hid,
    fun n hn operation hoperation => ((hinv n hn).operations.known operation hoperation).progress,
    fun n hn operation hok => ?_, fun n error herror => ?_⟩
  · rw [← (hcap n).1]
    obtain ⟨hnumbered, hbounded, -⟩ := (hinv n hn).operations
    exact ⟨hbounded, hnumbered, hnumbered.nodup operationId_injective⟩
  · rw [← (hcap n).2]
    obtain ⟨hnumbered, hbounded, hsorted, -⟩ := (hinv n hn).events
    exact ⟨hbounded, hnumbered, hsorted⟩
  · rcases origin_of_call (hinv n (by omega)) hafter with ⟨before, hbefore, hid, -⟩ | ⟨-, hqueued⟩
    · exact absurd hid (hfresh before hbefore)
    · exact hqueued
  · obtain ⟨middle, hmiddle, hmid, hstep⟩ :=
      exists_middle calls h (Nat.le_refl n) hn hbefore hafter hid
    obtain rfl := (hinv n (by omega)).operations.eq_of_id_eq hmiddle hbefore (hmid.trans hid.symm)
    exact hstep
  · rw [← (hcap n).2]
    exact call_publishes (hinv n (by omega)) hn hok
  · exact call_rejects herror

/-- A registry for two operations and two events, and a client that creates operations. -/
theorem registryHistory_of_new_small :
    ∃ registry, OperationRegistry.new 2 2 = .ok registry ∧ RegistryHistory registry fun _ =>
        .create ⟨.createInstance, ⟨1⟩, [⟨.instance, "1"⟩], none, none, "now"⟩ := by
  obtain ⟨registry, hnew⟩ : ∃ registry, OperationRegistry.new 2 2 = .ok registry := ⟨_, rfl⟩
  exact ⟨registry, hnew, registryHistory_of_new _ hnew⟩

end Runs

end Kernmux.Daemon
