import Kernmux.Daemon.ImageCatalog
import Kernmux.Daemon.ImageStoreSound

/-!
# Kernmux.Daemon.CatalogGenerations

**Catalog generations identify catalog contents.** The catalog remembers the
listing it has seen last together with its generation, and changes the two
together or not at all. So along a run one catalog `Follows` another only by
being the same or by having a larger generation, whatever is done to the store
in between and whichever calls fail. `CatalogHistory` collects what that means
for the snapshots that clients get and for the imports they ask for.
-/

namespace Kernmux.Daemon

open Api.V1 Library
open Faulty (andThen fail wp)

namespace ImageCatalog

variable {store : ImageStore}

/-! ### One refresh -/

/-- The four ends of a refresh. -/
inductive Refreshed (store : ImageStore) (state : CatalogState) :
    Ended ImageCatalogError ImageCatalogSnapshot × CatalogState → Prop
  /-- The store could not be listed. -/
  | unlisted {ended : Ended ImageCatalogError ImageCatalogSnapshot} {device : Device StoreDirectory}
      (hlist : (store.list state.device).1.value? = none)
      (hdevice : (store.list state.device).2 = device) (hended : ended.value? = none) :
      Refreshed store state (ended, ⟨state.catalog, device⟩)
  /-- The listing is the remembered one. -/
  | same {artifacts : List ArtifactRecord} {device : Device StoreDirectory}
      (hlist : store.list state.device = (.ok artifacts, device))
      (hsame : state.catalog.observed = some artifacts) :
      Refreshed store state
        (.ok ⟨state.catalog.generation, artifacts⟩, ⟨state.catalog, device⟩)
  /-- The listing is another one and gets the next generation. -/
  | changed {artifacts : List ArtifactRecord} {device : Device StoreDirectory} {next : UInt64}
      (hlist : store.list state.device = (.ok artifacts, device))
      (hnew : state.catalog.observed ≠ some artifacts)
      (hnext : checkedAdd state.catalog.generation.val 1 = some next) :
      Refreshed store state (.ok ⟨⟨next⟩, artifacts⟩, ⟨⟨⟨next⟩, some artifacts⟩, device⟩)
  /-- There is no next generation. -/
  | exhausted {artifacts : List ArtifactRecord} {device : Device StoreDirectory}
      (hlist : store.list state.device = (.ok artifacts, device))
      (hnew : state.catalog.observed ≠ some artifacts)
      (hlast : checkedAdd state.catalog.generation.val 1 = none) :
      Refreshed store state (.error .generationExhausted, ⟨state.catalog, device⟩)

theorem refreshed (store : ImageStore) (state : CatalogState) :
    Refreshed store state (refresh store state) := by
  rcases hlist : store.list state.device with ⟨ended, device⟩
  cases ended with
  | error error =>
      have hrefresh : refresh store state = (.error (.store error), ⟨state.catalog, device⟩) := by
        simp [refresh, bind, andThen, onStore, hlist]
      exact hrefresh ▸ .unlisted (by rw [hlist]; rfl) (congrArg Prod.snd hlist) rfl
  | stopped =>
      have hrefresh : refresh store state = (.stopped, ⟨state.catalog, device⟩) := by
        simp [refresh, bind, andThen, onStore, hlist]
      exact hrefresh ▸ .unlisted (by rw [hlist]; rfl) (congrArg Prod.snd hlist) rfl
  | ok artifacts =>
      by_cases hsame : state.catalog.observed = some artifacts
      · have hrefresh : refresh store state =
            (.ok ⟨state.catalog.generation, artifacts⟩, ⟨state.catalog, device⟩) := by
          simp [refresh, bind, pure, andThen, onStore, hlist, Faulty.get, Faulty.ofExcept,
            Faulty.modify, observe, hsame]
        exact hrefresh ▸ .same hlist hsame
      · cases hnext : checkedAdd state.catalog.generation.val 1 with
        | none =>
            have hrefresh : refresh store state =
                (.error .generationExhausted, ⟨state.catalog, device⟩) := by
              simp [refresh, bind, andThen, onStore, hlist, Faulty.get, Faulty.ofExcept,
                fail, observe, hsame, hnext]
            exact hrefresh ▸ .exhausted hlist hsame hnext
        | some next =>
            have hrefresh : refresh store state =
                (.ok ⟨⟨next⟩, artifacts⟩, ⟨⟨⟨next⟩, some artifacts⟩, device⟩) := by
              simp [refresh, bind, pure, andThen, onStore, hlist, Faulty.get,
                Faulty.ofExcept, Faulty.modify, observe, hsame, hnext]
            exact hrefresh ▸ .changed hlist hsame hnext

/-! ### Catalogs of one run -/

/-- A catalog that may come after another one: the same, or one with a larger generation. -/
def Follows (before after : ImageCatalog) : Prop :=
  after = before ∨ before.generation.val < after.generation.val

theorem Follows.trans {before mid after : ImageCatalog} (hfirst : Follows before mid)
    (hsecond : Follows mid after) : Follows before after := by
  rcases hsecond with rfl | hlater
  · exact hfirst
  · rcases hfirst with rfl | hearlier
    · exact .inr hlater
    · exact .inr (UInt64.lt_trans hearlier hlater)

theorem Follows.le {before after : ImageCatalog} (h : Follows before after) :
    before.generation.val ≤ after.generation.val := by
  rcases h with rfl | hlt
  · exact UInt64.le_refl _
  · exact UInt64.le_of_lt hlt

/-- The catalog remembers exactly what the snapshot shows. -/
def Shows (snapshot : ImageCatalogSnapshot) (catalog : ImageCatalog) : Prop :=
  catalog = ⟨snapshot.generation, some snapshot.artifacts⟩

/-- A computation on the catalog leads to a catalog that follows. -/
abbrev Advances {α : Type} (action : CatalogM α) (post : α → ImageCatalog → Prop) : Prop :=
  Faulty.Steps (fun before after => Follows before.catalog after.catalog) (fun _ => True) action
    fun value state => post value state.catalog

instance : IsTrans CatalogState fun before after => Follows before.catalog after.catalog :=
  ⟨fun _ _ _ => Follows.trans⟩

instance : Std.Refl fun before after : CatalogState => Follows before.catalog after.catalog :=
  ⟨fun _ => .inl rfl⟩

theorem advances_refresh : Advances (refresh store) Shows := by
  intro state _
  have hrefreshed := refreshed store state
  unfold wp
  generalize refresh store state = reached at hrefreshed
  cases hrefreshed with
  | unlisted hlist hdevice hended =>
      refine ⟨.inl rfl, fun value hvalue => ?_⟩
      subst hvalue
      cases hended
  | same hlist hsame =>
      refine ⟨.inl rfl, fun value hvalue => ?_⟩
      obtain rfl := Ended.ok.inj hvalue
      show state.catalog = ⟨state.catalog.generation, some _⟩
      rw [← hsame]
  | changed hlist hnew hnext =>
      refine ⟨.inr ?_, fun value hvalue => Ended.ok.inj hvalue ▸ rfl⟩
      have hvalue := checkedAdd_eq_some.mp hnext
      rw [UInt64.lt_iff_toNat_lt, hvalue]
      exact Nat.lt_succ_self _
  | exhausted hlist hnew hlast => exact ⟨.inl rfl, nofun⟩

/-- What is done to the store does not touch the catalog. -/
theorem advances_onStore {α : Type} (action : StoreM α) :
    Advances (onStore action) fun _ _ => True := by
  intro state _
  unfold wp onStore
  rcases action state.device with ⟨_ | _ | _, device⟩
  all_goals exact ⟨.inl rfl, fun _ _ => trivial⟩

theorem advances_importWith (expectedGeneration : Generation) (action : StoreM ArtifactRecord) :
    Advances (importWith store expectedGeneration action) fun result => Shows result.2 := by
  refine advances_refresh.bind fun before => ?_
  by_cases hstale : expectedGeneration ≠ before.generation
  · rw [if_pos hstale]
    exact .fail _
  · rw [if_neg hstale]
    have hbefore : ∀ state : CatalogState, Shows before state.catalog → True := fun _ _ => trivial
    refine ((advances_onStore action).mono hbefore fun _ _ h => h).bind fun artifact => ?_
    exact advances_refresh.bind fun after => .pure fun _ h => h

theorem advances_resolve (kind : ArtifactKind) (id : ArtifactId) :
    Advances (resolve store kind id) fun _ _ => True := by
  refine advances_refresh.bind fun snapshot => ?_
  exact (advances_onStore _).mono (fun _ _ => trivial) fun _ _ h => h

/-! ### What an import needs before it writes -/

theorem list_disk (store : ImageStore) (device : Device StoreDirectory) :
    (store.list device).2.disk = device.disk := by
  have hlist : Device.Looks device.disk store.list fun _ => True :=
    (looks_listKinds _).bind fun _ _ => Device.looks_pure trivial
  exact (hlist device rfl).1.symm

/-- To refresh is to read. -/
theorem refresh_disk (store : ImageStore) (state : CatalogState) :
    (refresh store state).2.device.disk = state.device.disk := by
  have hdisk := list_disk store state.device
  have hrefreshed := refreshed store state
  generalize refresh store state = reached at hrefreshed
  cases hrefreshed with
  | unlisted hlist hdevice hended => exact hdevice ▸ hdisk
  | same hlist _ | changed hlist _ _ | exhausted hlist _ _ => rw [hlist] at hdisk; exact hdisk

/-- An import that has changed the disk was asked for with the generation of the listing. -/
theorem current_of_write {state : CatalogState} {expectedGeneration : Generation}
    {action : StoreM ArtifactRecord}
    (h : (importWith store expectedGeneration action state).2.device.disk ≠ state.device.disk) :
    ∃ artifacts, (store.list state.device).1 = .ok artifacts ∧
      (refresh store state).1 = .ok ⟨expectedGeneration, artifacts⟩ := by
  have hdisk := refresh_disk store state
  rcases hcase : refresh store state with ⟨ended, reached⟩
  rw [hcase] at hdisk
  cases ended with
  | error error =>
      have himport : importWith store expectedGeneration action state = (.error error, reached) := by
        simp [importWith, bind, andThen, hcase]
      rw [himport] at h
      exact absurd hdisk h
  | stopped =>
      have himport : importWith store expectedGeneration action state = (.stopped, reached) := by
        simp [importWith, bind, andThen, hcase]
      rw [himport] at h
      exact absurd hdisk h
  | ok before =>
      by_cases hstale : expectedGeneration ≠ before.generation
      · have himport : importWith store expectedGeneration action state =
            (.error (.staleGeneration expectedGeneration before.generation), reached) := by
          simp [importWith, bind, andThen, hcase, hstale, fail]
        rw [himport] at h
        exact absurd hdisk h
      · obtain rfl := not_not.mp hstale
        have hrefreshed := refreshed store state
        rw [hcase] at hrefreshed
        cases hrefreshed with
        | unlisted hlist hdevice hended => cases hended
        | same hlist _ | changed hlist _ _ => exact ⟨_, congrArg Prod.fst hlist, rfl⟩

/-! ### Whole runs -/

end ImageCatalog

/-- What happens around a catalog: calls, and changes of the store from outside, which may be
anything and may decide what becomes of the calls after them. -/
inductive CatalogCall
  | outside (device : Device StoreDirectory)
  | refresh
  | importPath (expectedGeneration : Generation) (kind : ArtifactKind) (source : Source)
      (expectedId : Option ArtifactId)
  | importOsImage (expectedGeneration : Generation) (source : Source) (label : String)
      (architecture : Option String) (expectedId : Option ArtifactId)
  | resolve (kind : ArtifactKind) (id : ArtifactId)

namespace ImageCatalog

variable (store : ImageStore)

/-- The snapshot that a call hands out, and the state it leaves. -/
def perform (state : CatalogState) : CatalogCall → Option ImageCatalogSnapshot × CatalogState
  | .outside device => (none, { state with device := device })
  | .refresh =>
      let (ended, reached) := refresh store state
      (ended.value?, reached)
  | .importPath expectedGeneration kind source expectedId =>
      let (ended, reached) := importPath store expectedGeneration kind source expectedId state
      (ended.value?.map Prod.snd, reached)
  | .importOsImage expectedGeneration source label architecture expectedId =>
      let (ended, reached) :=
        importOsImage store expectedGeneration source label architecture expectedId state
      (ended.value?.map Prod.snd, reached)
  | .resolve kind id => (none, (resolve store kind id state).2)

/-- The state before call number `n`. -/
def stateAt (start : CatalogState) (calls : ℕ → CatalogCall) : ℕ → CatalogState
  | 0 => start
  | n + 1 => (perform store (stateAt start calls n) (calls n)).2

/-- The snapshot that call number `n` hands out. -/
def snapshotAt (start : CatalogState) (calls : ℕ → CatalogCall) (n : ℕ) :
    Option ImageCatalogSnapshot :=
  (perform store (stateAt store start calls n) (calls n)).1

theorem of_value?_eq_some {ε α : Type} {ended : Ended ε α} {value : α}
    (h : ended.value? = some value) : ended = .ok value := by
  cases ended with
  | ok other => exact congrArg Ended.ok (Option.some.inj h)
  | error | stopped => cases h

/-- One call: the catalog follows, and shows what was handed out. -/
theorem perform_follows (state : CatalogState) (call : CatalogCall) :
    Follows state.catalog (perform store state call).2.catalog ∧
      ∀ snapshot, (perform store state call).1 = some snapshot →
        Shows snapshot (perform store state call).2.catalog := by
  have himport (expectedGeneration : Generation) (action : StoreM ArtifactRecord) :
      let reached := importWith store expectedGeneration action state
      Follows state.catalog reached.2.catalog ∧
        ∀ snapshot, reached.1.value?.map Prod.snd = some snapshot →
          Shows snapshot reached.2.catalog := by
    have hsteps := @advances_importWith store expectedGeneration action state trivial
    refine ⟨hsteps.1, fun snapshot hsnapshot => ?_⟩
    obtain ⟨result, hresult, rfl⟩ := Option.map_eq_some_iff.mp hsnapshot
    exact hsteps.2 result (of_value?_eq_some hresult)
  cases call with
  | outside device => exact ⟨.inl rfl, nofun⟩
  | refresh =>
      have hsteps := @advances_refresh store state trivial
      exact ⟨hsteps.1, fun snapshot hsnapshot => hsteps.2 snapshot (of_value?_eq_some hsnapshot)⟩
  | importPath expectedGeneration kind source expectedId =>
      exact himport expectedGeneration (store.importPath kind source expectedId)
  | importOsImage expectedGeneration source label architecture expectedId =>
      exact himport expectedGeneration (store.importOsImage source label architecture expectedId)
  | resolve kind id => exact ⟨(advances_resolve kind id state trivial).1, nofun⟩

variable {store} {start : CatalogState} {calls : ℕ → CatalogCall}

theorem stateAt_follows {m n : ℕ} (h : m ≤ n) :
    Follows (stateAt store start calls m).catalog (stateAt store start calls n).catalog := by
  induction n, h using Nat.le_induction with
  | base => exact .inl rfl
  | succ n _ ih => exact ih.trans (perform_follows store _ (calls n)).1

theorem snapshotAt_shows {n : ℕ} {snapshot : ImageCatalogSnapshot}
    (h : snapshotAt store start calls n = some snapshot) :
    Shows snapshot (stateAt store start calls (n + 1)).catalog :=
  (perform_follows store _ (calls n)).2 snapshot h

/-- Of two snapshots the later one is the same or has a larger generation. -/
theorem snapshotAt_follows {m n : ℕ} (hmn : m ≤ n) {first second : ImageCatalogSnapshot}
    (hfirst : snapshotAt store start calls m = some first)
    (hsecond : snapshotAt store start calls n = some second) :
    second = first ∨ first.generation.val < second.generation.val := by
  have hfollows : Follows (stateAt store start calls (m + 1)).catalog
      (stateAt store start calls (n + 1)).catalog := stateAt_follows (Nat.succ_le_succ hmn)
  rw [snapshotAt_shows hfirst, snapshotAt_shows hsecond] at hfollows
  rcases hfollows with hsame | hlater
  · obtain ⟨hgeneration, hartifacts⟩ := ImageCatalog.mk.inj hsame
    left
    cases first
    cases second
    exact congrArg₂ ImageCatalogSnapshot.mk hgeneration (Option.some.inj hartifacts)
  · exact .inr hlater

end ImageCatalog

open ImageCatalog

/-- What generations mean in a run of a catalog, and what its refreshes and imports may do in
any state. -/
structure CatalogHistory (store : ImageStore) (start : CatalogState) (calls : ℕ → CatalogCall) :
    Prop where
  /-- A generation names one listing. -/
  identifies : ∀ m n first second, snapshotAt store start calls m = some first →
    snapshotAt store start calls n = some second → first.generation = second.generation →
    first.artifacts = second.artifacts
  /-- Generations never decrease. -/
  monotone : ∀ m n, m ≤ n → (stateAt store start calls m).catalog.generation.val ≤
    (stateAt store start calls n).catalog.generation.val
  ordered : ∀ m n first second, m ≤ n → snapshotAt store start calls m = some first →
    snapshotAt store start calls n = some second → first.generation.val ≤ second.generation.val
  /-- The remembered listing keeps its generation. -/
  keeps : ∀ state artifacts device, store.list state.device = (.ok artifacts, device) →
    state.catalog.observed = some artifacts →
    refresh store state = (.ok ⟨state.catalog.generation, artifacts⟩, ⟨state.catalog, device⟩)
  /-- The last generation is not used for another listing. -/
  exhausted : ∀ state artifacts device, store.list state.device = (.ok artifacts, device) →
    state.catalog.observed ≠ some artifacts → state.catalog.generation.val = maxWord →
    (refresh store state).1 = .error .generationExhausted
  /-- A failed refresh changes nothing of the catalog. -/
  failed : ∀ state, (refresh store state).1.value? = none →
    (refresh store state).2.catalog = state.catalog
  /-- An import writes only when it was asked for with the generation of the listing that it
  finds on the disk. -/
  imports : ∀ state expectedGeneration action,
    (importWith store expectedGeneration action state).2.device.disk ≠ state.device.disk →
    ∃ artifacts, (store.list state.device).1 = .ok artifacts ∧
      (refresh store state).1 = .ok ⟨expectedGeneration, artifacts⟩

/-- **Catalog generations identify catalog contents**, in every run from every state. -/
theorem catalogHistory (store : ImageStore) (start : CatalogState) (calls : ℕ → CatalogCall) :
    CatalogHistory store start calls where
  identifies m n first second hfirst hsecond hgeneration := by
    rcases Nat.le_total m n with hmn | hnm
    · rcases snapshotAt_follows hmn hfirst hsecond with rfl | hlt
      · rfl
      · exact absurd hlt (by simp [hgeneration])
    · rcases snapshotAt_follows hnm hsecond hfirst with rfl | hlt
      · rfl
      · exact absurd hlt (by simp [hgeneration])
  monotone m n hmn := (stateAt_follows hmn).le
  ordered m n first second hmn hfirst hsecond := by
    rcases snapshotAt_follows hmn hfirst hsecond with rfl | hlt
    · exact UInt64.le_refl _
    · exact UInt64.le_of_lt hlt
  keeps state artifacts device hlist hsame := by
    have hrefreshed := refreshed store state
    generalize refresh store state = reached at hrefreshed
    cases hrefreshed with
    | unlisted hother _ _ =>
        rw [hlist] at hother
        cases hother
    | same hother _ =>
        obtain ⟨hartifacts, rfl⟩ := Prod.mk.inj (hlist.symm.trans hother)
        obtain rfl := Ended.ok.inj hartifacts
        rfl
    | changed hother hnew _ | exhausted hother hnew _ =>
        obtain ⟨hartifacts, -⟩ := Prod.mk.inj (hlist.symm.trans hother)
        obtain rfl := Ended.ok.inj hartifacts
        exact absurd hsame hnew
  exhausted state artifacts device hlist hnew hmax := by
    have hrefreshed := refreshed store state
    generalize refresh store state = reached at hrefreshed
    cases hrefreshed with
    | unlisted hother _ _ =>
        rw [hlist] at hother
        cases hother
    | same hother hsame =>
        obtain ⟨hartifacts, -⟩ := Prod.mk.inj (hlist.symm.trans hother)
        obtain rfl := Ended.ok.inj hartifacts
        exact absurd hsame hnew
    | changed hother _ hnext =>
        rw [hmax] at hnext
        cases hnext
    | exhausted _ _ _ => rfl
  failed state hnone := by
    have hrefreshed := refreshed store state
    generalize refresh store state = reached at hrefreshed hnone
    cases hrefreshed with
    | unlisted _ _ _ | same _ _ | exhausted _ _ _ => rfl
    | changed _ _ _ => cases hnone
  imports state expectedGeneration action hwrite := current_of_write hwrite

end Kernmux.Daemon
