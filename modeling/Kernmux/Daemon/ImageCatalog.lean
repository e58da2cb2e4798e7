import Kernmux.Daemon.ImageStore

/-!
# Kernmux.Daemon.ImageCatalog

The catalog in front of the image store. It lists the store again before and
after everything it does, and gives a new generation to every listing that
differs from the one before it. Imports have to name the current generation.
-/

namespace Kernmux.Daemon

open Api.V1 Library Faulty

/-- Verified point-in-time view of the image catalog. -/
structure ImageCatalogSnapshot where
  generation : Generation
  artifacts : List ArtifactRecord
  deriving DecidableEq

/-- Generation-owning reconciliation layer around an image store. -/
structure ImageCatalog where
  generation : Generation
  observed : Option (List ArtifactRecord)
  deriving DecidableEq

/-- The catalog and the disk of its store. -/
structure CatalogState where
  catalog : ImageCatalog
  device : Device StoreDirectory

/-- Computations on a catalog. -/
abbrev CatalogM := Faulty CatalogState ImageCatalogError

namespace ImageCatalog

/-- An unrefreshed catalog. -/
def new : ImageCatalog := ⟨⟨0⟩, none⟩

/-- A computation of the store. -/
def onStore {α : Type} (action : StoreM α) : CatalogM α := fun state =>
  match action state.device with
  | (.ok value, device) => (.ok value, { state with device := device })
  | (.error error, device) => (.error (.store error), { state with device := device })
  | (.stopped, device) => (.stopped, { state with device := device })

/-- The catalog has seen these artifacts; only a change makes a new generation. -/
def observe (catalog : ImageCatalog) (artifacts : List ArtifactRecord) :
    Except ImageCatalogError ImageCatalog :=
  if catalog.observed = some artifacts then .ok catalog
  else
    match checkedAdd catalog.generation.val 1 with
    | some generation => .ok ⟨⟨generation⟩, some artifacts⟩
    | none => .error .generationExhausted

variable (store : ImageStore)

/-- Reconciles verified disk state and advances the generation only on change. -/
def refresh : CatalogM ImageCatalogSnapshot := do
  let artifacts ← onStore store.list
  let state ← get
  let catalog ← ofExcept (state.catalog.observe artifacts)
  modify fun state => { state with catalog := catalog }
  return ⟨catalog.generation, artifacts⟩

/-- What the catalog's two imports share: the store is changed if the caller observed the current
catalog generation. -/
def importWith (expectedGeneration : Generation) (action : StoreM ArtifactRecord) :
    CatalogM (ArtifactRecord × ImageCatalogSnapshot) := do
  let before ← refresh store
  if expectedGeneration ≠ before.generation then
    fail (.staleGeneration expectedGeneration before.generation)
  else do
    let artifact ← onStore action
    let after ← refresh store
    return (artifact, after)

def importPath (expectedGeneration : Generation) (kind : ArtifactKind) (source : Source)
    (expectedId : Option ArtifactId) : CatalogM (ArtifactRecord × ImageCatalogSnapshot) :=
  importWith store expectedGeneration (store.importPath kind source expectedId)

def importOsImage (expectedGeneration : Generation) (source : Source) (label : String)
    (architecture : Option String) (expectedId : Option ArtifactId) :
    CatalogM (ArtifactRecord × ImageCatalogSnapshot) :=
  importWith store expectedGeneration (store.importOsImage source label architecture expectedId)

/-- Resolves one verified artifact to its immutable blob path. -/
def resolve (kind : ArtifactKind) (id : ArtifactId) : CatalogM PathBuf := do
  let _ ← refresh store
  onStore (store.resolve kind id)

/-! ### Generations in errors -/

/-- The error does not report a generation of the catalog. -/
def NotStale {α : Type} (ended : Ended ImageCatalogError α) : Prop :=
  ∀ expected actual, ended ≠ .error (.staleGeneration expected actual)

variable {store} {α β : Type} {state : CatalogState}

theorem wp_onStore (action : StoreM α) :
    wp (onStore action) (fun ended _ => NotStale ended) state := by
  unfold wp onStore
  rcases action state.device with ⟨_ | _ | _, device⟩
  all_goals exact nofun

theorem wp_bind_notStale {first : CatalogM α} {next : α → CatalogM β}
    (hfirst : ∀ state, wp first (fun ended _ => NotStale ended) state)
    (hnext : ∀ value state, wp (next value) (fun ended _ => NotStale ended) state)
    (state : CatalogState) : wp (first >>= next) (fun ended _ => NotStale ended) state := by
  refine wp_bind (hfirst state) ?_ ?_ ?_
  · intro value reached _
    exact hnext value reached
  · intro error reached hstale expected actual heq
    exact hstale expected actual (congrArg Ended.error (Ended.error.inj heq))
  · intro reached _
    exact nofun

theorem wp_refresh (state : CatalogState) :
    wp (refresh store) (fun ended _ => NotStale ended) state := by
  refine wp_bind_notStale (fun _ => wp_onStore store.list) (fun artifacts state => ?_) state
  refine wp_bind_notStale (fun _ => wp_get.mpr nofun) (fun current state => ?_) state
  refine wp_bind_notStale (fun state => ?_) (fun catalog => wp_bind_notStale
    (fun _ => wp_modify.mpr nofun) fun _ _ => wp_pure.mpr nofun) state
  refine wp_ofExcept (fun _ _ => nofun) fun error herror expected actual heq => ?_
  obtain rfl := Ended.error.inj heq
  unfold observe at herror
  split at herror
  · cases herror
  · split at herror
    · cases herror
    · cases herror

/-- Resolving an artifact needs no generation, so it never complains about one. -/
theorem wp_resolve (kind : ArtifactKind) (id : ArtifactId) (state : CatalogState) :
    wp (resolve store kind id) (fun ended _ => NotStale ended) state :=
  wp_bind_notStale wp_refresh (fun _ _ => wp_onStore _) state

end ImageCatalog

end Kernmux.Daemon
