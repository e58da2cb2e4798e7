import Kernmux.Api.V1

/-!
# Kernmux.Api.Compatibility

**The release contract.** A release ships a manifest of the host it was built
for. Evaluating the manifest against the evidence collected on a running host
gives one named check for each thing it demands.
-/

namespace Kernmux.Api.V1

/-- State versions that a release can safely read and write. -/
structure StateSchemaCompatibility where
  readableMin : UInt32
  readableMax : UInt32
  writableMin : UInt32
  writableMax : UInt32
  deriving DecidableEq, Repr

/-- Compatibility contract shipped with one atomic Kernmux release. -/
structure ReleaseCompatibilityManifest where
  schemaVersion : UInt32
  releaseId : String
  osId : String
  osVersionId : String
  architecture : String
  kernelRelease : String
  requiredCapabilities : List Capability
  kerfVersion : String
  kernmuxRelease : String
  kernmuxApiMajor : UInt32
  daxfsFormat : Option UInt32
  stateSchema : StateSchemaCompatibility
  deriving DecidableEq, Repr

/-- Read-only evidence collected from a running host. -/
structure HostCompatibilityEvidence where
  osId : String
  osVersionId : String
  architecture : String
  kernelRelease : String
  capabilities : List Capability
  kerfVersion : String
  kernmuxRelease : String
  kernmuxApiMajor : UInt32
  daxfsFormat : Option UInt32
  stateSchema : UInt32
  deriving DecidableEq, Repr

/-- One stable, machine-readable compatibility assertion. -/
structure CompatibilityCheck where
  name : String
  passed : Bool
  expected : String
  observed : String
  deriving DecidableEq, Repr

/-- Result of evaluating one running host against a release contract. -/
structure HostCompatibilityReport where
  schemaVersion : UInt32
  releaseId : String
  compatible : Bool
  checks : List CompatibilityCheck
  deriving DecidableEq, Repr

def capabilityName : Capability → String
  | .multikernel => "multikernel"
  | .instanceLifecycle => "instance_lifecycle"
  | .dynamicResources => "dynamic_resources"
  | .transactionRollback => "transaction_rollback"
  | .console => "console"
  | .deviceAssignment => "device_assignment"
  | .sharedMemory => "shared_memory"
  | .unknown => "unknown"

/-- A check that the observed value is the expected one. -/
def exactCheck (name expected observed : String) : CompatibilityCheck :=
  { name, passed := expected == observed, expected, observed }

/-- A check that the host has a capability, which is never one this release does not know. -/
def capabilityCheck (present : List Capability) (capability : Capability) : CompatibilityCheck :=
  let known := capability != .unknown
  { name := "capability:" ++ capabilityName capability
    passed := known && present.contains capability
    expected := "present"
    observed :=
      if !known then "unsupported"
      else if present.contains capability then "present"
      else "absent" }

def daxfsCheck (observed : Option UInt32) (required : UInt32) : CompatibilityCheck :=
  { name := "daxfs_format"
    passed := observed == some required
    expected := toString required
    observed := (observed.map toString).getD "absent" }

/-- A check that the state version lies between two bounds. -/
def schemaCheck (state : UInt32) (name : String) (min max : UInt32) : CompatibilityCheck :=
  { name
    passed := min ≤ state && state ≤ max
    expected := toString min ++ "..=" ++ toString max
    observed := toString state }

namespace ReleaseCompatibilityManifest

/-- The checks of a manifest, in the order in which they are reported. -/
def checks (manifest : ReleaseCompatibilityManifest) (evidence : HostCompatibilityEvidence) :
    List CompatibilityCheck :=
  [exactCheck "manifest_schema" "1" (toString manifest.schemaVersion),
    exactCheck "os_id" manifest.osId evidence.osId,
    exactCheck "os_version_id" manifest.osVersionId evidence.osVersionId,
    exactCheck "architecture" manifest.architecture evidence.architecture,
    exactCheck "kernel_release" manifest.kernelRelease evidence.kernelRelease,
    exactCheck "kerf_version" manifest.kerfVersion evidence.kerfVersion,
    exactCheck "kernmux_release" manifest.kernmuxRelease evidence.kernmuxRelease,
    exactCheck "kernmux_api_major" (toString manifest.kernmuxApiMajor)
      (toString evidence.kernmuxApiMajor)] ++
  manifest.requiredCapabilities.map (capabilityCheck evidence.capabilities) ++
  manifest.daxfsFormat.toList.map (daxfsCheck evidence.daxfsFormat) ++
  [schemaCheck evidence.stateSchema "state_schema_readable" manifest.stateSchema.readableMin
      manifest.stateSchema.readableMax,
    schemaCheck evidence.stateSchema "state_schema_writable" manifest.stateSchema.writableMin
      manifest.stateSchema.writableMax]

/-- Evaluates already collected evidence. -/
def evaluate (manifest : ReleaseCompatibilityManifest) (evidence : HostCompatibilityEvidence) :
    HostCompatibilityReport :=
  { schemaVersion := 1
    releaseId := manifest.releaseId
    compatible := (manifest.checks evidence).all (·.passed)
    checks := manifest.checks evidence }

end ReleaseCompatibilityManifest

/-! ### The checks of the host's identity -/

/-- What a manifest and the evidence say under the names that identify the host. -/
def identity (manifest : ReleaseCompatibilityManifest) (evidence : HostCompatibilityEvidence) :
    List (String × String × String) :=
  [("os_id", manifest.osId, evidence.osId),
    ("os_version_id", manifest.osVersionId, evidence.osVersionId),
    ("architecture", manifest.architecture, evidence.architecture),
    ("kernel_release", manifest.kernelRelease, evidence.kernelRelease),
    ("kerf_version", manifest.kerfVersion, evidence.kerfVersion)]

/-- A report passes a check when nothing under that name has failed. -/
def HostCompatibilityReport.Passes (report : HostCompatibilityReport) (name : String) : Prop :=
  ∀ check ∈ report.checks, check.name = name → check.passed = true

theorem capabilityCheck_name_ne {present : List Capability} (capability : Capability) :
    (capabilityCheck present capability).name ∉
      ["os_id", "os_version_id", "architecture", "kernel_release", "kerf_version"] := by
  cases capability <;> simp [capabilityCheck, capabilityName]

variable {manifest : ReleaseCompatibilityManifest} {evidence : HostCompatibilityEvidence}
  {expected observed : String}

/-- What is checked under a name of the identity is that the two values are the same. -/
theorem eq_exactCheck_of_mem {check : CompatibilityCheck}
    (h : (check.name, expected, observed) ∈ identity manifest evidence)
    (hcheck : check ∈ manifest.checks evidence) : check = exactCheck check.name expected observed := by
  have hname : check.name ∈
      ["os_id", "os_version_id", "architecture", "kernel_release", "kerf_version"] :=
    List.mem_map_of_mem (f := Prod.fst) h
  simp only [ReleaseCompatibilityManifest.checks, List.mem_append, List.mem_map] at hcheck
  obtain ((hexact | ⟨capability, _, rfl⟩) | ⟨required, _, rfl⟩) | hschema := hcheck
  · simp only [List.mem_cons, List.not_mem_nil, or_false] at hexact
    obtain rfl | rfl | rfl | rfl | rfl | rfl | rfl | rfl := hexact
    all_goals simp [identity, exactCheck] at h ⊢
    all_goals exact ⟨by rw [h.1, h.2], h.1.symm, h.2.symm⟩
  · exact absurd hname (capabilityCheck_name_ne capability)
  · simp [daxfsCheck] at hname
  · simp only [List.mem_cons, List.not_mem_nil, or_false] at hschema
    obtain rfl | rfl := hschema
    all_goals simp [schemaCheck] at hname

theorem exactCheck_mem_checks {name : String}
    (h : (name, expected, observed) ∈ identity manifest evidence) :
    exactCheck name expected observed ∈ manifest.checks evidence := by
  simp only [identity, List.mem_cons, Prod.mk.injEq, List.not_mem_nil, or_false] at h
  obtain ⟨rfl, rfl, rfl⟩ | ⟨rfl, rfl, rfl⟩ | ⟨rfl, rfl, rfl⟩ | ⟨rfl, rfl, rfl⟩ | ⟨rfl, rfl, rfl⟩ := h
  all_goals simp [ReleaseCompatibilityManifest.checks]

/-- A check of the identity passes when the manifest and the evidence say the same. -/
theorem passes_identity_iff {name : String}
    (h : (name, expected, observed) ∈ identity manifest evidence) :
    (manifest.evaluate evidence).Passes name ↔ expected = observed := by
  constructor
  · intro hpasses
    exact eq_of_beq (hpasses _ (exactCheck_mem_checks h) rfl)
  · intro heq check hcheck hname
    subst hname
    rw [eq_exactCheck_of_mem h hcheck]
    exact beq_iff_eq.mpr heq

end Kernmux.Api.V1
