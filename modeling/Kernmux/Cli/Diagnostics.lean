import Kernmux.Daemon.Compatibility

/-!
# Kernmux.Cli.Diagnostics

**Offline diagnosis.** Before the daemon is started, the command line compares
the host with the release contract on its own. It has its own reader of the
release file, which takes the first line that begins with a key and strips every
quote around its value, and its own reader of the version of Kerf. Its verdict
on the host's identity is the daemon's as long as both readers find the same.
-/

namespace Kernmux.Cli.Diagnostics

open Api.V1 Daemon Library

def maxVersionOutput : ℕ := 64 * 1024

structure DiagnosticConfig where
  sysfsDeviceTree : String
  releaseManifest : String
  osRelease : String
  kernelRelease : String
  kerfProgram : String
  socket : String
  architecture : String
  timeoutMillis : ℕ

inductive CheckStatus
  | passed
  | failed
  | warning
  deriving DecidableEq, Repr

structure DiagnosticCheck where
  name : String
  required : Bool
  status : CheckStatus
  message : String
  remediation : String
  deriving DecidableEq, Repr

structure DiagnosticReport where
  schemaVersion : UInt32
  compatible : Bool
  daemonSocketAvailable : Bool
  checks : List DiagnosticCheck
  deriving DecidableEq, Repr

/-- How a run of `kerf --version` ends. -/
inductive KerfRun
  | notStarted (error : String)
  | tooLong
  | notAwaited (error : String)
  | unreadable (error : String)
  | exited (success : Bool) (status : String) (stdout : List UInt8)

/-- The host as the diagnosis finds it: text files, the release manifest with the two ways in which
it can be unusable, the run of Kerf, and the kinds of two special files. -/
structure Host where
  readToString : String → Except String String
  manifest : Except String (Except String ReleaseCompatibilityManifest)
  kerf : KerfRun
  sysfsPresent : Bool
  socketAvailable : Bool

def parseKerfVersion (output : String) : Except String String :=
  okOr ((stripPrefix "kerf, version " (trimText output)).filter fun version =>
      !version.isEmpty && !version.toList.any isWhitespace)
    "Kerf version output has an unsupported format"

def kerfVersion (config : DiagnosticConfig) : KerfRun → Except String String
  | .notStarted error => .error ("failed to execute " ++ config.kerfProgram ++ ": " ++ error)
  | .tooLong => .error
      (config.kerfProgram ++ " --version exceeded " ++ toString config.timeoutMillis ++ " ms")
  | .notAwaited error => .error ("failed to wait for " ++ config.kerfProgram ++ ": " ++ error)
  | .unreadable error => .error ("failed to read Kerf version: " ++ error)
  | .exited success status stdout => do
      rejectIf (success = false) (config.kerfProgram ++ " --version exited with " ++ status)
      let output ← okOr (ofUtf8 (stdout.take maxVersionOutput))
        "Kerf version output is not valid UTF-8"
      parseKerfVersion output

/-- The value on a line that begins with the key. -/
def lineValue (key line : String) : Option String := do
  let (name, value) ← splitOnce '=' line
  if name = key then some (trimMatches '"' value) else none

def osReleaseValue (contents key : String) : Option String :=
  (lines contents).findSome? (lineValue key)

/-- Something observed that is not what the manifest expects. -/
structure Mismatch where
  name : String
  actual : String
  expected : String
  deriving DecidableEq, Repr

def Mismatch.message (mismatch : Mismatch) : String :=
  mismatch.name ++ ": observed " ++ mismatch.actual ++ ", expected " ++ mismatch.expected

/-- The names under which the host differs from the manifest. -/
def mismatches (host : Host) (config : DiagnosticConfig) (manifest : ReleaseCompatibilityManifest)
    (kerfVersion : String) : Except String (List Mismatch) := do
  let osRelease ← mapErr (fun error => "failed to read " ++ config.osRelease ++ ": " ++ error)
    (host.readToString config.osRelease)
  let osId ← okOr (osReleaseValue osRelease "ID") (config.osRelease ++ " has no ID")
  let osVersion ← okOr (osReleaseValue osRelease "VERSION_ID")
    (config.osRelease ++ " has no VERSION_ID")
  let kernelRelease ← mapErr
    (fun error => "failed to read " ++ config.kernelRelease ++ ": " ++ error)
    (host.readToString config.kernelRelease)
  return [⟨"os_id", osId, manifest.osId⟩, ⟨"os_version_id", osVersion, manifest.osVersionId⟩,
    ⟨"architecture", config.architecture, manifest.architecture⟩,
    ⟨"kernel_release", trimText kernelRelease, manifest.kernelRelease⟩,
    ⟨"kerf_version", kerfVersion, manifest.kerfVersion⟩].filter
      fun observed => observed.actual ≠ observed.expected

def releaseMatch (host : Host) (config : DiagnosticConfig)
    (manifest : ReleaseCompatibilityManifest) (kerfVersion : String) : Except String String := do
  let found ← mismatches host config manifest kerfVersion
  if found.isEmpty then
    return "host identity matches release contract " ++ manifest.releaseId
  else throw ("; ".intercalate (found.map Mismatch.message))

def requiredCheck (name : String) (passed : Bool) (message remediation : String) :
    DiagnosticCheck :=
  { name, required := true, status := if passed then .passed else .failed, message, remediation }

/-- What a result says about itself, whether good or bad. -/
def describe {α : Type} (good : α → String) : Except String α → String
  | .ok value => good value
  | .error error => error

def readManifest (host : Host) (config : DiagnosticConfig) :
    Except String ReleaseCompatibilityManifest := do
  let parsed ← mapErr (fun error => "failed to read " ++ config.releaseManifest ++ ": " ++ error)
    host.manifest
  mapErr (fun error => config.releaseManifest ++ " is invalid: " ++ error) parsed

def diagnose (host : Host) (config : DiagnosticConfig) : DiagnosticReport :=
  let manifest := readManifest host config
  let kerf := kerfVersion config host.kerf
  let releaseMatches : Except String String := match manifest, kerf with
    | .ok manifest, .ok version => releaseMatch host config manifest version
    | _, _ => .error "release compatibility cannot be evaluated until prerequisite checks pass"
  let checks := [
    requiredCheck "multikernel_sysfs" host.sysfsPresent
      (config.sysfsDeviceTree ++ (if host.sysfsPresent then " is present" else " is missing"))
      "Boot the supported Multikernel kernel before starting kernmuxd.",
    requiredCheck "release_manifest" manifest.isOk
      (describe (fun manifest => "loaded release contract " ++ manifest.releaseId) manifest)
      "Reinstall the matching Kernmux package and do not hand-edit release.json.",
    requiredCheck "kerf" kerf.isOk
      (describe ("Kerf reports version " ++ ·) kerf)
      "Install the Kerf version required by the packaged release contract.",
    requiredCheck "release_compatibility" releaseMatches.isOk
      (describe id releaseMatches)
      "Install a Kernmux package built for this OS, architecture, kernel, and Kerf release.",
    { name := "daemon_socket"
      required := false
      status := if host.socketAvailable then .passed else .warning
      message := config.socket ++
        (if host.socketAvailable then " is available" else " is not available")
      remediation :=
        "Inspect systemctl status kernmuxd and journalctl -u kernmuxd before retrying." }]
  { schemaVersion := 1
    compatible := (checks.filter (·.required)).all (·.status = .passed)
    daemonSocketAvailable := host.socketAvailable
    checks }

/-! ### When both readers find the same -/

/-- A text is a value with nothing but quotes around it, and the value has none at its ends. -/
def WithinQuotes (value text : String) : Prop :=
  Bare (· = '"') value.toList ∧ ∃ before after : String, text = before ++ value ++ after ∧
    (∀ char ∈ before.toList, char = '"') ∧ ∀ char ∈ after.toList, char = '"'

/-- The first line that begins with the key and an equals sign goes on with this value. -/
def FirstWritten (key : String) (lines : List String) (value : String) : Prop :=
  ∃ before rest after, lines = before ++ (key ++ "=" ++ rest) :: after ∧ WithinQuotes value rest ∧
    ∀ other ∈ before, ∀ text, other ≠ key ++ "=" ++ text

/-- The first line that begins with the key carries what the last line that sets it carries. -/
def ReadAlike (key contents : String) : Prop :=
  ∃ value, Compatibility.LastAssigned key (lines contents) value ∧
    FirstWritten key (lines contents) value

/-- Kerf says its name and one word for its version, and nothing else. -/
def Announced (output version : String) : Prop :=
  trimText output = "kerf, version " ++ version ∧ version ≠ "" ∧
    ∀ char ∈ version.toList, isWhitespace char = false

variable {key value version osRelease osId osVersionId kerfOutput : String}
  {fields : List (String × String)} {host : Host} {config : DiagnosticConfig}
  {manifest : ReleaseCompatibilityManifest}

theorem lineValue_append (hkey : '=' ∉ key.toList) (rest : String) :
    lineValue key (key ++ "=" ++ rest) = some (trimMatches '"' rest) := by
  have hsplit : splitOnce '=' (key ++ "=" ++ rest) = some (key, rest) := splitOnce_append hkey
  rw [lineValue, hsplit]
  exact if_pos rfl

theorem eq_append_of_lineValue {line : String} (h : lineValue key line = some value) :
    ∃ rest, line = key ++ "=" ++ rest ∧ WithinQuotes value rest := by
  obtain ⟨⟨name, rest⟩, hsplit, hvalue⟩ := Option.bind_eq_some_iff.mp h
  obtain ⟨hline, _⟩ := eq_append_of_splitOnce hsplit
  dsimp only at hvalue
  by_cases hname : name = key
  · rw [if_pos hname] at hvalue
    subst hname
    exact ⟨rest, hline, trimMatches_eq_iff.mp (Option.some.inj hvalue)⟩
  · rw [if_neg hname] at hvalue
    cases hvalue

theorem osReleaseValue_eq_some {contents : String} (hkey : '=' ∉ key.toList) :
    osReleaseValue contents key = some value ↔ FirstWritten key (lines contents) value := by
  rw [osReleaseValue, List.findSome?_eq_some_iff]
  constructor
  · intro ⟨before, line, after, hlines, hline, hbefore⟩
    obtain ⟨rest, rfl, hvalue⟩ := eq_append_of_lineValue hline
    refine ⟨before, rest, after, hlines, hvalue, ?_⟩
    intro other hother text heq
    have hnone := hbefore other hother
    rw [heq, lineValue_append hkey] at hnone
    cases hnone
  · intro ⟨before, rest, after, hlines, hvalue, hbefore⟩
    refine ⟨before, key ++ "=" ++ rest, after, hlines, ?_, ?_⟩
    · rw [lineValue_append hkey, trimMatches_eq_iff.mpr hvalue]
    · intro other hother
      refine Option.eq_none_iff_forall_ne_some.mpr fun found hfound => ?_
      obtain ⟨text, heq, _⟩ := eq_append_of_lineValue hfound
      exact hbefore other hother text heq

theorem parseKerfVersion_eq_ok {output : String} :
    parseKerfVersion output = .ok version ↔ Announced output version := by
  rw [parseKerfVersion, okOr_eq_ok, Option.filter_eq_some_iff, Announced]
  refine and_congr ⟨eq_append_of_stripPrefix, ?_⟩ (by simp)
  intro h
  rw [h, stripPrefix_append]

/-- The word after the name is the last one. -/
theorem Announced.parseKerfVersion {output : String} (h : Announced output version) :
    Compatibility.parseKerfVersion output = .ok version := by
  obtain ⟨htrim, hnonempty, hplain⟩ := h
  obtain ⟨_, before, after, houtput, _, hafter⟩ := trimText_eq_iff.mp htrim
  have hlast : (splitWhitespace output).getLast? = some version := by
    have hparts : output =
        (before ++ "kerf, version") ++ String.singleton ' ' ++ version ++ after := by
      rw [houtput]
      simp only [String.append_assoc]
      rfl
    rw [hparts]
    exact getLast?_splitWhitespace (by decide) hnonempty hplain hafter
  rw [Compatibility.parseKerfVersion, hlast, okOr_eq_ok]
  simpa using hnonempty

/-- The command line finds what the daemon finds exactly when the file lets both find it. -/
theorem osReleaseValue_eq_required_iff {contents : String}
    (hfields : Compatibility.parseOsRelease contents = .ok fields) (hkey : Compatibility.IsKey key)
    (h : Compatibility.required fields key = .ok value) :
    osReleaseValue contents key = some value ↔ ReadAlike key contents := by
  have hplain : '=' ∉ key.toList := hkey.not_mem (by decide) (by decide)
  obtain ⟨_, hlast⟩ := (Compatibility.required_eq_ok hfields hkey).mp h
  rw [osReleaseValue_eq_some hplain]
  constructor
  · intro hfirst
    exact ⟨value, hlast, hfirst⟩
  · intro ⟨other, hother, hfirst⟩
    rw [Compatibility.lastAssigned_iff hkey] at hlast hother
    rw [hlast] at hother
    cases hother
    exact hfirst

/-- Both programs look at one host: the same release file, output of Kerf and manifest. -/
structure OneHost (host : Host) (config : DiagnosticConfig) (sources : Compatibility.Sources)
    (manifest : ReleaseCompatibilityManifest) (osRelease kerfOutput : String) : Prop where
  manifest : sources.manifest = .ok (.ok manifest)
  daemonOs : sources.osRelease = .ok osRelease
  daemonKerf : sources.kerf = .ok (utf8Bytes kerfOutput, true)
  cliOs : host.readToString config.osRelease = .ok osRelease
  cliKernel : (host.readToString config.kernelRelease).isOk = true

/-- The names under which both programs compare what the release file and Kerf say. -/
def identityNames : List String := ["os_id", "os_version_id", "kerf_version"]

/-- Both programs read the same identity, and so pass the same checks of it: where the diagnosis is
good, the daemon accepts the identity of the host. -/
structure SameIdentity (osRelease kerfOutput osId osVersionId version : String) : Prop where
  osId : osReleaseValue osRelease "ID" = some osId
  osVersionId : osReleaseValue osRelease "VERSION_ID" = some osVersionId
  kerfVersion : parseKerfVersion kerfOutput = .ok version
  verdicts : ∀ {host : Host} {config : DiagnosticConfig} {sources : Compatibility.Sources}
    {manifest : ReleaseCompatibilityManifest} {snapshot : HostSnapshot}
    {report : HostCompatibilityReport} {cliVersion : String},
    OneHost host config sources manifest osRelease kerfOutput →
    Compatibility.evaluate sources snapshot = .ok report →
    parseKerfVersion kerfOutput = .ok cliVersion →
    ∃ found, mismatches host config manifest cliVersion = .ok found ∧
      ∀ name ∈ identityNames, report.Passes name ↔ ∀ mismatch ∈ found, mismatch.name ≠ name
  accepted : ∀ {host : Host} {config : DiagnosticConfig} {sources : Compatibility.Sources}
    {manifest : ReleaseCompatibilityManifest} {snapshot : HostSnapshot}
    {report : HostCompatibilityReport} {status : String},
    OneHost host config sources manifest osRelease kerfOutput →
    host.manifest = sources.manifest → host.kerf = .exited true status (utf8Bytes kerfOutput) →
    (utf8Bytes kerfOutput).length ≤ maxVersionOutput →
    (diagnose host config).compatible = true →
    Compatibility.evaluate sources snapshot = .ok report →
    ∀ name ∈ identityNames, report.Passes name

/-- As long as the command line can read all of it, it reports exactly what differs. -/
theorem mismatches_eq_ok (version : String)
    (hos : host.readToString config.osRelease = .ok osRelease)
    (hkernel : (host.readToString config.kernelRelease).isOk = true)
    (hid : osReleaseValue osRelease "ID" = some osId)
    (hversionId : osReleaseValue osRelease "VERSION_ID" = some osVersionId) :
    ∃ found, mismatches host config manifest version = .ok found ∧
      ((∀ mismatch ∈ found, mismatch.name ≠ "os_id") ↔ osId = manifest.osId) ∧
      ((∀ mismatch ∈ found, mismatch.name ≠ "os_version_id") ↔ osVersionId = manifest.osVersionId) ∧
      ((∀ mismatch ∈ found, mismatch.name ≠ "kerf_version") ↔ version = manifest.kerfVersion) := by
  cases hread : host.readToString config.kernelRelease with
  | error error =>
      rw [hread] at hkernel
      cases hkernel
  | ok kernelRelease =>
      refine ⟨_, bind_eq_ok.mpr ⟨osRelease, mapErr_eq_ok.mpr hos, bind_eq_ok.mpr
        ⟨osId, okOr_eq_ok.mpr hid, bind_eq_ok.mpr ⟨osVersionId, okOr_eq_ok.mpr hversionId,
          bind_eq_ok.mpr ⟨kernelRelease, mapErr_eq_ok.mpr hread, rfl⟩⟩⟩⟩, ?_⟩
      simp only [List.forall_mem_filter, List.forall_mem_cons]
      simp

/-- Two programs that read the same identity pass the same checks of it. -/
theorem verdicts_agree {sources : Compatibility.Sources}
    (hone : OneHost host config sources manifest osRelease kerfOutput)
    (hfields : Compatibility.parseOsRelease osRelease = .ok fields)
    (hid : Compatibility.required fields "ID" = .ok osId)
    (hversionId : Compatibility.required fields "VERSION_ID" = .ok osVersionId)
    (hkerf : Compatibility.parseKerfVersion kerfOutput = .ok version)
    (hcliId : osReleaseValue osRelease "ID" = some osId)
    (hcliVersionId : osReleaseValue osRelease "VERSION_ID" = some osVersionId)
    {snapshot : HostSnapshot} {report : HostCompatibilityReport}
    (hreport : Compatibility.evaluate sources snapshot = .ok report) :
    ∃ found, mismatches host config manifest version = .ok found ∧
      ∀ name ∈ identityNames, report.Passes name ↔ ∀ mismatch ∈ found, mismatch.name ≠ name := by
  obtain ⟨contract, evidence, hcollected, rfl⟩ := Compatibility.collected_of_evaluate hreport
  -- the daemon has collected what stands on the host
  have hcontract := hcollected.manifest
  obtain ⟨contents, read, hcontents, hread, hreadId, hreadVersionId⟩ := hcollected.os
  obtain ⟨output, houtput, hversion⟩ := hcollected.kerf
  rw [hone.manifest] at hcontract
  obtain rfl := Except.ok.inj (Except.ok.inj hcontract)
  rw [hone.daemonOs] at hcontents
  cases hcontents
  rw [hfields] at hread
  cases hread
  rw [hone.daemonKerf] at houtput
  obtain rfl := utf8Bytes_injective (Prod.mk.inj (Except.ok.inj houtput)).1
  rw [hid] at hreadId
  rw [hversionId] at hreadVersionId
  rw [hkerf] at hversion
  obtain ⟨found, hfound, hosId, hosVersionId, hkerfVersion⟩ :=
    mismatches_eq_ok version hone.cliOs hone.cliKernel hcliId hcliVersionId
  have hpasses : ∀ {name expected observed : String},
      (name, expected, observed) ∈ identity manifest evidence →
        ((manifest.evaluate evidence).Passes name ↔ observed = expected) := by
    intro name expected observed h
    rw [passes_identity_iff h, eq_comm]
  refine ⟨found, hfound, ?_⟩
  simp only [identityNames, List.forall_mem_cons]
  refine ⟨?_, ?_, ?_, by simp⟩
  · rw [hosId, Except.ok.inj hreadId]
    exact hpasses (by simp [identity])
  · rw [hosVersionId, Except.ok.inj hreadVersionId]
    exact hpasses (by simp [identity])
  · rw [hkerfVersion, Except.ok.inj hversion]
    exact hpasses (by simp [identity])

/-- The diagnosis is good only when the manifest and the version of Kerf could be read and nothing
differs from the manifest. -/
theorem matches_of_diagnose {status : String} (h : (diagnose host config).compatible = true)
    (hmanifest : host.manifest = .ok (.ok manifest))
    (hrun : host.kerf = .exited true status (utf8Bytes kerfOutput))
    (hshort : (utf8Bytes kerfOutput).length ≤ maxVersionOutput)
    (hversion : parseKerfVersion kerfOutput = .ok version) :
    mismatches host config manifest version = .ok [] := by
  have hread : readManifest host config = .ok manifest := by
    rw [readManifest, hmanifest]
    rfl
  have hkerf : kerfVersion config host.kerf = .ok version := by
    have houtput : ofUtf8 ((utf8Bytes kerfOutput).take maxVersionOutput) = some kerfOutput := by
      rw [List.take_of_length_le hshort, ofUtf8_utf8Bytes]
    rw [hrun]
    exact guard_eq_ok.mpr ⟨rejectIf_eq_ok.mpr (by simp),
      bind_eq_ok.mpr ⟨kerfOutput, okOr_eq_ok.mpr houtput, hversion⟩⟩
  cases hmatch : releaseMatch host config manifest version with
  | error error =>
      simp [diagnose, hread, hkerf, hmatch, requiredCheck, Except.isOk, Except.toBool] at h
  | ok message =>
      obtain ⟨found, hfound, hmessage⟩ := bind_eq_ok.mp hmatch
      by_cases hempty : found.isEmpty = true
      · rw [hfound, List.isEmpty_iff.mp hempty]
      · rw [if_neg hempty] at hmessage
        cases hmessage

theorem sameIdentity_iff (hfields : Compatibility.parseOsRelease osRelease = .ok fields)
    (hid : Compatibility.required fields "ID" = .ok osId)
    (hversionId : Compatibility.required fields "VERSION_ID" = .ok osVersionId)
    (hkerf : Compatibility.parseKerfVersion kerfOutput = .ok version) :
    SameIdentity osRelease kerfOutput osId osVersionId version ↔
      ReadAlike "ID" osRelease ∧ ReadAlike "VERSION_ID" osRelease ∧
        ∃ word, Announced kerfOutput word := by
  have hsameId := osReleaseValue_eq_required_iff hfields ⟨by decide, by decide⟩ hid
  have hsameVersionId := osReleaseValue_eq_required_iff hfields ⟨by decide, by decide⟩ hversionId
  constructor
  · intro h
    exact ⟨hsameId.mp h.osId, hsameVersionId.mp h.osVersionId, version,
      parseKerfVersion_eq_ok.mp h.kerfVersion⟩
  · intro ⟨halikeId, halikeVersionId, word, hword⟩
    have hlast := hword.parseKerfVersion
    rw [hkerf] at hlast
    cases hlast
    have hcliId := hsameId.mpr halikeId
    have hcliVersionId := hsameVersionId.mpr halikeVersionId
    have hcliKerf := parseKerfVersion_eq_ok.mpr hword
    refine ⟨hcliId, hcliVersionId, hcliKerf, ?_, ?_⟩
    · intro host config sources manifest snapshot report cliVersion hone hreport hcli
      rw [hcliKerf] at hcli
      cases hcli
      exact verdicts_agree hone hfields hid hversionId hkerf hcliId hcliVersionId hreport
    · intro host config sources manifest snapshot report status hone hmanifest hrun hshort hgood
        hreport name hname
      obtain ⟨found, hfound, hverdicts⟩ :=
        verdicts_agree hone hfields hid hversionId hkerf hcliId hcliVersionId hreport
      have hnone := matches_of_diagnose hgood (hmanifest.trans hone.manifest) hrun hshort hcliKerf
      obtain rfl := Except.ok.inj (hfound.symm.trans hnone)
      exact (hverdicts name hname).mpr (by simp)

/-- The usual files: both programs read Ubuntu 24.04 and Kerf 0.2.0. -/
theorem sameIdentity_iff_usual :
    SameIdentity "ID=ubuntu\nVERSION_ID=\"24.04\"\n" "kerf, version 0.2.0\n" "ubuntu" "24.04"
      "0.2.0" := by
  have hfields : Compatibility.parseOsRelease "ID=ubuntu\nVERSION_ID=\"24.04\"\n" =
      .ok [("ID", "ubuntu"), ("VERSION_ID", "24.04")] := by decide +kernel
  have hid : Compatibility.required [("ID", "ubuntu"), ("VERSION_ID", "24.04")] "ID" =
      .ok "ubuntu" := by decide +kernel
  have hversionId : Compatibility.required [("ID", "ubuntu"), ("VERSION_ID", "24.04")]
      "VERSION_ID" = .ok "24.04" := by decide +kernel
  have hplain : ("0.2.0".toList.all fun char => !isWhitespace char) = true := by decide
  refine (sameIdentity_iff hfields hid hversionId (by decide +kernel)).mpr
    ⟨?_, ?_, "0.2.0", by decide +kernel, by decide, ?_⟩
  · exact (osReleaseValue_eq_required_iff hfields ⟨by decide, by decide⟩ hid).mp (by decide +kernel)
  · exact (osReleaseValue_eq_required_iff hfields ⟨by decide, by decide⟩ hversionId).mp
      (by decide +kernel)
  · exact fun char hchar => by simpa using List.all_eq_true.mp hplain char hchar

/-- Of two assignments the last one counts for the daemon and the first one for the command
line. -/
theorem identity_read_differently :
    ∃ fields, Compatibility.parseOsRelease "ID=debian\nID=ubuntu\nVERSION_ID=\"24.04\"\n" =
        .ok fields ∧
      Compatibility.required fields "ID" = .ok "ubuntu" ∧
      Compatibility.required fields "VERSION_ID" = .ok "24.04" ∧
      Compatibility.parseKerfVersion "kerf, version 0.2.0\n" = .ok "0.2.0" ∧
      ¬ SameIdentity "ID=debian\nID=ubuntu\nVERSION_ID=\"24.04\"\n" "kerf, version 0.2.0\n"
        "ubuntu" "24.04" "0.2.0" := by
  refine ⟨[("ID", "debian"), ("ID", "ubuntu"), ("VERSION_ID", "24.04")], by decide +kernel,
    by decide +kernel, by decide +kernel, by decide +kernel, ?_⟩
  intro h
  have hfirst : osReleaseValue "ID=debian\nID=ubuntu\nVERSION_ID=\"24.04\"\n" "ID" =
      some "debian" := by decide +kernel
  rw [h.osId] at hfirst
  exact absurd (Option.some.inj hfirst) (by decide)

end Kernmux.Cli.Diagnostics
