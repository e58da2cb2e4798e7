import Kernmux.Api.Compatibility
import Kernmux.Library.Ordered
import Kernmux.Library.Result
import Kernmux.Library.Trimming

/-!
# Kernmux.Daemon.Compatibility

**Preflight.** The daemon collects evidence about its host and evaluates the
release contract against it. The identity of the operating system is read from
its release file: of several assignments to a key the last one counts, blanks
around a line do not, and one pair of quotes is taken off a value that begins
with a quote.
-/

namespace Kernmux.Daemon.Compatibility

open Api.V1 Library

variable {value key line : String}

def stateSchemaVersion : UInt32 := 1

/-- The major version of the interface. -/
def apiMajorVersion : UInt32 := 1

/-- The release the daemon is built as. -/
def packageVersion : String := "0.1.0"

def isKeyByte (byte : UInt8) : Bool := (65 ≤ byte && byte ≤ 90) || byte = 95

/-- The value of an assignment, without its quotes. -/
def readValue (raw : String) : Except String String :=
  if raw.toList.head? = some '"' then
    okOr ((stripPrefix "\"" raw).bind (stripSuffix "\""))
      "os-release contains an unterminated quote"
  else pure raw

/-- A line of the release file that is neither empty nor a comment. -/
def readField (line : String) : Except String (String × String) := do
  let (key, raw) ← okOr (splitOnce '=' line) "os-release contains a malformed line"
  rejectIf (key.isEmpty ∨ ¬ (utf8Bytes key).all isKeyByte) "os-release contains an invalid key"
  let value ← readValue raw
  return (key, value)

def isField (line : String) : Bool := !line.isEmpty && line.toList.head? ≠ some '#'

/-- The assignments of the release file, from the first line to the last. -/
def parseOsRelease (contents : String) : Except String (List (String × String)) :=
  collectEach (((lines contents).map trimText).filter isField) readField

/-- The value of a key that has to be there. -/
def required (fields : List (String × String)) (key : String) : Except String String :=
  okOr (((lookupLast Prod.fst fields key).map Prod.snd).filter fun value => !value.isEmpty)
    ("os-release is missing " ++ key)

def parseKerfVersion (output : String) : Except String String :=
  okOr ((splitWhitespace output).getLast?.filter fun value => !value.isEmpty)
    "Kerf version output is empty"

/-- What the daemon reads: the manifest with the two ways in which it can be unusable, the release
file, the output of `kerf --version` with whether it succeeded, and the parameter of the module. -/
structure Sources where
  manifest : Except String (Except String ReleaseCompatibilityManifest)
  osRelease : Except String String
  kerf : Except String (List UInt8 × Bool)
  daxfsFormat : Except String String

def evaluate (sources : Sources) (snapshot : HostSnapshot) :
    Except String HostCompatibilityReport := do
  let manifest ← mapErr ("compatibility manifest is unavailable: " ++ ·) sources.manifest
  let manifest ← mapErr ("compatibility manifest is invalid: " ++ ·) manifest
  let contents ← mapErr ("os-release is unavailable: " ++ ·) sources.osRelease
  let os ← parseOsRelease contents
  let kerf ← mapErr ("Kerf version is unavailable: " ++ ·) sources.kerf
  rejectIf (kerf.2 = false) "Kerf version command failed"
  let output ← okOr (ofUtf8 kerf.1) "Kerf version is not UTF-8"
  let kerfVersion ← parseKerfVersion output
  let daxfsFormat := sources.daxfsFormat.toOption.bind fun value =>
    (parseUnsigned (2 ^ 32) (trimText value)).map UInt32.ofNat
  let osId ← required os "ID"
  let osVersionId ← required os "VERSION_ID"
  return manifest.evaluate
    { osId, osVersionId
      architecture := snapshot.topology.architecture
      kernelRelease := snapshot.kernel.release
      capabilities := snapshot.capabilities
      kerfVersion
      kernmuxRelease := packageVersion
      kernmuxApiMajor := apiMajorVersion
      daxfsFormat
      stateSchema := stateSchemaVersion }

/-! ### What the release file says -/

/-- A key of the release file. -/
structure IsKey (key : String) : Prop where
  nonempty : key ≠ ""
  bytes : (utf8Bytes key).all isKeyByte = true

/-- A line gives a key a value: bare, or between a pair of quotes, with blanks around all of it. -/
def Assigns (key line value : String) : Prop :=
  (trimText line = key ++ "=" ++ value ∧ value.toList.head? ≠ some '"') ∨
    trimText line = key ++ "=\"" ++ value ++ "\""

/-- The last line that gives the key a value gives it this one. -/
def LastAssigned (key : String) (lines : List String) (value : String) : Prop :=
  ∃ before line after, lines = before ++ line :: after ∧ Assigns key line value ∧
    ∀ other ∈ after, ∀ value, ¬ Assigns key other value

theorem readValue_eq_ok {raw : String} :
    readValue raw = .ok value ↔ (raw = value ∧ value.toList.head? ≠ some '"') ∨
      raw = "\"" ++ value ++ "\"" := by
  by_cases hquote : raw.toList.head? = some '"'
  · rw [readValue, if_pos hquote, okOr_eq_ok]
    constructor
    · intro h
      obtain ⟨rest, hrest, hvalue⟩ := Option.bind_eq_some_iff.mp h
      rw [eq_append_of_stripPrefix hrest, eq_append_of_stripSuffix hvalue, ← String.append_assoc]
      exact .inr rfl
    · intro h
      obtain ⟨rfl, hbare⟩ | rfl := h
      · exact absurd hquote hbare
      · rw [String.append_assoc, stripPrefix_append, Option.bind_some, stripSuffix_append]
  · rw [readValue, if_neg hquote, pure_eq_ok]
    constructor
    · intro h
      subst h
      exact .inl ⟨rfl, hquote⟩
    · intro h
      obtain ⟨rfl, _⟩ | rfl := h
      · rfl
      · exact absurd (by simp) hquote

theorem IsKey.not_mem (h : IsKey key) {char : Char} (hascii : char.val.toNat ≤ 127)
    (hchar : isKeyByte (UInt8.ofNat char.val.toNat) = false) : char ∉ key.toList := by
  intro hmem
  have hbyte := List.all_eq_true.mp h.bytes _ (mem_utf8Bytes_of_mem hascii hmem)
  rw [hchar] at hbyte
  cases hbyte

theorem readField_eq_ok : readField line = .ok (key, value) ↔ IsKey key ∧
      ((line = key ++ "=" ++ value ∧ value.toList.head? ≠ some '"') ∨
        line = key ++ "=\"" ++ value ++ "\"") := by
  constructor
  · intro h
    obtain ⟨⟨first, raw⟩, hsplit, h⟩ := bind_eq_ok.mp h
    obtain ⟨hline, _⟩ := eq_append_of_splitOnce (okOr_eq_ok.mp hsplit)
    obtain ⟨hvalid, h⟩ := guard_eq_ok.mp h
    obtain ⟨read, hread, h⟩ := bind_eq_ok.mp h
    obtain ⟨rfl, rfl⟩ := Prod.mk.inj (pure_eq_ok.mp h)
    have hkey := rejectIf_eq_ok.mp hvalid
    rw [not_or, not_not] at hkey
    refine ⟨⟨by simpa using hkey.1, hkey.2⟩, ?_⟩
    obtain ⟨rfl, hbare⟩ | rfl := readValue_eq_ok.mp hread
    · exact .inl ⟨hline, hbare⟩
    · exact .inr (by rw [hline]; simp [String.append_assoc]; rfl)
  · intro ⟨hkey, hline⟩
    have hplain : '=' ∉ key.toList := hkey.not_mem (by decide) (by decide)
    have hraw : ∃ raw, line = key ++ String.singleton '=' ++ raw ∧ readValue raw = .ok value := by
      obtain ⟨rfl, hbare⟩ | rfl := hline
      · exact ⟨value, rfl, readValue_eq_ok.mpr (.inl ⟨rfl, hbare⟩)⟩
      · exact ⟨"\"" ++ value ++ "\"", by simp [String.append_assoc]; rfl,
          readValue_eq_ok.mpr (.inr rfl)⟩
    obtain ⟨raw, rfl, hraw⟩ := hraw
    have hvalid : ¬ (key.isEmpty ∨ ¬ (utf8Bytes key).all isKeyByte) := by
      rw [not_or, not_not]
      exact ⟨by simpa using hkey.nonempty, hkey.bytes⟩
    refine bind_eq_ok.mpr ⟨(key, raw), okOr_eq_ok.mpr (splitOnce_append hplain), ?_⟩
    refine guard_eq_ok.mpr ⟨rejectIf_eq_ok.mpr hvalid, ?_⟩
    exact bind_eq_ok.mpr ⟨value, hraw, rfl⟩

/-- The value a line gives to a key. -/
def assigned (key line : String) : Option String :=
  if isField (trimText line) then
    ((readField (trimText line)).toOption.filter fun field => field.1 = key).map Prod.snd
  else none

theorem assigned_of_isField (h : isField (trimText line) = true) :
    assigned key line = some value ↔ readField (trimText line) = .ok (key, value) := by
  rw [assigned, if_pos h]
  cases readField (trimText line) with
  | error error => simp [Except.toOption]
  | ok field =>
      obtain ⟨first, read⟩ := field
      simp only [Except.toOption, Option.map_eq_some_iff, Option.filter_eq_some_iff]
      constructor
      · intro ⟨field, ⟨hfield, hkey⟩, hvalue⟩
        cases hfield
        rw [← of_decide_eq_true hkey, ← hvalue]
      · intro h
        exact ⟨(key, value), ⟨congrArg some (Except.ok.inj h), decide_eq_true rfl⟩, rfl⟩

/-- A line that gives a key a value is neither empty nor a comment. -/
theorem isField_of_append (hkey : IsKey key) (rest : String) : isField (key ++ rest) = true := by
  cases hchars : key.toList with
  | nil => exact absurd (String.toList_eq_nil_iff.mp hchars) hkey.nonempty
  | cons first chars =>
      have hcomment : '#' ∉ key.toList := hkey.not_mem (by decide) (by decide)
      have hfirst : first ≠ '#' := by
        intro heq
        rw [hchars, heq] at hcomment
        exact hcomment List.mem_cons_self
      simp [isField, hchars, hfirst, hkey.nonempty]

theorem assigned_eq_some (hkey : IsKey key) :
    assigned key line = some value ↔ Assigns key line value := by
  by_cases hfield : isField (trimText line) = true
  · rw [assigned_of_isField hfield, readField_eq_ok]
    exact and_iff_right hkey
  · rw [assigned, if_neg hfield]
    refine iff_of_false (by simp) ?_
    intro h
    apply hfield
    obtain ⟨hline, _⟩ | hline := h
    all_goals
      rw [hline]
      simp only [String.append_assoc]
      exact isField_of_append hkey _

/-- The map of the assignments holds what the last line gave. -/
theorem lookupLast_collectEach {all : List String} {fields : List (String × String)}
    (h : collectEach ((all.map trimText).filter isField) readField = .ok fields) :
    (lookupLast Prod.fst fields key).map Prod.snd = all.reverse.findSome? (assigned key) := by
  induction all generalizing fields with
  | nil =>
      obtain rfl := pure_eq_ok.mp h
      rfl
  | cons line all ih =>
      rw [List.map_cons] at h
      rw [List.reverse_cons, List.findSome?_append]
      by_cases hfield : isField (trimText line) = true
      · rw [List.filter_cons_of_pos hfield] at h
        obtain ⟨field, hread, h⟩ := bind_eq_ok.mp h
        obtain ⟨rest, hrest, h⟩ := bind_eq_ok.mp h
        obtain rfl := pure_eq_ok.mp h
        rw [lookupLast, List.reverse_cons, List.find?_append, Option.map_or, ← ih hrest, lookupLast]
        refine congrArg (Option.or _) ?_
        rw [List.findSome?_singleton, assigned, if_pos hfield, hread, List.find?_singleton]
        rfl
      · rw [List.filter_cons_of_neg hfield] at h
        rw [ih h, List.findSome?_singleton, assigned, if_neg hfield, Option.or_none]

theorem lastAssigned_iff (hkey : IsKey key) {all : List String} :
    LastAssigned key all value ↔ all.reverse.findSome? (assigned key) = some value := by
  rw [List.findSome?_eq_some_iff]
  constructor
  · intro ⟨before, line, after, hlines, hline, hafter⟩
    refine ⟨after.reverse, line, before.reverse, ?_, (assigned_eq_some hkey).mpr hline, ?_⟩
    · simp [hlines]
    · intro other hother
      refine Option.eq_none_iff_forall_ne_some.mpr fun value hvalue => ?_
      exact hafter other (List.mem_reverse.mp hother) value ((assigned_eq_some hkey).mp hvalue)
  · intro ⟨after, line, before, hlines, hline, hafter⟩
    refine ⟨before.reverse, line, after.reverse, ?_, (assigned_eq_some hkey).mp hline, ?_⟩
    · rw [← List.reverse_reverse all, hlines]
      simp
    · intro other hother value hvalue
      have hnone := hafter other (List.mem_reverse.mp hother)
      rw [(assigned_eq_some hkey).mpr hvalue] at hnone
      cases hnone

/-- A key that the release file has to set has the value of the last line that sets it. -/
theorem required_eq_ok {contents : String} {fields : List (String × String)}
    (h : parseOsRelease contents = .ok fields) (hkey : IsKey key) :
    required fields key = .ok value ↔ value ≠ "" ∧ LastAssigned key (lines contents) value := by
  rw [required, okOr_eq_ok, lookupLast_collectEach h, Option.filter_eq_some_iff, and_comm,
    lastAssigned_iff hkey]
  exact and_congr_left' (by simp)

/-- The evidence a report rests on. -/
structure Collected (sources : Sources) (snapshot : HostSnapshot)
    (manifest : ReleaseCompatibilityManifest) (evidence : HostCompatibilityEvidence) : Prop where
  manifest : sources.manifest = .ok (.ok manifest)
  os : ∃ contents fields, sources.osRelease = .ok contents ∧ parseOsRelease contents = .ok fields ∧
    required fields "ID" = .ok evidence.osId ∧ required fields "VERSION_ID" = .ok evidence.osVersionId
  kerf : ∃ output, sources.kerf = .ok (utf8Bytes output, true) ∧
    parseKerfVersion output = .ok evidence.kerfVersion
  architecture : evidence.architecture = snapshot.topology.architecture
  kernelRelease : evidence.kernelRelease = snapshot.kernel.release

/-- A report is the contract evaluated against evidence that was collected. -/
theorem collected_of_evaluate {sources : Sources} {snapshot : HostSnapshot}
    {report : HostCompatibilityReport} (h : evaluate sources snapshot = .ok report) :
    ∃ manifest evidence, Collected sources snapshot manifest evidence ∧
      report = manifest.evaluate evidence := by
  simp only [Compatibility.evaluate, bind_eq_ok, pure_eq_ok] at h
  obtain ⟨read, hread, manifest, hmanifest, contents, hcontents, fields, hfields,
    ⟨stdout, succeeded⟩, hkerf, _, hsucceeded, output, houtput, version, hversion, osId, hid,
    osVersionId, hversionId, rfl⟩ := h
  have htrue : succeeded = true := by simpa using rejectIf_eq_ok.mp hsucceeded
  have hstdout : (⟨stdout⟩ : OsString) = .ofString output :=
    OsString.eq_ofString_of_toStr (okOr_eq_ok.mp houtput)
  refine ⟨manifest, _, ⟨?_, ?_, ?_, rfl, rfl⟩, rfl⟩
  · rw [mapErr_eq_ok.mp hread, mapErr_eq_ok.mp hmanifest]
  · exact ⟨contents, fields, mapErr_eq_ok.mp hcontents, hfields, hid, hversionId⟩
  · obtain rfl := OsString.mk.inj hstdout
    exact ⟨output, by rw [mapErr_eq_ok.mp hkerf, htrue], hversion⟩

end Kernmux.Daemon.Compatibility
