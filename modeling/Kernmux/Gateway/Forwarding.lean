import Kernmux.Daemon.RouterPaths
import Kernmux.Gateway.Requests
import Mathlib.Data.List.Chain

/-!
# Kernmux.Gateway.Forwarding

**What passes the gateway.** Every way to the daemon has its own checks, and each
of them asks for the credential and for an allowed origin. What `handleApi`
passes on is what the client has sent, under a path without `/api`. The list of
such paths is compared with the daemon's router: no console is among them, and
every other route is.

Paths are compared by their parts (`joined`): the router takes a path apart
after its beginning, the gateway at every slash.
-/

namespace Kernmux.Gateway

open Api.V1 Daemon Daemon.HostApi Library

variable {parts : List String} {char : Char} {target : String}

/-! ### Parts of a path -/

/-- The path with these parts. -/
def joined (parts : List String) : String := .ofList (parts.flatMap fun part => '/' :: part.toList)

theorem joined_cons (part : String) (parts : List String) :
    joined (part :: parts) = "/" ++ part ++ joined parts := by
  apply String.toList_inj.mp
  simp [joined]

theorem splitText_joined {part : String} (hparts : ∀ other ∈ part :: parts, '/' ∉ other.toList) :
    splitText '/' (part ++ joined parts) = part :: parts := by
  induction parts generalizing part with
  | nil =>
      have hlast : part ++ joined [] = part := by simp [joined]
      rw [hlast, splitText_of_not_mem (hparts part List.mem_cons_self)]
  | cons next parts ih =>
      have hrest : (joined (next :: parts)).toList = '/' :: (next ++ joined parts).toList := by
        simp [joined]
      rw [splitText_append (hparts part List.mem_cons_self) hrest, String.ofList_toList,
        ih fun other hother => hparts other (List.mem_cons_of_mem _ hother)]

/-- The gateway finds the parts of a path again. -/
theorem segments_joined {part : String} (hne : part ≠ "")
    (hparts : ∀ other ∈ part :: parts, '/' ∉ other.toList) :
    splitText '/' (trimStartMatches '/' (joined (part :: parts))) = part :: parts := by
  have htrim : trimStartMatches '/' (joined (part :: parts)) = part ++ joined parts := by
    obtain ⟨first, rest, hpart⟩ := List.exists_cons_of_ne_nil (mt String.toList_eq_nil_iff.mp hne)
    have hfirst : first ≠ '/' := by
      intro hslash
      exact hparts part List.mem_cons_self (by simp [hpart, hslash])
    rw [trimStartMatches, joined_cons, String.toList_append, String.toList_append, hpart]
    apply String.toList_inj.mp
    simp [hpart, hfirst]
  rw [htrim, splitText_joined hparts]

/-- No letter stands twice in a row. -/
def Single (char : Char) (chars : List Char) : Prop :=
  chars.IsChain fun first second => ¬ (first = char ∧ second = char)

theorem Single.not_pair {chars : List Char} (h : Single char chars) :
    ¬ [char, char] <:+: chars := by
  intro hpair
  have hchain : [char, char].IsChain _ := List.IsChain.infix h hpair
  simp at hchain

theorem single_of_not_mem {chars : List Char} (h : char ∉ chars) : Single char chars := by
  induction chars with
  | nil => exact List.isChain_nil
  | cons first rest ih =>
      rw [List.mem_cons, not_or] at h
      obtain ⟨hfirst, hrest⟩ := h
      refine List.isChain_cons.mpr ⟨fun next _ hboth => hfirst hboth.1.symm, ih hrest⟩

/-- A part begins after a slash and ends before one. -/
theorem single_joined (hparts : ∀ part ∈ parts, Single char part.toList)
    (hslash : char = '/' → ∀ part ∈ parts, part ≠ "" ∧ '/' ∉ part.toList) :
    Single char (joined parts).toList := by
  rw [joined, String.toList_ofList]
  induction parts with
  | nil => exact List.isChain_nil
  | cons part parts ih =>
      have hrest := ih (fun other hother => hparts other (List.mem_cons_of_mem _ hother))
        fun hchar other hother => hslash hchar other (List.mem_cons_of_mem _ hother)
      rw [List.flatMap_cons]
      refine List.isChain_append.mpr ⟨List.isChain_cons.mpr ⟨?_, hparts part List.mem_cons_self⟩,
        hrest, ?_⟩
      · intro next hnext hboth
        obtain ⟨-, hfree⟩ := hslash hboth.1.symm part List.mem_cons_self
        exact hfree (hboth.1 ▸ hboth.2 ▸ List.mem_of_mem_head? hnext)
      · intro last hlast next hnext hboth
        -- what follows a part begins with a slash, which the part does not end with
        have hnext : next = '/' := by
          cases parts with
          | nil => cases hnext
          | cons other others => simpa using hnext.symm
        obtain ⟨hne, hfree⟩ := hslash (hboth.2.symm.trans hnext) part List.mem_cons_self
        have hpart : part.toList ≠ [] := mt String.toList_eq_nil_iff.mp hne
        rw [List.getLast?_cons_of_ne_nil hpart] at hlast
        have hlast : last ∈ part.toList := List.mem_of_mem_getLast? hlast
        rw [hboth.1, ← hboth.2, hnext] at hlast
        exact hfree hlast

/-! ### Paths on the list -/

/-- Words without slashes and dots, behind the version. -/
theorem daemonPath_joined {method : Method} {uri : Uri}
    (hpath : uri.path = "/api" ++ joined ("1.0" :: parts)) (hquery : uri.query = none)
    (hparts : ∀ part ∈ parts, part ≠ "" ∧ '/' ∉ part.toList ∧ '.' ∉ part.toList)
    (hallowed : allowed method ("1.0" :: parts) = true) :
    daemonPath method uri = some (joined ("1.0" :: parts)) := by
  have hnone : ∀ part ∈ "1.0" :: parts, part ≠ "" ∧ '/' ∉ part.toList :=
    List.forall_mem_cons.mpr
      ⟨by decide, fun part hpart => ⟨(hparts part hpart).1, (hparts part hpart).2.1⟩⟩
  have hslashes : ¬ "//".toList <:+: (joined ("1.0" :: parts)).toList :=
    (single_joined (fun part hpart => single_of_not_mem (hnone part hpart).2)
      fun _ part hpart => hnone part hpart).not_pair
  have hdots : ¬ "..".toList <:+: (joined ("1.0" :: parts)).toList := by
    refine (single_joined ?_ fun hchar => absurd hchar (by decide)).not_pair
    refine List.forall_mem_cons.mpr ⟨by unfold Single; decide, fun part hpart => ?_⟩
    exact single_of_not_mem (hparts part hpart).2.2
  have hstart : stripPrefix "/1.0" (joined ("1.0" :: parts)) = some (joined parts) := by
    rw [joined_cons]
    exact stripPrefix_append "/1.0" (joined parts)
  have hsegments := segments_joined (by decide) fun part hpart => (hnone part hpart).2
  rw [daemonPath, hpath, stripPrefix_append, Option.bind_eq_bind, Option.bind_some, hstart, hquery,
    hsegments, hallowed, if_neg (by simpa using ⟨hslashes, hdots⟩)]
  rfl

theorem validToken_of_chars {value : String} {max : ℕ} (hne : value ≠ "")
    (hlength : value.toList.length ≤ max)
    (h : ∀ char ∈ value.toList,
      char.val.toNat ≤ 127 ∧ isTokenByte (UInt8.ofNat char.val.toNat) = true) :
    validToken value max = true := by
  have hchars : value.toList ≠ [] := mt String.toList_eq_nil_iff.mp hne
  rw [validToken, utf8Bytes_of_ascii fun char hchar => (h char hchar).1]
  simpa [hchars, hlength] using fun char hchar => (h char hchar).2

theorem isTokenByte_of_isAlphanumeric {byte : UInt8} (h : isAsciiAlphanumeric byte = true) :
    isTokenByte byte = true := by
  simp [isTokenByte, h]

/-- The letters of a fixed word. -/
theorem isTokenByte_of_mem {word : List Char} (h : (word.all fun char =>
      decide (char.val.toNat ≤ 127) && isTokenByte (UInt8.ofNat char.val.toNat)) = true)
    (hchar : char ∈ word) :
    char.val.toNat ≤ 127 ∧ isTokenByte (UInt8.ofNat char.val.toNat) = true := by
  have hletter := List.all_eq_true.mp h char hchar
  rwa [Bool.and_eq_true, decide_eq_true_eq] at hletter

theorem isTokenByte_of_isDigit (h : char.isDigit = true) :
    char.val.toNat ≤ 127 ∧ isTokenByte (UInt8.ofNat char.val.toNat) = true := by
  obtain ⟨hascii, hdigit⟩ := isAsciiDigit_of_isDigit h
  refine ⟨hascii, isTokenByte_of_isAlphanumeric ?_⟩
  rw [isAsciiAlphanumeric, hdigit, Bool.or_true]

theorem validNumber_of_digits {value : String} (hne : value ≠ "")
    (hlength : value.toList.length ≤ 10) (h : ∀ char ∈ value.toList, char.isDigit = true) :
    validNumber value = true := by
  have hchars : value.toList ≠ [] := mt String.toList_eq_nil_iff.mp hne
  rw [validNumber, utf8Bytes_of_ascii fun char hchar => (isAsciiDigit_of_isDigit (h char hchar)).1]
  simpa [hchars, hlength] using fun char hchar => (isAsciiDigit_of_isDigit (h char hchar)).2

theorem isTokenByte_of_isLowerHex (h : isLowerHex char = true) :
    char.val.toNat ≤ 127 ∧ isTokenByte (UInt8.ofNat char.val.toNat) = true := by
  rcases Bool.or_eq_true_iff.mp h with hdigit | hletter
  · exact isTokenByte_of_isDigit hdigit
  · simp only [Bool.and_eq_true, decide_eq_true_eq, Char.le_def, UInt32.le_iff_toNat_le] at hletter
    obtain ⟨hlow, hhigh⟩ : 97 ≤ char.val.toNat ∧ char.val.toNat ≤ 102 := hletter
    have hletter : isAsciiAlphabetic (UInt8.ofNat char.val.toNat) = true := by
      simp only [isAsciiAlphabetic, Bool.or_eq_true, Bool.and_eq_true, decide_eq_true_eq,
        UInt8.le_iff_toNat_le, UInt8.toNat_ofNat', UInt8.reduceToNat]
      omega
    refine ⟨by omega, isTokenByte_of_isAlphanumeric ?_⟩
    rw [isAsciiAlphanumeric, hletter, Bool.true_or]

theorem validToken_artifactId (id : ArtifactId) : validToken id.value 128 = true := by
  obtain ⟨hvalue, hlength⟩ := id.value_eq
  have hlength : id.value.toList.length = 71 := by
    rw [hvalue, List.length_append, hlength]
    rfl
  refine validToken_of_chars ?_ (by omega) fun char hchar => ?_
  · intro hempty
    rw [hempty] at hlength
    exact absurd hlength (by decide)
  · rcases id.mem_value hchar with hname | hhex
    · exact isTokenByte_of_mem (by decide) hname
    · exact isTokenByte_of_isLowerHex hhex

theorem validToken_operation (number : UInt64) :
    validToken ("op-" ++ toString number.toNat) 128 = true := by
  have hdigits : (toString number.toNat).toList.length ≤ 20 :=
    length_toString_le (by decide) (Nat.lt_trans number.toNat_lt (by decide))
  refine validToken_of_chars ?_ ?_ fun char hchar => ?_
  · exact fun hempty => absurd (congrArg String.toList hempty) (by simp)
  · rw [String.toList_append, List.length_append]
    exact Nat.le_trans (Nat.add_le_add_left hdigits _) (by decide)
  · rw [String.toList_append, List.mem_append] at hchar
    rcases hchar with hname | hdigit
    · exact isTokenByte_of_mem (by decide) hname
    · exact isTokenByte_of_isDigit (isDigit_of_mem_toString hdigit)

/-! ### The list and the router -/

theorem word_of_instanceAction {word : String} {action : InstanceAction}
    (h : instanceAction word = some action) :
    (action = .console ∧ word = "console") ∨
      (action ≠ .console ∧ word ∈ ["load", "load-image", "start", "stop", "unload"]) := by
  unfold instanceAction at h
  split at h
  case h_7 => cases h
  all_goals obtain rfl := Option.some.inj h; decide

/-- Identifiers as the daemon gives them out. -/
structure Plain (path : String) : Prop where
  /-- The id of an instance is decimal, with at most ten digits. -/
  instanceId : ∀ suffix id parts, path = "/1.0/instances/" ++ suffix →
    splitText '/' suffix = id :: parts →
      id.toList.length ≤ 10 ∧ ∀ char ∈ id.toList, char.isDigit = true
  /-- Operations are numbered. -/
  operationId : ∀ id, path = "/1.0/operations/" ++ id →
    ∃ number : UInt64, id = "op-" ++ toString number.toNat

section Routes

variable {method : Method} {path : String} {route : RouteSecurity} {uri : Uri}

theorem daemonPath_operation {id : OperationId} (h : operationIdFromPath path = some id)
    (hroute : operationRoute method = some route) (hplain : Plain path)
    (hpath : uri.path = "/api" ++ path) (hquery : uri.query = none) :
    daemonPath method uri = some path := by
  obtain ⟨hid, hne, hslash⟩ := path_of_operation h
  obtain ⟨number, hnumber⟩ := hplain.operationId id.val hid
  have hjoined : path = joined ["1.0", "operations", id.val] := by
    apply String.toList_inj.mp
    simp [hid, joined]
  have hdot : '.' ∉ id.val.toList := by
    rw [hnumber, String.toList_append, List.mem_append, not_or]
    exact ⟨by decide, fun hdot => absurd (isDigit_of_mem_toString hdot) (by decide)⟩
  have hmethod : (method = .get || method = .delete) = true := by
    cases method with
    | get | delete => rfl
    | put | post | patch | other => cases hroute
  rw [hjoined] at hpath ⊢
  refine daemonPath_joined hpath hquery (by simp [hne, hslash, hdot]) ?_
  show (validToken id.val 128 && (method = .get || method = .delete)) = true
  rw [hmethod, hnumber, validToken_operation, Bool.and_self]

theorem dot_not_mem_id (id : ArtifactId) : '.' ∉ id.value.toList :=
  id.not_mem_value (by decide) (by decide)

theorem eq_get_of_imageRoute (h : imageRoute method = some route) : method = .get := by
  cases method with
  | get => rfl
  | put | post | patch | delete | other => cases h

theorem daemonPath_image {kind : ArtifactKind} {id : ArtifactId}
    (h : imageResource path = some (kind, id)) (hroute : imageRoute method = some route)
    (hpath : uri.path = "/api" ++ path) (hquery : uri.query = none) :
    daemonPath method uri = some path := by
  obtain ⟨hkind, hid⟩ := eq_path_of_image h
  have hjoined : path = joined ["1.0", "images", kind.directory, id.value] := by
    apply String.toList_inj.mp
    simp [hid, joined]
  obtain rfl := eq_get_of_imageRoute hroute
  rw [hjoined] at hpath ⊢
  have hword : kind.directory ≠ "" ∧ '/' ∉ kind.directory.toList ∧ '.' ∉ kind.directory.toList := by
    cases kind <;> decide
  refine daemonPath_joined hpath hquery ?_ ?_
  · simp [hword, id.value_ne_empty, slash_not_mem_id, dot_not_mem_id]
  · show (["kernel", "initrd"].contains kind.directory && validToken id.value 128) = true
    rw [validToken_artifactId, Bool.and_true]
    rcases hkind with rfl | rfl
    · rfl
    · rfl

theorem daemonPath_osImage {id : ArtifactId} (h : osImageResource path = some id)
    (hroute : imageRoute method = some route) (hpath : uri.path = "/api" ++ path)
    (hquery : uri.query = none) : daemonPath method uri = some path := by
  have hid := eq_path_of_osImage h
  have hjoined : path = joined ["1.0", "os-images", id.value] := by
    apply String.toList_inj.mp
    simp [hid, joined]
  obtain rfl := eq_get_of_imageRoute hroute
  rw [hjoined] at hpath ⊢
  refine daemonPath_joined hpath hquery ?_ ?_
  · simp [id.value_ne_empty, slash_not_mem_id, dot_not_mem_id]
  · show validToken id.value 128 = true
    exact validToken_artifactId id

theorem daemonPath_instance {id : InstanceId} {action : Option InstanceAction}
    (h : instanceResource path = some (id, action))
    (hroute : instanceRoute method action = some route) (hclass : route.requestClass ≠ .console)
    (hplain : Plain path)
    (hpath : uri.path = "/api" ++ path) (hquery : uri.query = none) :
    daemonPath method uri = some path := by
  obtain ⟨text, hparse, htext⟩ := eq_path_of_instance h
  obtain ⟨hne, hchars⟩ := mem_of_parseUnsigned hparse
  have hfree {char : Char} (hchar : char ≠ '+') (hdigit : char.isDigit = false) :
      char ∉ text.toList := by
    intro hmem
    rcases hchars char hmem with hplus | hdigit'
    · exact hchar hplus
    · rw [hdigit] at hdigit'
      cases hdigit'
  have hslash : '/' ∉ text.toList := hfree (by decide) (by decide)
  have hdot : '.' ∉ text.toList := hfree (by decide) (by decide)
  rcases htext with ⟨rfl, hid⟩ | ⟨found, word, rfl, hfound, hid⟩
  · obtain ⟨hlength, hdigits⟩ :=
      hplain.instanceId text text [] hid (splitText_of_not_mem hslash)
    have hjoined : path = joined ["1.0", "instances", text] := by
      apply String.toList_inj.mp
      simp [hid, joined]
    have hmethod : (method = .get || method = .patch || method = .delete) = true := by
      cases method with
      | get | patch | delete => rfl
      | put | post | other => cases hroute
    rw [hjoined] at hpath ⊢
    refine daemonPath_joined hpath hquery (by simp [hne, hslash, hdot]) ?_
    show (validNumber text && (method = .get || method = .patch || method = .delete)) = true
    rw [hmethod, validNumber_of_digits hne hlength hdigits, Bool.and_self]
  · have hmethod : method = .post := by
      cases method with
      | post => rfl
      | get | put | patch | delete | other => cases hroute
    subst hmethod
    -- the only other action is the console
    have hword : word ∈ ["load", "load-image", "start", "stop", "unload"] := by
      rcases word_of_instanceAction hfound with ⟨rfl, -⟩ | ⟨-, hword⟩
      · cases hroute
        exact absurd rfl hclass
      · exact hword
    have hplainWord : ∀ word ∈ ["load", "load-image", "start", "stop", "unload"],
        word ≠ "" ∧ '/' ∉ word.toList ∧ '.' ∉ word.toList := by decide
    have hrest : ("/" ++ word).toList = '/' :: word.toList := by simp
    have hsplit : splitText '/' (text ++ "/" ++ word) = [text, word] := by
      rw [String.append_assoc, splitText_append hslash hrest, String.ofList_toList,
        splitText_of_not_mem (hplainWord word hword).2.1]
    obtain ⟨hlength, hdigits⟩ := hplain.instanceId _ text [word] hid hsplit
    have hjoined : path = joined ["1.0", "instances", text, word] := by
      apply String.toList_inj.mp
      simp [hid, joined]
    rw [hjoined] at hpath ⊢
    refine daemonPath_joined hpath hquery (by simp [hne, hslash, hdot, hplainWord word hword]) ?_
    show (validNumber text && true &&
      ["load", "load-image", "start", "stop", "unload"].contains word) = true
    rw [validNumber_of_digits hne hlength hdigits, List.contains_iff_mem.mpr hword]
    rfl

/-- Every route but the console can be reached through the gateway. -/
theorem daemonPath_of_route (hroute : routeFor method path = some route)
    (hclass : route.requestClass ≠ .console) (hplain : Plain path)
    (hpath : uri.path = "/api" ++ path) (hquery : uri.query = none) :
    daemonPath method uri = some path := by
  unfold routeFor at hroute
  split at hroute
  case h_14 =>
    rcases of_resourceRoute_eq_some hroute with ⟨id, hid, hroute⟩ | ⟨image, himage, hroute⟩ |
      ⟨id, hid, hroute⟩ | ⟨id, action, hid, hroute⟩
    · exact daemonPath_operation hid hroute hplain hpath hquery
    · exact daemonPath_image himage hroute hpath hquery
    · exact daemonPath_osImage hid hroute hpath hquery
    · exact daemonPath_instance hid hroute hclass hplain hpath hquery
  -- paths that are compared as a whole
  all_goals
    rw [daemonPath, hpath, stripPrefix_append, hquery]
    decide

/-- What is passed on is the path behind `/api`, with the query of the event stream. -/
theorem of_daemonPath_eq_some (h : daemonPath method uri = some target) :
    ∃ path, uri.path = "/api" ++ path ∧
      target = uri.query.elim path (fun query => path ++ "?" ++ query) ∧
      allowed method (splitText '/' (trimStartMatches '/' path)) = true ∧
      ∀ query, uri.query = some query → queryAllowed path query = true := by
  obtain ⟨path, hstrip, h⟩ := Option.bind_eq_some_iff.mp h
  split at h
  case isTrue => cases h
  case isFalse =>
    split at h
    case isTrue => cases h
    case isFalse hquery =>
      split at h
      case isFalse => cases h
      case isTrue hallowed =>
        refine ⟨path, eq_append_of_stripPrefix hstrip, (Option.some.inj h).symm, hallowed, ?_⟩
        intro query hfound
        simpa [hfound] using hquery

theorem requestTarget_daemonPath (h : daemonPath method uri = some target) :
    uri.path = "/api" ++ (requestTarget target).1 ∧ uri.query = (requestTarget target).2 := by
  obtain ⟨path, hpath, rfl, -⟩ := of_daemonPath_eq_some h
  have hfree : '?' ∉ path.toList := by
    have hfree := uri.noQuery
    rw [hpath, String.toList_append, List.mem_append, not_or] at hfree
    exact hfree.2
  cases hquery : uri.query with
  | none =>
      have htarget : requestTarget path = (path, none) := by
        rw [requestTarget, splitOnce_of_not_mem hfree]
      rw [Option.elim_none, htarget]
      exact ⟨hpath, rfl⟩
  | some query =>
      have htarget : requestTarget (path ++ "?" ++ query) = (path, some query) := by
        have hsplit : splitOnce '?' (path ++ "?" ++ query) = some (path, query) :=
          splitOnce_append hfree
        rw [requestTarget, hsplit]
      rw [Option.elim_some, htarget]
      exact ⟨hpath, rfl⟩

/-- No console is on the list. -/
theorem requestClass_of_daemonPath (h : daemonPath method uri = some target)
    (hroute : routeFor method (requestTarget target).1 = some route) :
    route.requestClass ≠ .console := by
  intro hclass
  obtain ⟨path, hpath, htarget, hallowed, -⟩ := of_daemonPath_eq_some h
  have hsame := (requestTarget_daemonPath h).1
  rw [hpath, String.append_right_inj] at hsame
  rw [← hsame] at hroute
  obtain ⟨id, hinstance⟩ := instanceResource_of_console hroute hclass
  obtain ⟨text, hparse, htext⟩ := eq_path_of_instance hinstance
  rcases htext with ⟨hnone, -⟩ | ⟨found, word, hfound, hword, hid⟩
  · cases hnone
  · cases hfound
    obtain rfl : word = "console" := by
      rcases word_of_instanceAction hword with ⟨-, hconsole⟩ | ⟨hother, -⟩
      · exact hconsole
      · exact absurd rfl hother
    have hslash : '/' ∉ text.toList := by
      intro hslash
      rcases (mem_of_parseUnsigned hparse).2 '/' hslash with hplus | hdigit
      · exact absurd hplus (by decide)
      · exact absurd hdigit (by decide)
    have hjoined : path = joined ["1.0", "instances", text, "console"] := by
      apply String.toList_inj.mp
      simp [hid, joined]
    rw [hjoined, segments_joined (by decide) (by simp [hslash])] at hallowed
    have hrefused : (validNumber text && decide (method = .post) && false) = true := hallowed
    rw [Bool.and_false] at hrefused
    cases hrefused

end Routes

/-! ### Ways to the daemon -/

/-- The request causes one to the daemon. -/
def Accepted.asksDaemon : Accepted → Bool
  | .health | .static => false
  | .console _ _ | .upload | .forwarded _ _ => true

/-- How the credential has been presented. -/
def Presented (config : GatewayConfig) (request : HttpRequest) : Accepted → Prop
  | .console _ _ => ∃ offered, request.headers.text "sec-websocket-protocol" = some offered ∧
      ((splitText ',' offered).map trimText).count consoleProtocol = 1 ∧
      ((splitText ',' offered).map trimText).count (expectedProtocol config.bearerToken) = 1
  | .upload | .forwarded _ _ =>
      request.headers.get "authorization" = some (utf8Bytes ("Bearer " ++ config.bearerToken))
  | .health | .static => True

/-- The request names an origin that is allowed. -/
def OriginAllowed (config : GatewayConfig) (request : HttpRequest) : Prop :=
  ∃ value ∈ request.headers.getAll "origin", ∃ text, headerText value = some text ∧
    text ∈ config.allowedOrigins

/-- What has been passed on is what the client has sent, and no console. -/
structure Verbatim (request : HttpRequest) (forwarded : Request) : Prop where
  method : methodName request.method = some forwarded.method
  path : request.uri.path = "/api" ++ (requestTarget forwarded.path).1
  query : request.uri.query = (requestTarget forwarded.path).2
  events : request.uri.query ≠ none → (requestTarget forwarded.path).1 = "/1.0/events"
  body : request.body = some forwarded.body
  noConsole : ∀ route,
    routeFor (Method.ofName forwarded.method) (requestTarget forwarded.path).1 = some route →
      route.requestClass ≠ .console

/-- What holds of every request that causes one to the daemon. -/
structure Passed (config : GatewayConfig) (request : HttpRequest) (accepted : Accepted) : Prop where
  presented : Presented config request accepted
  origin : ∀ value text, request.headers.getAll "origin" = [value] →
    headerText value = some text → text ∈ config.allowedOrigins
  required : request.method ≠ .get ∨ (stripSuffix "/console" request.uri.path).isSome = true →
    OriginAllowed config request
  verbatim : ∀ id forwarded, accepted = .forwarded id forwarded → Verbatim request forwarded

theorem ofName_methodName {method : Method} {name : String} (h : methodName method = some name) :
    Method.ofName name = method := by
  cases method with
  | other => cases h
  | get | put | post | patch | delete =>
      cases h
      rfl

section Handle

variable {config : GatewayConfig} {permit uploadPermit : Bool} {process : Process}
  {request : HttpRequest} {accepted : Accepted}

/-- The origin that is looked at is the first one. -/
theorem originAllowed_of_text {origin : String} (h : request.headers.text "origin" = some origin)
    (hallowed : origin ∈ config.allowedOrigins) :
    OriginAllowed config request ∧ ∀ value text, request.headers.getAll "origin" = [value] →
      headerText value = some text → text ∈ config.allowedOrigins := by
  obtain ⟨first, hfirst, htext⟩ := Option.bind_eq_some_iff.mp h
  refine ⟨⟨first, List.mem_of_mem_head? hfirst, origin, htext, hallowed⟩, ?_⟩
  intro value text hsingle hvalue
  rw [HeaderMap.get, hsingle] at hfirst
  cases hfirst
  rw [htext] at hvalue
  cases hvalue
  exact hallowed

theorem of_checkPolicy_eq_ok (h : checkPolicy config request = .ok ()) :
    authorized (request.headers.get "authorization") config.bearerToken = true ∧
      (∀ origin, request.headers.text "origin" = some origin → origin ∈ config.allowedOrigins) ∧
      (request.method ≠ .get → request.headers.text "origin" ≠ none) := by
  simp only [checkPolicy, guard_eq_ok, rejectIf_eq_ok, not_or, not_and, Bool.not_eq_false] at h
  obtain ⟨hauthorized, ⟨horigin, hmutation⟩, -⟩ := h
  refine ⟨hauthorized, ?_, hmutation⟩
  intro origin hfound
  simpa [hfound] using horigin

theorem of_handleApi_eq_ok (h : handleApi config uploadPermit process request = .ok accepted) :
    checkPolicy config request = .ok () ∧
      (accepted = .upload ∨ ∃ target body method, daemonPath request.method request.uri = some target ∧
        request.body = some body ∧ methodName request.method = some method ∧
        accepted = .forwarded (requestId request.headers process) ⟨method, target, body⟩) := by
  rw [handleApi, guard_eq_ok] at h
  obtain ⟨hpolicy, h⟩ := h
  refine ⟨hpolicy, ?_⟩
  split at h
  case isTrue =>
    simp only [guard_eq_ok, pure_eq_ok] at h
    exact .inl h.2.2.symm
  case isFalse =>
    simp only [bind_eq_ok, okOr_eq_ok, pure_eq_ok] at h
    obtain ⟨target, htarget, -, -, body, hbody, -, -, -, -, method, hmethod, rfl⟩ := h
    exact .inr ⟨target, body, method, htarget, (Option.filter_eq_some_iff.mp hbody).1, hmethod, rfl⟩

theorem passed_of_handleApi (hconfig : config.validate = .ok ())
    (hpath : (stripSuffix "/console" request.uri.path).isSome = false)
    (h : handleApi config uploadPermit process request = .ok accepted) :
    Passed config request accepted := by
  obtain ⟨hpolicy, hcase⟩ := of_handleApi_eq_ok h
  obtain ⟨hauthorized, horigin, hmutation⟩ := of_checkPolicy_eq_ok hpolicy
  obtain ⟨value, hvalue, -, rfl⟩ := (authorized_iff hconfig).mp hauthorized
  refine ⟨?_, ?_, ?_, ?_⟩
  · rcases hcase with rfl | ⟨target, body, method, -, -, -, rfl⟩
    · exact hvalue
    · exact hvalue
  · intro value text hsingle hvalue
    refine (originAllowed_of_text ?_ (horigin text ?_)).2 value text hsingle hvalue
    all_goals rw [HeaderMap.text, HeaderMap.get, hsingle]; exact hvalue
  · intro hrequired
    rw [hpath] at hrequired
    have hmethod : request.method ≠ .get := by simpa using hrequired
    obtain ⟨origin, hfound⟩ := Option.ne_none_iff_exists'.mp (hmutation hmethod)
    exact (originAllowed_of_text hfound (horigin origin hfound)).1
  · intro id forwarded hforwarded
    rcases hcase with rfl | ⟨target, body, method, htarget, hbody, hmethod, rfl⟩
    · cases hforwarded
    · obtain ⟨-, rfl⟩ := Accepted.forwarded.inj hforwarded
      obtain ⟨hpath, hquery⟩ := requestTarget_daemonPath htarget
      refine ⟨hmethod, hpath, hquery, ?_, hbody, ?_⟩
      · intro hsome
        obtain ⟨query, hfound⟩ := Option.ne_none_iff_exists'.mp hsome
        obtain ⟨path, hsame, -, -, hallowed⟩ := of_daemonPath_eq_some htarget
        have hevents := hallowed query hfound
        simp only [queryAllowed, Bool.and_eq_true, decide_eq_true_eq] at hevents
        rw [hpath, String.append_right_inj] at hsame
        exact hsame.trans hevents.1
      · intro route hroute
        rw [ofName_methodName hmethod] at hroute
        exact requestClass_of_daemonPath htarget hroute

theorem passed_of_upgrade (hconfig : config.validate = .ok ()) {id : String}
    (h : upgrade request config.bearerToken
      ((request.headers.text "origin").any fun origin => origin ∈ config.allowedOrigins) id =
        .ok accepted) : Passed config request accepted := by
  simp only [upgrade, bind_eq_ok, okOr_eq_ok, pure_eq_ok] at h
  obtain ⟨instanceId, -, _, horigin, offered, hoffered, _, hvalid, rfl⟩ := h
  rw [rejectIf_eq_ok, Bool.not_eq_false] at horigin hvalid
  obtain ⟨origin, hfound, hallowed⟩ : ∃ origin, request.headers.text "origin" = some origin ∧
      origin ∈ config.allowedOrigins := by
    simpa [Option.any_eq_true] using horigin
  obtain ⟨hrequired, hsingle⟩ := originAllowed_of_text hfound hallowed
  refine ⟨⟨offered, hoffered, ?_⟩, hsingle, fun _ => hrequired, fun _ _ h => by cases h⟩
  have hlength : (utf8Bytes offered).length ≤ 1024 := by
    by_contra hlong
    rw [validSubprotocols, if_pos (by omega)] at hvalid
    cases hvalid
  exact (validSubprotocols_iff hconfig hlength).mp hvalid

theorem passed_of_handle (hconfig : config.validate = .ok ())
    (h : handle config permit uploadPermit process request = .ok accepted)
    (hdaemon : accepted.asksDaemon = true) : Passed config request accepted := by
  rw [handle, guard_eq_ok] at h
  obtain ⟨-, h⟩ := h
  split at h
  case isTrue =>
    obtain rfl := pure_eq_ok.mp h
    cases hdaemon
  case isFalse =>
    split at h
    case isTrue => exact passed_of_upgrade hconfig h
    case isFalse hpath =>
      split at h
      case isTrue => exact passed_of_handleApi hconfig (by simpa using hpath) h
      case isFalse =>
        obtain rfl := pure_eq_ok.mp h
        cases hdaemon

end Handle

/-- The gateway forwards only authenticated, same-origin requests that open no console, as they
are, and every other route of the daemon can be reached through it. -/
theorem handle_forwards_exactly :
    (∀ (config : GatewayConfig) (permit uploadPermit : Bool) (process : Process)
      (request : HttpRequest) (accepted : Accepted), config.validate = .ok () →
      handle config permit uploadPermit process request = .ok accepted →
      accepted.asksDaemon = true → Passed config request accepted) ∧
    ∀ (method : Method) (path : String) (route : RouteSecurity) (uri : Uri),
      routeFor method path = some route → route.requestClass ≠ .console → Plain path →
      uri.path = "/api" ++ path → uri.query = none → daemonPath method uri = some path := by
  constructor
  · intro config permit uploadPermit process request accepted hconfig h hdaemon
    exact passed_of_handle hconfig h hdaemon
  · intro method path route uri hroute hclass hplain hpath hquery
    exact daemonPath_of_route hroute hclass hplain hpath hquery

/-- A page of the web client asks for what has happened since the fifth event. -/
def eventsRequest : HttpRequest where
  method := .get
  uri := ⟨"/api/1.0/events", some "after=5", by decide⟩
  headers := [("origin", utf8Bytes "http://localhost:9443"),
    ("authorization", utf8Bytes "Bearer 0123456789abcdef0123456789abcdef"),
    ("x-request-id", utf8Bytes "page-1")]
  body := some []

theorem plain_instance_start : Plain "/1.0/instances/7/start" := by
  refine ⟨?_, ?_⟩
  · intro suffix id parts hpath hsplit
    obtain rfl : "7/start" = suffix := (String.append_right_inj "/1.0/instances/").mp
      ((by decide : "/1.0/instances/" ++ "7/start" = "/1.0/instances/7/start").trans hpath)
    have hparts : ["7", "start"] = splitText '/' "7/start" := by decide
    obtain ⟨rfl, -⟩ := List.cons.inj (hparts.trans hsplit)
    refine ⟨by decide, fun char hchar => ?_⟩
    obtain rfl := List.mem_singleton.mp hchar
    rfl
  · intro id hpath
    have hother : stripPrefix "/1.0/operations/" "/1.0/instances/7/start" = none := by decide
    rw [hpath, stripPrefix_append] at hother
    cases hother

theorem handle_forwards_exactly_events : handle localGateway true true ⟨17, 1⟩ eventsRequest =
      .ok (.forwarded "page-1" ⟨"GET", "/1.0/events?after=5", []⟩) ∧
    Passed localGateway eventsRequest
      (.forwarded "page-1" ⟨"GET", "/1.0/events?after=5", []⟩) ∧
    daemonPath .post ⟨"/api/1.0/instances/7/start", none, by decide⟩ =
      some "/1.0/instances/7/start" := by
  have hhandle : handle localGateway true true ⟨17, 1⟩ eventsRequest =
      .ok (.forwarded "page-1" ⟨"GET", "/1.0/events?after=5", []⟩) := by decide +kernel
  exact ⟨hhandle,
    handle_forwards_exactly.1 localGateway true true ⟨17, 1⟩ eventsRequest _ (by decide +kernel)
      hhandle rfl,
    handle_forwards_exactly.2 .post "/1.0/instances/7/start" mutationRoute
      ⟨"/api/1.0/instances/7/start", none, by decide⟩ (by decide) (by decide)
      plain_instance_start (by decide) rfl⟩

end Kernmux.Gateway
