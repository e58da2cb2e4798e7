import Kernmux.Cli.Commands
import Kernmux.Daemon.Transport
import Kernmux.Gateway.Forwarding

/-!
# Kernmux.Client.RequestIds

**The ids that clients give to their requests.** The command line, the client
library and the gateway each have a grammar for request ids, and the daemon has
another one. Ids that a program generates, and those that the command line
accepts, are ids for the daemon. The gateway takes the ids of its clients for
tokens, and tokens may have colons, which the daemon refuses
(`requestId_forwarded_iff`).
-/

namespace Kernmux.Client

open Daemon Library
open Gateway (HeaderMap)
open Gateway (Process isTokenByte requestId validRequestId)

/-! ### Ids -/

/-- The next request id of a process that uses the client library. -/
def generatedRequestId (process : Process) : String :=
  "kernmux-client-" ++ toString process.id.toNat ++ "-" ++ toString process.requestSequence.toNat

/-- The daemon takes the id as it is. -/
def Taken (id : String) : Prop := Transport.requestId (some (utf8Bytes id)) = .ok (some id)

theorem isText_of_isRequestIdByte {bytes : List UInt8}
    (h : bytes.all Transport.isRequestIdByte = true) : Transport.isText bytes = true := by
  refine List.all_eq_true.mpr fun byte hbyte => ?_
  have hid := List.all_eq_true.mp h byte hbyte
  simp only [Transport.isRequestIdByte, isAsciiAlphanumeric, isAsciiAlphabetic, isAsciiDigit,
    Bool.or_eq_true, Bool.and_eq_true, decide_eq_true_eq, beq_iff_eq, UInt8.le_iff_toNat_le,
    ← UInt8.toNat_inj, UInt8.reduceToNat] at hid ⊢
  omega

/-- Ids are short, not empty, and made of few letters. -/
theorem taken_iff {id : String} : Taken id ↔ utf8Bytes id ≠ [] ∧ (utf8Bytes id).length ≤ 128 ∧
      (utf8Bytes id).all Transport.isRequestIdByte = true := by
  unfold Taken Transport.requestId
  constructor
  · intro h
    simp only at h
    split at h
    case isTrue hid => exact hid.2
    case isFalse => cases h
  · intro h
    have htext := isText_of_isRequestIdByte h.2.2
    simp only
    rw [if_pos ⟨htext, h⟩]
    exact congrArg (fun text => Except.ok (some text))
      (ofAscii_utf8Bytes (Gateway.ascii_of_isText htext))

theorem isRequestIdByte_iff {byte : UInt8} :
    Transport.isRequestIdByte byte = true ↔ isTokenByte byte = true ∧ byte ≠ 58 := by
  simp only [Transport.isRequestIdByte, isTokenByte, isAsciiAlphanumeric,
    isAsciiAlphabetic, isAsciiDigit, Bool.or_eq_true, Bool.and_eq_true, decide_eq_true_eq,
    beq_iff_eq, UInt8.le_iff_toNat_le, ← UInt8.toNat_inj, ne_eq, UInt8.reduceToNat]
  omega

/-! ### Generated ids -/

/-- A name, the number of a process and a number of the request. -/
theorem taken_generated {name : String} (hname : name.toList.length ≤ 64)
    (hletters : (name.toList.all fun char => decide (char.val.toNat ≤ 127) &&
      Transport.isRequestIdByte (UInt8.ofNat char.val.toNat)) = true)
    (id : UInt32) (sequence : UInt64) :
    Taken (name ++ toString id.toNat ++ "-" ++ toString sequence.toNat) := by
  have hid : (toString id.toNat).toList.length ≤ 10 :=
    length_toString_le (by decide) (Nat.lt_trans id.toNat_lt (by decide))
  have hsequence : (toString sequence.toNat).toList.length ≤ 20 :=
    length_toString_le (by decide) (Nat.lt_trans sequence.toNat_lt (by decide))
  have hdigit {char : Char} (hchar : char.isDigit = true) :
      char.val.toNat ≤ 127 ∧ Transport.isRequestIdByte (UInt8.ofNat char.val.toNat) = true := by
    obtain ⟨hascii, hdigit⟩ := isAsciiDigit_of_isDigit hchar
    refine ⟨hascii, ?_⟩
    rw [Transport.isRequestIdByte, isAsciiAlphanumeric, hdigit, Bool.or_true]
    rfl
  have hchars : ∀ char ∈ (name ++ toString id.toNat ++ "-" ++ toString sequence.toNat).toList,
      char.val.toNat ≤ 127 ∧ Transport.isRequestIdByte (UInt8.ofNat char.val.toNat) = true := by
    intro char hchar
    simp only [String.toList_append, List.mem_append] at hchar
    rcases hchar with ((hchar | hchar) | hchar) | hchar
    · have hletter := List.all_eq_true.mp hletters char hchar
      rwa [Bool.and_eq_true, decide_eq_true_eq] at hletter
    · exact hdigit (isDigit_of_mem_toString hchar)
    · obtain rfl := List.mem_singleton.mp hchar
      decide
    · exact hdigit (isDigit_of_mem_toString hchar)
  rw [taken_iff, utf8Bytes_of_ascii fun char hchar => (hchars char hchar).1]
  refine ⟨?_, ?_, ?_⟩
  · simp [String.toList_append]
  · simp only [List.length_map, String.toList_append, List.length_append]
    have hdash : "-".toList.length = 1 := rfl
    omega
  · refine List.all_eq_true.mpr fun byte hbyte => ?_
    obtain ⟨char, hchar, rfl⟩ := List.mem_map.mp hbyte
    exact (hchars char hchar).2

/-! ### Forwarded ids -/

/-- The client's own id is a token with a colon. -/
def Colon (headers : HeaderMap) : Prop :=
  ∃ text, headers.text "x-request-id" = some text ∧ validRequestId text = true ∧ 58 ∈ utf8Bytes text

theorem validRequestId_iff {text : String} :
    validRequestId text = true ↔ utf8Bytes text ≠ [] ∧ (utf8Bytes text).length ≤ 128 ∧
      (utf8Bytes text).all isTokenByte = true := by
  simp [validRequestId, Gateway.validToken, and_assoc]

theorem taken_gateway (process : Process) : Taken (Gateway.generatedRequestId process).1 :=
  taken_generated (by decide) (by decide) _ _

/-- The gateway's choice is refused exactly when it is a token with a colon. -/
theorem taken_forwarded_iff (headers : HeaderMap) (process : Process) :
    Taken (requestId headers process) ↔ ¬ Colon headers := by
  unfold requestId Colon
  cases htext : headers.text "x-request-id" with
  | none =>
      rw [Option.filter_none, Option.getD_none]
      refine ⟨fun _ hcolon => ?_, fun _ => taken_gateway process⟩
      obtain ⟨text, hfound, -⟩ := hcolon
      cases hfound
  | some text =>
      by_cases hvalid : validRequestId text = true
      · obtain ⟨hne, hlength, htoken⟩ := validRequestId_iff.mp hvalid
        rw [Option.filter_some, if_pos hvalid, Option.getD_some, taken_iff]
        constructor
        · intro htaken hcolon
          obtain ⟨found, hfound, -, hmem⟩ := hcolon
          cases hfound
          exact (isRequestIdByte_iff.mp (List.all_eq_true.mp htaken.2.2 58 hmem)).2 rfl
        · intro hcolon
          refine ⟨hne, hlength, List.all_eq_true.mpr fun byte hbyte => ?_⟩
          refine isRequestIdByte_iff.mpr ⟨List.all_eq_true.mp htoken byte hbyte, ?_⟩
          intro hcolon'
          subst hcolon'
          exact hcolon ⟨text, rfl, hvalid, hbyte⟩
      · rw [Option.filter_some, if_neg hvalid, Option.getD_none]
        refine ⟨fun _ hcolon => ?_, fun _ => taken_gateway process⟩
        obtain ⟨found, hfound, hfoundValid, -⟩ := hcolon
        cases hfound
        exact hvalid hfoundValid

/-- The ids that the daemon takes: of those that the gateway chooses, all but the tokens with a
colon; of the others, all. -/
theorem requestIds_taken_iff (headers : HeaderMap) (process : Process) :
    (Taken (requestId headers process) ↔ ¬ Colon headers) ∧
    (∀ id, Cli.validateRequestId id = .ok () → Taken id) ∧
    (∀ process, Taken (Gateway.generatedRequestId process).1) ∧
    (∀ process, Taken (Cli.generatedRequestId process).1) ∧
    ∀ process, Taken (generatedRequestId process) := by
  refine ⟨taken_forwarded_iff headers process, ?_, taken_gateway, ?_, ?_⟩
  · intro id hid
    rw [Cli.validateRequestId, rejectIf_eq_ok, Bool.not_eq_false] at hid
    simp only [Cli.isToken, Bool.and_eq_true, decide_eq_true_eq, Bool.not_eq_true',
      List.isEmpty_eq_false_iff] at hid
    exact taken_iff.mpr ⟨hid.1.1, hid.1.2, hid.2⟩
  · intro process
    exact taken_generated (by decide) (by decide) _ _
  · intro process
    exact taken_generated (by decide) (by decide) _ _

theorem requestIds_taken_iff_page :
    Taken (requestId [("x-request-id", utf8Bytes "page-1")] ⟨17, 1⟩) ∧
      Cli.validateRequestId "retry_2" = .ok () ∧ Taken "retry_2" := by
  have hids := requestIds_taken_iff [("x-request-id", utf8Bytes "page-1")] ⟨17, 1⟩
  refine ⟨hids.1.mpr ?_, by decide +kernel, hids.2.1 "retry_2" (by decide +kernel)⟩
  rintro ⟨text, htext, -, hmem⟩
  have hpage : HeaderMap.text [("x-request-id", utf8Bytes "page-1")] "x-request-id" =
      some "page-1" := by decide +kernel
  obtain rfl := Option.some.inj (htext.symm.trans hpage)
  exact absurd hmem (by decide +kernel)

/-- The gateway passes on an id that the daemon then refuses. -/
theorem forwarded_colon_refused : requestId [("x-request-id", utf8Bytes "a:b")] ⟨17, 1⟩ = "a:b" ∧
      Transport.requestId (some (utf8Bytes "a:b")) =
        .error (HostApi.error .invalidRequest "request ID is invalid" false) := by
  decide +kernel

end Kernmux.Client
