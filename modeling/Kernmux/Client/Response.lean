import Kernmux.Library.Result
import Kernmux.Library.Search
import Kernmux.Library.Stream
import Kernmux.Library.Text

/-!
# Kernmux.Client.Response

**One response of the daemon, however its bytes arrive.** The client reads until
it has seen the end of the headers, then the rest of a body whose length the
headers declare, and then one byte more, which must not be there.

What has been read at some moment is a first part of the response, and every
decision of the reader is one about the whole (`readHeaders_spec`): the end of
the headers stays where it is found, and the limit is passed by the headers, not
by what happens to have arrived with them. So there is one answer for a
response, and it is the one that `Framed` describes.
-/

namespace Kernmux.Client

open Library Blames
open Faulty (bind_of_ok mapError ofExcept ofExcept_bind_of_error ofExcept_bind_of_ok)

/-! ### Errors -/

/-- Stable client-side failure category. -/
inductive ErrorKind
  | transport
  | protocol
  | rejected
  | operationFailed
  | operationCancelled
  | operationIndeterminate
  | timeout
  deriving DecidableEq, Repr

/-- Failure before a successful typed management result is available. -/
structure ClientError where
  kind : ErrorKind
  message : String
  deriving DecidableEq, Repr

def ClientError.transport (message : String) : ClientError := ⟨.transport, message⟩

def ClientError.protocol (message : String) : ClientError := ⟨.protocol, message⟩

/-! ### The head of a response -/

structure ResponseHead where
  status : UInt16
  contentLength : ℕ
  deriving DecidableEq, Repr

/-- Text in parts at every line end of the protocol. -/
def splitCrlf : List Char → List (List Char)
  | [] => [[]]
  | '\r' :: '\n' :: rest => [] :: splitCrlf rest
  | char :: rest =>
      match splitCrlf rest with
      | line :: lines => (char :: line) :: lines
      | [] => [[char]]

/-- Headers are named in any case. -/
def named (name expected : String) : Bool :=
  (utf8Bytes name).map lowerAscii == (utf8Bytes expected).map lowerAscii

def parseStatusLine (line : String) : Option UInt16 :=
  match splitWhitespace line with
  | "HTTP/1.1" :: status :: _ => (parseUnsigned (2 ^ 16) status).map UInt16.ofNat
  | _ => none

/-- The headers that have been seen. -/
structure HeaderFields where
  contentLength : Option ℕ
  contentTypeIsJson : Option Bool
  deriving DecidableEq, Repr

/-- The part in front of the parameters is the media type. -/
def isJson (value : String) : Bool :=
  (splitText ';' (trimText value)).head?.any fun mediaType => named mediaType "application/json"

def readContentLength (fields : HeaderFields) (name value : String) :
    Except ClientError HeaderFields := do
  if named name "content-length" then
    rejectIf fields.contentLength.isSome (.protocol "response has duplicate content length")
    let length ← okOr (parseUnsigned (2 ^ 64) (trimText value))
      (.protocol "response content length is invalid")
    return { fields with contentLength := some length }
  else return fields

def readContentType (fields : HeaderFields) (name value : String) :
    Except ClientError HeaderFields := do
  if named name "content-type" then
    rejectIf fields.contentTypeIsJson.isSome (.protocol "response has duplicate content type")
    return { fields with contentTypeIsJson := some (isJson value) }
  else return fields

/-- One line of the headers. -/
def readHeaderLine (fields : HeaderFields) (line : String) : Except ClientError HeaderFields := do
  let header ← okOr (splitOnce ':' line) (.protocol "response header is invalid")
  rejectIf (named header.1 "transfer-encoding") (.protocol "chunked responses are not supported")
  let fields ← readContentLength fields header.1 header.2
  readContentType fields header.1 header.2

def parseResponseHead (bytes : List UInt8) : Except ClientError ResponseHead := do
  let text ← okOr (ofUtf8 bytes) (.protocol "response headers are not valid UTF-8")
  let lines := (splitCrlf text.toList).map String.ofList
  let status ← okOr (lines.head?.bind parseStatusLine) (.protocol "response status line is invalid")
  rejectIf (status = 101) (.protocol "unexpected protocol upgrade")
  let fields ← lines.tail.foldlM readHeaderLine ⟨none, none⟩
  rejectIf (fields.contentTypeIsJson ≠ some true)
    (.protocol "response content type is not application/json")
  let contentLength ← okOr fields.contentLength (.protocol "response content length is missing")
  return ⟨status, contentLength⟩

/-! ### Reading -/

/-- Validated JSON response with its HTTP status retained for presentation. -/
structure RawResponse (ν : Type) where
  status : UInt16
  value : ν
  deriving DecidableEq, Repr

/-- What the reader uses of other libraries: JSON values, and the texts of I/O failures. -/
structure Decoding (ν : Type) where
  json : List UInt8 → Option ν
  errorText : IoError → String

/-- The empty line behind the headers. -/
def headerEnd : List UInt8 := [13, 10, 13, 10]

variable {ν : Type}

/-- Reads on until the end of the headers is among what has been received. -/
def readHeaders (decoding : Decoding ν) (maxHeaderBytes : ℕ) (received : List UInt8)
    (replies : List ReadReply) : Ended ClientError (ℕ × List UInt8) × List ReadReply :=
  match findPattern headerEnd received with
  | some position => (.ok (position + 4, received), replies)
  | none =>
      if maxHeaderBytes ≤ received.length then
        (.error (.protocol "response headers exceed their limit"), replies)
      else
        match _ : (readSome 4096 replies).1 with
        | .ok (byte :: bytes) =>
            readHeaders decoding maxHeaderBytes (received ++ byte :: bytes) (readSome 4096 replies).2
        | .ok [] =>
            (.error (.protocol "response ended before its headers"), (readSome 4096 replies).2)
        | .error error =>
            (.error (.transport ("failed to read response: " ++ decoding.errorText error)),
              (readSome 4096 replies).2)
        | .stopped => (.stopped, (readSome 4096 replies).2)
termination_by backlog replies
decreasing_by exact backlog_readSome ‹_›

/-- The body behind the headers, of which a part may have been received with them. -/
def readBody (decoding : Decoding ν) (maxHeaderBytes maxBodyBytes headersEnd : ℕ)
    (received : List UInt8) : Faulty (List ReadReply) ClientError (RawResponse ν) := do
  ofExcept (rejectIf (headersEnd > maxHeaderBytes)
    (.protocol "response headers exceed their limit"))
  let head ← ofExcept (parseResponseHead (received.take (headersEnd - 4)))
  ofExcept (rejectIf (head.contentLength > maxBodyBytes)
    (.protocol "response body exceeds its limit"))
  let body := received.drop headersEnd
  ofExcept (rejectIf (body.length > head.contentLength)
    (.protocol "response contains bytes beyond its declared body"))
  let rest ← mapError
    (fun error : IoError =>
      if error.kind = .unexpectedEof then .protocol "response ended before its declared body"
      else .transport ("failed to read response body: " ++ decoding.errorText error))
    (readExact (head.contentLength - body.length))
  let extra ← mapError
    (fun error : IoError => .transport ("failed to finish response: " ++ decoding.errorText error))
    (readSome 1)
  ofExcept (rejectIf (extra ≠ []) (.protocol "response contains bytes beyond its declared body"))
  let value ← ofExcept (okOr (decoding.json (body ++ rest))
    (.protocol "response body is not valid JSON"))
  return ⟨head.status, value⟩

def readResponse (decoding : Decoding ν) (maxHeaderBytes maxBodyBytes : ℕ) :
    Faulty (List ReadReply) ClientError (RawResponse ν) := do
  let (headersEnd, received) ← readHeaders decoding maxHeaderBytes []
  readBody decoding maxHeaderBytes maxBodyBytes headersEnd received

/-! ### What a head has to be -/

/-- A header that may stand once: what was known of it before some values, and afterwards. -/
inductive Once {α : Type} (parse : String → Option α) : Option α → List String → Option α → Prop
  | nothing (found : Option α) : Once parse found [] found
  | once {value : String} {found : α} (h : parse value = some found) :
      Once parse none [value] (some found)

theorem once_append {α : Type} {parse : String → Option α} {before after : Option α}
    {values more : List String} (hone : values.length ≤ 1) :
    Once parse before (values ++ more) after ↔
      ∃ mid, Once parse before values mid ∧ Once parse mid more after := by
  match values with
  | [] =>
      constructor
      · intro h
        exact ⟨before, .nothing before, h⟩
      · intro h
        obtain ⟨mid, hmid, h⟩ := h
        cases hmid
        exact h
  | [value] =>
      constructor
      · intro h
        cases h with
        | once hparse => exact ⟨_, .once hparse, .nothing _⟩
      · intro h
        obtain ⟨mid, hmid, h⟩ := h
        cases hmid with
        | once hparse =>
            cases h
            exact .once hparse
  | _ :: _ :: _ => simp at hone

/-- The value of a line under a name. -/
def lineValue (name : String) (line : String) : List String :=
  match splitOnce ':' line with
  | some (found, value) => if named found name then [value] else []
  | none => []

def headerValues (name : String) (lines : List String) : List String :=
  lines.flatMap (lineValue name)

theorem length_lineValue (name line : String) : (lineValue name line).length ≤ 1 := by
  unfold lineValue
  split
  · split <;> simp
  · simp

def parseLength (value : String) : Option ℕ := parseUnsigned (2 ^ 64) (trimText value)

variable {fields next : HeaderFields} {line : String} {bytes : List UInt8}
  {replies : List ReadReply}

section Line

variable {name value : String} (hline : splitOnce ':' line = some (name, value))

include hline

theorem once_lineValue {α : Type} {parse : String → Option α} {before after : Option α}
    (label : String) : Once parse before (lineValue label line) after ↔
      if named name label = true then before = none ∧ ∃ found, parse value = some found ∧
        after = some found
      else after = before := by
  rw [lineValue, hline]
  by_cases hname : named name label = true
  · simp only [hname, if_true]
    constructor
    · intro h
      cases h with
      | once hfound => exact ⟨rfl, _, hfound, rfl⟩
    · rintro ⟨rfl, found, hfound, rfl⟩
      exact .once hfound
  · simp only [hname, if_false, Bool.false_eq_true]
    constructor
    · intro h
      cases h
      rfl
    · rintro rfl
      exact .nothing _

theorem readContentLength_eq_ok : readContentLength fields name value = .ok next ↔
      Once parseLength fields.contentLength (lineValue "content-length" line) next.contentLength ∧
        next.contentTypeIsJson = fields.contentTypeIsJson := by
  obtain ⟨length, type⟩ := fields
  obtain ⟨nextLength, nextType⟩ := next
  rw [once_lineValue hline, readContentLength]
  split
  · rw [guard_eq_ok, rejectIf_eq_ok, bind_eq_ok]
    simp only [okOr_eq_ok, pure_eq_ok, Option.not_isSome_iff_eq_none]
    constructor
    · rintro ⟨rfl, found, hfound, hnext⟩
      cases hnext
      exact ⟨⟨rfl, found, hfound, rfl⟩, rfl⟩
    · rintro ⟨⟨rfl, found, hfound, rfl⟩, rfl⟩
      exact ⟨rfl, found, hfound, rfl⟩
  · simp [pure_eq_ok, eq_comm]

theorem readContentType_eq_ok : readContentType fields name value = .ok next ↔
      Once (some ∘ isJson) fields.contentTypeIsJson (lineValue "content-type" line)
          next.contentTypeIsJson ∧
        next.contentLength = fields.contentLength := by
  obtain ⟨length, type⟩ := fields
  obtain ⟨nextLength, nextType⟩ := next
  rw [once_lineValue hline, readContentType]
  split
  · rw [guard_eq_ok, rejectIf_eq_ok]
    simp only [pure_eq_ok, Option.not_isSome_iff_eq_none]
    constructor
    · rintro ⟨rfl, hnext⟩
      cases hnext
      exact ⟨⟨rfl, _, rfl, rfl⟩, rfl⟩
    · rintro ⟨⟨rfl, found, hfound, rfl⟩, rfl⟩
      cases hfound
      exact ⟨rfl, rfl⟩
  · simp [pure_eq_ok, eq_comm, and_comm]

end Line

/-- A line of the headers has a colon and does not announce chunks. -/
def WellFormedLine (line : String) : Prop :=
  ':' ∈ line.toList ∧ lineValue "transfer-encoding" line = []

/-- What one line adds. -/
theorem readHeaderLine_eq_ok : readHeaderLine fields line = .ok next ↔ WellFormedLine line ∧
      Once parseLength fields.contentLength (lineValue "content-length" line) next.contentLength ∧
      Once (some ∘ isJson) fields.contentTypeIsJson (lineValue "content-type" line)
        next.contentTypeIsJson := by
  cases hline : splitOnce ':' line with
  | none =>
      have hcolon := not_mem_of_splitOnce hline
      simp only [readHeaderLine, hline, okOr]
      constructor
      · intro h
        cases h
      · intro h
        exact absurd h.1.1 hcolon
  | some header =>
      obtain ⟨name, value⟩ := header
      have hcolon : ':' ∈ line.toList := by
        rw [(eq_append_of_splitOnce hline).1]
        simp
      have hchunked : lineValue "transfer-encoding" line = [] ↔
          ¬ named name "transfer-encoding" = true := by
        rw [lineValue, hline]
        by_cases hname : named name "transfer-encoding" = true <;> simp [hname]
      rw [readHeaderLine, hline]
      change (rejectIf _ _ >>= fun _ => readContentLength fields name value >>= fun read =>
        readContentType read name value) = .ok next ↔ _
      rw [guard_eq_ok, rejectIf_eq_ok, bind_eq_ok, ← hchunked]
      constructor
      · intro h
        obtain ⟨hplain, read, hlength, htype⟩ := h
        obtain ⟨hlength, hsame⟩ := (readContentLength_eq_ok hline).mp hlength
        obtain ⟨htype, hsame'⟩ := (readContentType_eq_ok hline).mp htype
        rw [hsame] at htype
        rw [← hsame'] at hlength
        exact ⟨⟨hcolon, hplain⟩, hlength, htype⟩
      · rintro ⟨⟨-, hplain⟩, hlength, htype⟩
        exact ⟨hplain, ⟨next.contentLength, fields.contentTypeIsJson⟩,
          (readContentLength_eq_ok hline).mpr ⟨hlength, rfl⟩,
          (readContentType_eq_ok hline).mpr ⟨htype, rfl⟩⟩

/-- What all lines add. -/
theorem foldlM_readHeaderLine {lines : List String} :
    lines.foldlM readHeaderLine fields = .ok next ↔ (∀ line ∈ lines, WellFormedLine line) ∧
      Once parseLength fields.contentLength (headerValues "content-length" lines)
        next.contentLength ∧
      Once (some ∘ isJson) fields.contentTypeIsJson (headerValues "content-type" lines)
        next.contentTypeIsJson := by
  induction lines generalizing fields with
  | nil =>
      obtain ⟨length, type⟩ := fields
      obtain ⟨nextLength, nextType⟩ := next
      constructor
      · intro h
        cases h
        exact ⟨by simp, .nothing _, .nothing _⟩
      · intro h
        obtain ⟨-, hlength, htype⟩ := h
        cases hlength
        cases htype
        rfl
  | cons line lines ih =>
      rw [List.foldlM_cons, bind_eq_ok, List.forall_mem_cons, headerValues, headerValues,
        List.flatMap_cons, List.flatMap_cons, once_append (length_lineValue _ _),
        once_append (length_lineValue _ _)]
      constructor
      · intro h
        obtain ⟨mid, hline, hrest⟩ := h
        obtain ⟨hplain, hlength, htype⟩ := readHeaderLine_eq_ok.mp hline
        obtain ⟨hplains, hlengths, htypes⟩ := ih.mp hrest
        exact ⟨⟨hplain, hplains⟩, ⟨_, hlength, hlengths⟩, ⟨_, htype, htypes⟩⟩
      · rintro ⟨⟨hplain, hplains⟩, ⟨length, hlength, hlengths⟩, ⟨type, htype, htypes⟩⟩
        exact ⟨⟨length, type⟩, readHeaderLine_eq_ok.mpr ⟨hplain, hlength, htype⟩,
          ih.mpr ⟨hplains, hlengths, htypes⟩⟩

/-- A head that is accepted: the status is not an upgrade, every header is one, the length and
the type of the content are declared once, and chunks are not announced. -/
structure HeadAccepted (head : List UInt8) (status : UInt16) (length : ℕ) : Prop where
  lines : ∃ text statusLine lines, ofUtf8 head = some text ∧
    (splitCrlf text.toList).map String.ofList = statusLine :: lines ∧
    (∃ number more, splitWhitespace statusLine = "HTTP/1.1" :: number :: more ∧
      parseUnsigned (2 ^ 16) number = some status.toNat) ∧
    (∀ line ∈ lines, WellFormedLine line) ∧
    (∃ value, headerValues "content-length" lines = [value] ∧ parseLength value = some length) ∧
    ∃ value, headerValues "content-type" lines = [value] ∧ isJson value = true
  status : status ≠ 101

theorem parseStatusLine_eq_some {status : UInt16} : parseStatusLine line = some status ↔
      ∃ number more, splitWhitespace line = "HTTP/1.1" :: number :: more ∧
        parseUnsigned (2 ^ 16) number = some status.toNat := by
  unfold parseStatusLine
  constructor
  · intro h
    split at h
    case h_1 number more hfields =>
      obtain ⟨found, hfound, rfl⟩ := Option.map_eq_some_iff.mp h
      refine ⟨number, more, hfields, ?_⟩
      rw [hfound, UInt16.toNat_ofNat_of_lt' (parseUnsigned_lt hfound)]
    case h_2 => cases h
  · rintro ⟨number, more, hfields, hnumber⟩
    rw [hfields]
    simp only [hnumber, Option.map_some, UInt16.ofNat_toNat]

theorem once_none {α : Type} {parse : String → Option α} {values : List String} {found : α} :
    Once parse none values (some found) ↔ ∃ value, values = [value] ∧ parse value = some found := by
  constructor
  · intro h
    cases h with
    | once hparse => exact ⟨_, rfl, hparse⟩
  · rintro ⟨value, rfl, hparse⟩
    exact .once hparse

theorem parseResponseHead_eq_ok {head : ResponseHead} :
    parseResponseHead bytes = .ok head ↔ HeadAccepted bytes head.status head.contentLength := by
  constructor
  · intro h
    obtain ⟨text, htext, h⟩ := bind_eq_ok.mp h
    obtain ⟨status, hstatus, h⟩ := bind_eq_ok.mp h
    obtain ⟨hupgrade, h⟩ := guard_eq_ok.mp h
    obtain ⟨fields, hfields, h⟩ := bind_eq_ok.mp h
    obtain ⟨hjson, h⟩ := guard_eq_ok.mp h
    obtain ⟨length, hlength, h⟩ := bind_eq_ok.mp h
    obtain rfl := pure_eq_ok.mp h
    rw [okOr_eq_ok] at htext hstatus hlength
    rw [rejectIf_eq_ok] at hupgrade hjson
    obtain ⟨statusLine, hhead, hstatus⟩ := Option.bind_eq_some_iff.mp hstatus
    obtain ⟨lines, hlines⟩ := List.head?_eq_some_iff.mp hhead
    rw [hlines, List.tail_cons] at hfields
    obtain ⟨hplain, hlengths, htypes⟩ := foldlM_readHeaderLine.mp hfields
    rw [hlength] at hlengths
    rw [not_not.mp hjson] at htypes
    obtain ⟨value, hvalue, htype⟩ := once_none.mp htypes
    exact ⟨⟨text, statusLine, lines, htext, hlines, parseStatusLine_eq_some.mp hstatus, hplain,
      once_none.mp hlengths, value, hvalue, Option.some.inj htype⟩, hupgrade⟩
  · intro h
    obtain ⟨text, statusLine, lines, htext, hlines, hstatus, hplain, hlength, value, hvalue, htype⟩ :=
      h.lines
    have hfirst : (((splitCrlf text.toList).map String.ofList).head?.bind parseStatusLine) =
        some head.status := by
      rw [hlines]
      exact parseStatusLine_eq_some.mpr hstatus
    have hfields : ((splitCrlf text.toList).map String.ofList).tail.foldlM readHeaderLine
        ⟨none, none⟩ = .ok ⟨some head.contentLength, some true⟩ := by
      rw [hlines, List.tail_cons]
      exact foldlM_readHeaderLine.mpr ⟨hplain, once_none.mpr hlength,
        once_none.mpr ⟨value, hvalue, congrArg some htype⟩⟩
    refine bind_eq_ok.mpr ⟨text, okOr_eq_ok.mpr htext, ?_⟩
    refine bind_eq_ok.mpr ⟨head.status, okOr_eq_ok.mpr hfirst, ?_⟩
    refine guard_eq_ok.mpr ⟨rejectIf_eq_ok.mpr h.status, ?_⟩
    exact bind_eq_ok.mpr ⟨_, hfields, rfl⟩

theorem blames_readHeaderLine (fields : HeaderFields) (line : String) :
    Blames (fun error => error.kind = .protocol) (readHeaderLine fields line) := by
  unfold readHeaderLine readContentLength readContentType
  refine bind (blames_okOr rfl) fun header => ?_
  refine bind (blames_rejectIf rfl) fun _ => ?_
  refine bind ?_ fun fields => ?_
  · split
    · refine bind (blames_rejectIf rfl) fun _ => ?_
      exact bind (blames_okOr rfl) fun _ => blames_pure _
    · exact blames_pure fields
  · split
    · exact bind (blames_rejectIf rfl) fun _ => blames_pure _
    · exact blames_pure fields

/-- Every complaint about a head is one about the protocol. -/
theorem blames_parseResponseHead (bytes : List UInt8) :
    Blames (fun error => error.kind = .protocol) (parseResponseHead bytes) := by
  unfold parseResponseHead
  refine bind (blames_okOr rfl) fun text => ?_
  refine bind (blames_okOr rfl) fun status => ?_
  refine bind (blames_rejectIf rfl) fun _ => ?_
  refine bind (blames_foldlM blames_readHeaderLine _ _) fun fields => ?_
  refine bind (blames_rejectIf rfl) fun _ => ?_
  exact bind (blames_okOr rfl) fun _ => blames_pure _

/-! ### Reading the headers -/

section Reading

variable {decoding : Decoding ν} {maxHeaderBytes maxBodyBytes : ℕ}

theorem headerEnd_ne_nil : headerEnd ≠ [] := List.cons_ne_nil _ _

/-- What the loop decides about the bytes received so far it decides about the whole response. -/
theorem readHeaders_spec {received rest : List UInt8} (h : Delivers rest replies)
    (hdata : NoFailure replies) :
    (∃ position seen later left,
      readHeaders decoding maxHeaderBytes received replies = (.ok (position + 4, seen), left) ∧
      findPattern headerEnd (received ++ rest) = some position ∧
      received ++ rest = seen ++ later ∧ position + 4 ≤ seen.length ∧
      Delivers later left ∧ NoFailure left) ∨
    ∃ error, (readHeaders decoding maxHeaderBytes received replies).1 = .error error ∧
      error.kind = .protocol ∧
      ∀ position, findPattern headerEnd (received ++ rest) = some position →
        maxHeaderBytes < position + 4 := by
  fun_induction readHeaders decoding maxHeaderBytes received replies generalizing rest with
  | case1 received replies position hfound =>
      obtain ⟨hwhole, hlength⟩ : findPattern headerEnd (received ++ rest) = some position ∧
          position + 4 ≤ received.length := (findPattern_append_iff headerEnd_ne_nil).mp hfound
      exact .inl ⟨position, received, rest, replies, rfl, hwhole, rfl, hlength, h, hdata⟩
  | case2 received replies hnone hlimit =>
      refine .inr ⟨_, rfl, rfl, fun position hposition => ?_⟩
      by_contra hle
      have hfound : findPattern headerEnd received = some position :=
        (findPattern_append_iff headerEnd_ne_nil).mpr
          ⟨hposition, show position + 4 ≤ received.length by omega⟩
      rw [hnone] at hfound
      cases hfound
  | case3 received replies hnone hlimit byte bytes hread ih =>
      obtain ⟨piece, later, left, hbytes, hsome, -, hleft⟩ :=
        h.readSome_of_noFailure hdata (Nat.zero_lt_succ 4095)
      rw [hsome] at hread ih
      obtain rfl : piece = byte :: bytes := Ended.ok.inj hread
      obtain ⟨hlater, hlaterData⟩ := hleft (List.cons_ne_nil _ _)
      have hsame : received ++ rest = received ++ byte :: bytes ++ later := by
        rw [hbytes, List.append_assoc]
      rw [hsame, hsome]
      exact ih hlater hlaterData
  | case4 received replies hnone hlimit hread =>
      obtain ⟨piece, later, left, hbytes, hsome, hend, -⟩ :=
        h.readSome_of_noFailure hdata (Nat.zero_lt_succ 4095)
      rw [hsome] at hread
      obtain rfl := Ended.ok.inj hread
      refine .inr ⟨_, rfl, rfl, fun position hposition => ?_⟩
      rw [hend rfl, List.append_nil, hnone] at hposition
      cases hposition
  | case5 received replies hnone hlimit error hread
  | case6 received replies hnone hlimit hread =>
      obtain ⟨piece, later, left, -, hsome, -⟩ :=
        h.readSome_of_noFailure hdata (Nat.zero_lt_succ 4095)
      rw [hsome] at hread
      cases hread

/-- A response: a head that is accepted, the first empty line within the limit, and a body of
the declared length that is JSON. -/
structure Framed (decoding : Decoding ν) (maxHeaderBytes maxBodyBytes : ℕ) (bytes : List UInt8)
    (response : RawResponse ν) : Prop where
  parts : ∃ head body, bytes = head ++ headerEnd ++ body ∧
    (∀ before after, bytes = before ++ headerEnd ++ after → head.length ≤ before.length) ∧
    head.length + headerEnd.length ≤ maxHeaderBytes ∧ body.length ≤ maxBodyBytes ∧
    HeadAccepted head response.status body.length ∧ decoding.json body = some response.value

/-- Where the headers end, the head and the body are known. -/
theorem framed_iff {position : ℕ} {response : RawResponse ν}
    (h : findPattern headerEnd bytes = some position) :
    Framed decoding maxHeaderBytes maxBodyBytes bytes response ↔
      position + 4 ≤ maxHeaderBytes ∧ (bytes.drop (position + 4)).length ≤ maxBodyBytes ∧
      parseResponseHead (bytes.take position) =
        .ok ⟨response.status, (bytes.drop (position + 4)).length⟩ ∧
      decoding.json (bytes.drop (position + 4)) = some response.value := by
  obtain ⟨⟨head, body, hbytes, rfl⟩, hfirst⟩ := (findPattern_eq_some headerEnd_ne_nil).mp h
  have hhead : bytes.take head.length = head := by rw [hbytes, List.append_assoc, List.take_left']; rfl
  have hbody : bytes.drop (head.length + 4) = body := by
    rw [hbytes, List.drop_left']
    simp [headerEnd]
  rw [hhead, hbody, parseResponseHead_eq_ok]
  constructor
  · intro hframed
    obtain ⟨head', body', hbytes', hfirst', hlimit, hlength, haccepted, hjson⟩ := hframed.parts
    have hsame : head'.length = head.length :=
      Nat.le_antisymm (hfirst' head body hbytes) (hfirst head' body' hbytes')
    obtain ⟨hsame, hbodies⟩ := List.append_inj (hbytes'.symm.trans hbytes) (by simp [hsame])
    obtain ⟨rfl, -⟩ := List.append_inj' hsame rfl
    subst hbodies
    exact ⟨hlimit, hlength, haccepted, hjson⟩
  · rintro ⟨hlimit, hlength, haccepted, hjson⟩
    exact ⟨head, body, hbytes, hfirst, hlimit, hlength, haccepted, hjson⟩

theorem framed_unique {response other : RawResponse ν}
    (h : Framed decoding maxHeaderBytes maxBodyBytes bytes response)
    (hother : Framed decoding maxHeaderBytes maxBodyBytes bytes other) : response = other := by
  obtain ⟨head, body, hbytes, hfirst, -⟩ := h.parts
  have hfound := (findPattern_eq_some headerEnd_ne_nil).mpr ⟨⟨head, body, hbytes, rfl⟩, hfirst⟩
  obtain ⟨-, -, hhead, hvalue⟩ := (framed_iff hfound).mp h
  obtain ⟨-, -, hhead', hvalue'⟩ := (framed_iff hfound).mp hother
  obtain ⟨status, value⟩ := response
  obtain ⟨status', value'⟩ := other
  obtain ⟨rfl, -⟩ := ResponseHead.mk.inj (Except.ok.inj (hhead.symm.trans hhead'))
  obtain rfl := Option.some.inj (hvalue.symm.trans hvalue')
  rfl

theorem not_framed {response : RawResponse ν}
    (h : ∀ position, findPattern headerEnd bytes = some position → maxHeaderBytes < position + 4) :
    ¬ Framed decoding maxHeaderBytes maxBodyBytes bytes response := by
  intro hframed
  obtain ⟨head, body, hbytes, hfirst, hlimit, -⟩ := hframed.parts
  have hfound := (findPattern_eq_some headerEnd_ne_nil).mpr ⟨⟨head, body, hbytes, rfl⟩, hfirst⟩
  have hlate := h head.length hfound
  exact absurd hlimit (Nat.not_le.mpr hlate)

/-- The reader accepts a response exactly when it is framed; every other end is a complaint about
the protocol. -/
def Decides (decoding : Decoding ν) (maxHeaderBytes maxBodyBytes : ℕ) (bytes : List UInt8)
    (ended : Ended ClientError (RawResponse ν)) : Prop :=
  (∃ response, ended = .ok response ∧ Framed decoding maxHeaderBytes maxBodyBytes bytes response) ∨
  ∃ error, ended = .error error ∧ error.kind = .protocol ∧
    ∀ response, ¬ Framed decoding maxHeaderBytes maxBodyBytes bytes response

/-- Of the body, some bytes have arrived with the headers and some are still to come. -/
theorem readBody_spec {seen later : List UInt8} {position : ℕ}
    (hfound : findPattern headerEnd (seen ++ later) = some position)
    (hseen : position + 4 ≤ seen.length) (h : Delivers later replies) (hdata : NoFailure replies) :
    Decides decoding maxHeaderBytes maxBodyBytes (seen ++ later)
      (readBody decoding maxHeaderBytes maxBodyBytes (position + 4) seen replies).1 := by
  have hhead : (seen ++ later).take position = seen.take position :=
    List.take_append_of_le_length (by omega)
  have hbody : (seen ++ later).drop (position + 4) = seen.drop (position + 4) ++ later :=
    List.drop_append_of_le_length hseen
  have hframed (response : RawResponse ν) :
      Framed decoding maxHeaderBytes maxBodyBytes (seen ++ later) response ↔ _ := framed_iff hfound
  simp only [hhead, hbody, List.length_append] at hframed
  rw [readBody]
  by_cases hlimit : position + 4 > maxHeaderBytes
  · rw [ofExcept_bind_of_error (rejectIf_of hlimit)]
    refine .inr ⟨_, rfl, rfl, fun response hresponse => ?_⟩
    have := ((hframed response).mp hresponse).1
    omega
  rw [ofExcept_bind_of_ok (rejectIf_eq_ok.mpr hlimit), Nat.add_sub_cancel]
  cases hparse : parseResponseHead (seen.take position) with
  | error error =>
      rw [ofExcept_bind_of_error rfl]
      refine .inr ⟨error, rfl, blames_parseResponseHead _ error hparse, fun response hresponse => ?_⟩
      have haccepted := ((hframed response).mp hresponse).2.2.1
      rw [hparse] at haccepted
      cases haccepted
  | ok head =>
      -- the declared length is the one of the body
      have hdeclared {response : RawResponse ν}
          (hresponse : Framed decoding maxHeaderBytes maxBodyBytes (seen ++ later) response) :
          head.contentLength = (seen.drop (position + 4)).length + later.length ∧
            head.contentLength ≤ maxBodyBytes := by
        obtain ⟨-, hlength, haccepted, -⟩ := (hframed response).mp hresponse
        rw [hparse] at haccepted
        cases haccepted
        exact ⟨rfl, hlength⟩
      rw [ofExcept_bind_of_ok rfl]
      by_cases hlong : head.contentLength > maxBodyBytes
      · rw [ofExcept_bind_of_error (rejectIf_of hlong)]
        refine .inr ⟨_, rfl, rfl, fun response hresponse => ?_⟩
        have := (hdeclared hresponse).2
        omega
      rw [ofExcept_bind_of_ok (rejectIf_eq_ok.mpr hlong)]
      by_cases hextra : (seen.drop (position + 4)).length > head.contentLength
      · rw [ofExcept_bind_of_error (rejectIf_of hextra)]
        refine .inr ⟨_, rfl, rfl, fun response hresponse => ?_⟩
        have := (hdeclared hresponse).1
        omega
      rw [ofExcept_bind_of_ok (rejectIf_eq_ok.mpr hextra)]
      by_cases hshort : later.length < head.contentLength - (seen.drop (position + 4)).length
      · -- the stream ends within the body
        have hread := h.readExact_of_lt hshort
        rw [Faulty.bind_of_error (Faulty.mapError_of_error (Prod.ext hread rfl))]
        refine .inr ⟨_, rfl, rfl, fun response hresponse => ?_⟩
        have := (hdeclared hresponse).1
        omega
      obtain ⟨left, hread, hleft⟩ := h.readExact_of_le (Nat.le_of_not_lt hshort)
      have hleftData : NoFailure left := by
        have hkept := hdata.readExact (head.contentLength - (seen.drop (position + 4)).length)
        rwa [hread] at hkept
      rw [bind_of_ok (Faulty.mapError_of_ok hread)]
      obtain ⟨extra, more, last, hmore, hsome, hend, -⟩ :=
        hleft.readSome_of_noFailure hleftData Nat.one_pos
      rw [bind_of_ok (Faulty.mapError_of_ok hsome)]
      by_cases htrailing : extra ≠ []
      · rw [ofExcept_bind_of_error (rejectIf_of htrailing)]
        refine .inr ⟨_, rfl, rfl, fun response hresponse => ?_⟩
        have hlength := congrArg List.length hmore
        have := List.length_pos_iff.mpr htrailing
        rw [List.length_drop, List.length_append] at hlength
        have := (hdeclared hresponse).1
        omega
      rw [ofExcept_bind_of_ok (rejectIf_eq_ok.mpr htrailing)]
      -- nothing is left, so the body is complete
      have hdrop := hend (not_not.mp htrailing)
      have hlength : later.length = head.contentLength - (seen.drop (position + 4)).length :=
        Nat.le_antisymm (List.drop_eq_nil_iff.mp hdrop) (Nat.le_of_not_lt hshort)
      rw [← hlength, List.take_length]
      cases hjson : decoding.json (seen.drop (position + 4) ++ later) with
      | none =>
          refine .inr ⟨_, rfl, rfl, fun response hresponse => ?_⟩
          have hvalue := ((hframed response).mp hresponse).2.2.2
          rw [hjson] at hvalue
          cases hvalue
      | some value =>
          refine .inl ⟨⟨head.status, value⟩, rfl, (hframed _).mpr ⟨by omega, by omega, ?_, hjson⟩⟩
          have hsame : head.contentLength = (seen.drop (position + 4)).length + later.length := by
            omega
          rw [hparse, ← hsame]

theorem readResponse_spec (h : Delivers bytes replies) (hdata : NoFailure replies) :
    Decides decoding maxHeaderBytes maxBodyBytes bytes
      (readResponse decoding maxHeaderBytes maxBodyBytes replies).1 := by
  rcases @readHeaders_spec ν replies decoding maxHeaderBytes [] bytes h hdata with
    ⟨position, seen, later, left, hread, hfound, hbytes, hseen, hleft, hleftData⟩ |
      ⟨error, hread, hkind, hnone⟩
  · rw [List.nil_append] at hfound hbytes
    rw [readResponse, bind_of_ok hread]
    rw [hbytes] at hfound ⊢
    exact readBody_spec hfound hseen hleft hleftData
  · rw [readResponse, Faulty.bind_of_error (Prod.ext hread rfl)]
    exact .inr ⟨error, rfl, hkind, fun response => not_framed hnone⟩

end Reading

/-- Whatever the pieces are in which a response arrives, it is read as what it is: as the one
response that it frames, or not at all. -/
theorem readResponse_of_pieces {ν : Type} (decoding : Decoding ν) (maxHeaderBytes maxBodyBytes : ℕ)
    (bytes : List UInt8) :
    (∀ pieces : List (List UInt8), (∀ piece ∈ pieces, piece ≠ []) → pieces.flatten = bytes →
      (∀ response,
        (readResponse decoding maxHeaderBytes maxBodyBytes (pieces.map .data ++ [.data []])).1 =
            .ok response ↔
          Framed decoding maxHeaderBytes maxBodyBytes bytes response) ∧
      ((∀ response, ¬ Framed decoding maxHeaderBytes maxBodyBytes bytes response) → ∃ error,
          (readResponse decoding maxHeaderBytes maxBodyBytes (pieces.map .data ++ [.data []])).1 =
            .error error ∧ error.kind = .protocol)) ∧
    ∀ head status length, parseResponseHead head = .ok ⟨status, length⟩ ↔
      HeadAccepted head status length := by
  refine ⟨?_, fun head status length => parseResponseHead_eq_ok⟩
  intro pieces hpieces hbytes
  obtain ⟨hdelivers, hdata⟩ := delivers_pieces hpieces
  rw [hbytes] at hdelivers
  have hdecides : Decides decoding maxHeaderBytes maxBodyBytes bytes _ :=
    readResponse_spec hdelivers hdata
  rcases hdecides with
    ⟨found, hfound, hframed⟩ | ⟨error, herror, hkind, hnone⟩
  · refine ⟨fun response => ?_, fun hnone => absurd hframed (hnone found)⟩
    rw [hfound]
    constructor
    · intro h
      obtain rfl := Ended.ok.inj h
      exact hframed
    · intro hresponse
      rw [framed_unique hframed hresponse]
  · refine ⟨fun response => ?_, fun _ => ⟨error, herror, hkind⟩⟩
    rw [herror]
    constructor
    · intro h
      cases h
    · intro hresponse
      exact absurd hresponse (hnone response)

/-- A body that is read as an empty object. -/
def emptyObject : Decoding Unit where
  json bytes := if bytes = utf8Bytes "\x7b\x7d" then some () else none
  errorText _ := ""

/-- A short response, cut within the empty line. -/
def shortResponse : List (List UInt8) :=
  [utf8Bytes "HTTP/1.1 200 OK\r\nContent-Type: application/json\r\nContent-Length: 2\r\n",
    utf8Bytes "\r\n\x7b", utf8Bytes "\x7d"]

theorem readResponse_of_pieces_short :
    (readResponse emptyObject 70 2 (shortResponse.map .data ++ [.data []])).1 = .ok ⟨200, ()⟩ ∧
      HeadAccepted (shortResponse.flatten.take 66) 200 2 := by
  have hhead : parseResponseHead (shortResponse.flatten.take 66) = .ok ⟨200, 2⟩ := by
    decide +kernel
  have hend : findPattern headerEnd shortResponse.flatten = some 66 := by decide +kernel
  have hframed : Framed emptyObject 70 2 shortResponse.flatten ⟨200, ()⟩ :=
    (framed_iff hend).mpr ⟨by decide, by decide +kernel, hhead, by decide +kernel⟩
  have hread := readResponse_of_pieces emptyObject 70 2 shortResponse.flatten
  exact ⟨((hread.1 shortResponse (by decide +kernel) rfl).1 ⟨200, ()⟩).mpr hframed,
    (hread.2 _ 200 2).mp hhead⟩

end Kernmux.Client
