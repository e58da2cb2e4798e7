import Kernmux.Daemon.Transport
import Kernmux.Library.Base64
import Mathlib.Data.Nat.Bitwise

/-!
# Kernmux.Gateway.Authentication

**Who may pass the gateway.** The configuration of the gateway holds one
credential. A client of the API presents it in the `Authorization` header; a
browser cannot set headers when it opens a console, so there the credential is
offered as the name of a WebSocket subprotocol, encoded in letters that such a
name may have. Both are compared in a time that does not depend on where they
differ, and still the comparison is exact (`authorized_iff`,
`validSubprotocols_iff`).
-/

namespace Kernmux.Gateway

open Library

/-! ### Configuration -/

inductive IpAddr
  | v4 (a b c d : UInt8)
  | v6 (bits : BitVec 128)
  deriving DecidableEq, Repr

def IpAddr.isLoopback : IpAddr → Bool
  | .v4 a _ _ _ => a == 127
  | .v6 bits => bits == 1

structure ConfigError where
  message : String
  deriving DecidableEq, Repr

structure GatewayConfig where
  /-- The address to listen on; its port does not matter here. -/
  bind : IpAddr
  allowNonLoopback : Bool
  bearerToken : String
  allowedOrigins : List String
  maxRequestBytes : ℕ
  maxConnections : ℕ
  uploadDir : OsString
  maxUploadBytes : UInt64
  maxUploads : ℕ
  deriving DecidableEq, Repr

namespace GatewayConfig

/-- Rejects weak credentials, empty origin policy, invalid limits, or an accidental non-loopback
listener. -/
def validate (config : GatewayConfig) : Except ConfigError Unit := do
  rejectIf (!config.bind.isLoopback && !config.allowNonLoopback)
    ⟨"non-loopback bind requires explicit opt-in"⟩
  rejectIf ((utf8Bytes config.bearerToken).length < 32 ∨
      (utf8Bytes config.bearerToken).length > 512 ∨
      config.bearerToken.toList.any isWhitespace)
    ⟨"bearer credential must be 32-512 non-whitespace bytes"⟩
  rejectIf (config.allowedOrigins = [] ∨ config.allowedOrigins.any fun origin =>
        origin = "*" ∨
          ((stripPrefix "http://" origin).isNone ∧ (stripPrefix "https://" origin).isNone) ∨
          (stripSuffix "/" origin).isSome)
    ⟨"allowed origins must be explicit HTTP origins"⟩
  rejectIf (config.maxRequestBytes = 0 ∨ config.maxConnections = 0 ∨ config.maxUploadBytes = 0 ∨
      config.maxUploads = 0 ∨ config.uploadDir.bytes.head? ≠ some 47)
    ⟨"gateway limits must be nonzero"⟩

end GatewayConfig

/-- A gateway on the host itself. -/
def localGateway : GatewayConfig where
  bind := .v4 127 0 0 1
  allowNonLoopback := false
  bearerToken := "0123456789abcdef0123456789abcdef"
  allowedOrigins := ["http://localhost:9443"]
  maxRequestBytes := 1048576
  maxConnections := 64
  uploadDir := .ofString "/var/lib/kernmux/images/uploads"
  maxUploadBytes := 17179869184
  maxUploads := 2

/-! ### Comparison -/

/-- Compares a fixed number of bytes, whatever the two lengths are; missing bytes are zeros. -/
def constantTimeEqualOver (limit : ℕ) (left right : List UInt8) : Bool :=
  (List.range limit).foldl
    (fun difference index => difference ||| (left.getD index 0 ^^^ right.getD index 0).toNat)
    (left.length ^^^ right.length) == 0

/-- The comparison of header values. -/
def constantTimeEqual : List UInt8 → List UInt8 → Bool := constantTimeEqualOver 512

/-- The comparison of subprotocols. -/
def BrowserConsole.constantTimeEqual : List UInt8 → List UInt8 → Bool :=
  constantTimeEqualOver 1024

/-! ### Header -/

/-- The text of a header value, when all of its bytes are visible. -/
def headerText (value : List UInt8) : Option String :=
  if Daemon.Transport.isText value then some (ofAscii value) else none

def authorized (header : Option (List UInt8)) (expected : String) : Bool :=
  let supplied := ((header.bind headerText).bind (stripPrefix "Bearer ")).getD ""
  constantTimeEqual (utf8Bytes supplied) (utf8Bytes expected)

/-! ### Subprotocols -/

def consoleProtocol : String := "kernmux-console-v1"

def bearerProtocolPrefix : String := "kernmux-bearer."

def alphabet : List Char :=
  "ABCDEFGHIJKLMNOPQRSTUVWXYZabcdefghijklmnopqrstuvwxyz0123456789-_".toList

def letter (index : ℕ) : Char := alphabet.getD index 'A'

/-- Letters of up to three bytes. -/
def encodeChunk (chunk : List UInt8) : List Char :=
  let value := (chunk.getD 0 0).toNat <<< 16 ||| (chunk.getD 1 0).toNat <<< 8 |||
    (chunk.getD 2 0).toNat
  [letter (value >>> 18 &&& 0x3f), letter (value >>> 12 &&& 0x3f)] ++
    (if chunk.length > 1 then [letter (value >>> 6 &&& 0x3f)] else []) ++
    (if chunk.length > 2 then [letter (value &&& 0x3f)] else [])

def base64url (input : List UInt8) : String :=
  .ofList ((groupsOfThree input).flatMap encodeChunk)

/-- Counters of one byte stop at the largest one. -/
def countUp (count : UInt8) : UInt8 := if count = 255 then 255 else count + 1

def countProtocol (expected : String) (counts : UInt8 × UInt8) (protocol : String) :
    UInt8 × UInt8 :=
  if protocol = consoleProtocol then (countUp counts.1, counts.2)
  else if (stripPrefix bearerProtocolPrefix protocol).isSome &&
      BrowserConsole.constantTimeEqual (utf8Bytes protocol) (utf8Bytes expected) then
    (counts.1, countUp counts.2)
  else counts

def validSubprotocols (offered bearerToken : String) : Bool :=
  if (utf8Bytes offered).length > 1024 then false
  else
    let expected := bearerProtocolPrefix ++ base64url (utf8Bytes bearerToken)
    let counts := ((splitText ',' offered).map trimText).foldl (countProtocol expected) (0, 0)
    counts.1 == 1 && counts.2 == 1

/-! ### The comparison is exact -/

theorem foldl_or_eq_zero {items : List ℕ} {difference : ℕ → ℕ} {start : ℕ} :
    items.foldl (fun found index => found ||| difference index) start = 0 ↔
      start = 0 ∧ ∀ index ∈ items, difference index = 0 := by
  induction items generalizing start with
  | nil => simp
  | cons item items ih => rw [List.foldl_cons, ih, Nat.or_eq_zero_iff, List.forall_mem_cons, and_assoc]

/-- The lengths are compared as well, so it is enough that one of the two is looked at to its
end. -/
theorem constantTimeEqualOver_iff {limit : ℕ} {left right : List UInt8}
    (h : right.length ≤ limit) : constantTimeEqualOver limit left right = true ↔ left = right := by
  rw [constantTimeEqualOver, beq_iff_eq, foldl_or_eq_zero, Nat.xor_eq_zero_iff]
  constructor
  · intro hequal
    obtain ⟨hlength, hbytes⟩ := hequal
    refine List.ext_getElem hlength fun index hleft hright => ?_
    have hindex := hbytes index (List.mem_range.mpr (by omega))
    rw [← UInt8.toNat_zero, UInt8.toNat_inj, UInt8.xor_eq_zero_iff] at hindex
    simpa [hleft, hright] using hindex
  · intro hequal
    subst hequal
    exact ⟨rfl, fun index _ => by simp⟩

/-! ### Headers -/

section Headers

variable {config : GatewayConfig}

/-- What is known of the credential. -/
theorem GatewayConfig.token_of_validate (h : config.validate = .ok ()) :
    32 ≤ (utf8Bytes config.bearerToken).length ∧ (utf8Bytes config.bearerToken).length ≤ 512 := by
  simp only [validate, guard_eq_ok, rejectIf_eq_ok, not_or] at h
  omega

theorem ascii_of_isText {value : List UInt8} (h : Daemon.Transport.isText value = true) :
    ∀ byte ∈ value, byte < 128 := by
  intro byte hbyte
  have hvisible := List.all_eq_true.mp h byte hbyte
  simp only [Bool.or_eq_true, Bool.and_eq_true, decide_eq_true_eq, beq_iff_eq,
    UInt8.le_iff_toNat_le, ← UInt8.toNat_inj] at hvisible
  rw [UInt8.lt_iff_toNat_lt]
  simp only [UInt8.reduceToNat] at hvisible ⊢
  omega

theorem headerText_eq_some {value : List UInt8} {text : String} : headerText value = some text ↔
      value = utf8Bytes text ∧ Daemon.Transport.isText value = true := by
  rw [headerText]
  constructor
  · intro h
    split at h
    case isTrue hvisible =>
      cases h
      exact ⟨(utf8Bytes_ofAscii (ascii_of_isText hvisible)).symm, hvisible⟩
    case isFalse => cases h
  · rintro ⟨rfl, hvisible⟩
    rw [if_pos hvisible, ofAscii_utf8Bytes (ascii_of_isText hvisible)]

/-- The header is the one word and the credential, and nothing else. -/
theorem authorized_iff (h : config.validate = .ok ()) {header : Option (List UInt8)} :
    authorized header config.bearerToken = true ↔
      ∃ value, header = some value ∧ Daemon.Transport.isText value = true ∧
        value = utf8Bytes ("Bearer " ++ config.bearerToken) := by
  obtain ⟨hlong, hshort⟩ := GatewayConfig.token_of_validate h
  rw [authorized, constantTimeEqual, constantTimeEqualOver_iff hshort, utf8Bytes_injective.eq_iff]
  constructor
  · intro hsupplied
    cases hfound : (header.bind headerText).bind (stripPrefix "Bearer ") with
    | none =>
        -- nothing was supplied, but the credential is not empty
        rw [hfound, Option.getD_none] at hsupplied
        rw [← hsupplied] at hlong
        exact absurd hlong (by decide)
    | some supplied =>
        rw [hfound, Option.getD_some] at hsupplied
        obtain ⟨text, htext, hstrip⟩ := Option.bind_eq_some_iff.mp hfound
        obtain ⟨value, hvalue, htext⟩ := Option.bind_eq_some_iff.mp htext
        obtain ⟨rfl, hvisible⟩ := headerText_eq_some.mp htext
        rw [eq_append_of_stripPrefix hstrip, hsupplied] at hvalue hvisible
        exact ⟨_, hvalue, hvisible, rfl⟩
  · rintro ⟨value, rfl, hvisible, hvalue⟩
    rw [Option.bind_some, headerText_eq_some.mpr ⟨hvalue, hvisible⟩, Option.bind_some,
      stripPrefix_append, Option.getD_some]

end Headers

/-! ### Encoding -/

theorem mem_alphabet_letter {index : ℕ} (h : index < 64) : letter index ∈ alphabet := by
  have hlength : alphabet.length = 64 := by decide
  rw [letter, List.getD_eq_getElem _ _ (by omega)]
  exact List.getElem_mem _

theorem idxOf_letter : ∀ index < 64, alphabet.idxOf (letter index) = index := by decide +kernel

/-- Three bytes in one number. -/
theorem shiftLeft_or_shiftLeft_or {first second third : ℕ} (hsecond : second < 256)
    (hthird : third < 256) :
    first <<< 16 ||| second <<< 8 ||| third = first * 65536 + second * 256 + third := by
  have hhigh : first <<< 16 ||| second <<< 8 = (first * 256 + second) <<< 8 := by
    rw [← Nat.shiftLeft_add_eq_or_of_lt (by rw [Nat.shiftLeft_eq]; omega), Nat.shiftLeft_eq,
      Nat.shiftLeft_eq, Nat.shiftLeft_eq]
    omega
  rw [hhigh, ← Nat.shiftLeft_add_eq_or_of_lt (by omega), Nat.shiftLeft_eq]
  omega

/-- The four digits of such a number. -/
theorem digits_of_three {first second third : ℕ} (hfirst : first < 256) (hsecond : second < 256)
    (hthird : third < 256) :
    let value := first <<< 16 ||| second <<< 8 ||| third
    value >>> 18 &&& 0x3f = first / 4 ∧ value >>> 12 &&& 0x3f = first % 4 * 16 + second / 16 ∧
      value >>> 6 &&& 0x3f = second % 16 * 4 + third / 64 ∧ value &&& 0x3f = third % 64 := by
  have hlast (value : ℕ) : value &&& 0x3f = value % 64 := Nat.and_two_pow_sub_one_eq_mod _ 6
  simp only [shiftLeft_or_shiftLeft_or hsecond hthird, hlast, Nat.shiftRight_eq_div_pow]
  omega

/-- The letters are those of the digits. -/
theorem encodeChunk_eq {chunk : List UInt8} (hne : chunk ≠ []) (hlength : chunk.length ≤ 3) :
    encodeChunk chunk = (sextets chunk).map letter := by
  match chunk with
  | [] => exact absurd rfl hne
  | [first] =>
      obtain ⟨h1, h2, -, -⟩ :=
        digits_of_three first.toNat_lt (UInt8.toNat_lt 0) (UInt8.toNat_lt 0)
      simp only [encodeChunk, List.getD_cons_zero, List.getD_cons_succ, List.getD_nil, h1, h2]
      simp [sextets]
  | [first, second] =>
      obtain ⟨h1, h2, h3, -⟩ :=
        digits_of_three first.toNat_lt second.toNat_lt (UInt8.toNat_lt 0)
      simp only [encodeChunk, List.getD_cons_zero, List.getD_cons_succ, List.getD_nil, h1, h2, h3]
      simp [sextets]
  | [first, second, third] =>
      obtain ⟨h1, h2, h3, h4⟩ := digits_of_three first.toNat_lt second.toNat_lt third.toNat_lt
      simp only [encodeChunk, List.getD_cons_zero, List.getD_cons_succ, h1, h2, h3, h4]
      simp [sextets]
  | _ :: _ :: _ :: _ :: _ =>
      simp only [List.length_cons] at hlength
      omega

theorem base64url_eq (input : List UInt8) :
    base64url input = .ofList ((sextets input).map letter) := by
  rw [base64url]
  congr 1
  refine flatMap_groupsOfThree encodeChunk (fun bytes => (sextets bytes).map letter) rfl ?_ ?_ ?_
    input
  · intro first
    exact (encodeChunk_eq (List.cons_ne_nil _ _) (by simp)).symm
  · intro first second
    exact (encodeChunk_eq (List.cons_ne_nil _ _) (by simp)).symm
  · intro first second third rest
    rw [encodeChunk_eq (List.cons_ne_nil _ _) (by simp)]
    simp [sextets]

theorem mem_base64url {input : List UInt8} {char : Char} (h : char ∈ (base64url input).toList) :
    char ∈ alphabet := by
  rw [base64url_eq, String.toList_ofList] at h
  obtain ⟨digit, hdigit, rfl⟩ := List.mem_map.mp h
  exact mem_alphabet_letter (sextets_lt digit hdigit)

theorem base64url_injective : Function.Injective base64url := by
  intro left right h
  -- the digits are read off the letters
  have hread (bytes : List UInt8) :
      ((sextets bytes).map letter).map (alphabet.idxOf ·) = sextets bytes := by
    rw [List.map_map]
    exact (List.map_congr_left fun digit hdigit =>
      idxOf_letter digit (sextets_lt digit hdigit)).trans (List.map_id _)
  rw [base64url_eq, base64url_eq, String.ofList_inj] at h
  apply sextets_injective
  rw [← hread left, h, hread right]

theorem toNat_char_alphabet {char : Char} (h : char ∈ alphabet) : char.val.toNat ≤ 127 := by
  have hall : alphabet.all (·.val.toNat ≤ 127) = true := by decide
  simpa using List.all_eq_true.mp hall char h

/-- Letters are single bytes. -/
theorem length_base64url (input : List UInt8) :
    (utf8Bytes (base64url input)).length = (4 * input.length + 2) / 3 := by
  rw [utf8Bytes_of_ascii fun char hchar => toNat_char_alphabet (mem_base64url hchar),
    List.length_map, base64url_eq, String.toList_ofList, List.length_map, length_sextets]

/-! ### Subprotocols -/

/-- The subprotocol that carries a credential. -/
def expectedProtocol (bearerToken : String) : String :=
  bearerProtocolPrefix ++ base64url (utf8Bytes bearerToken)

theorem length_expectedProtocol {config : GatewayConfig} (h : config.validate = .ok ()) :
    (utf8Bytes (expectedProtocol config.bearerToken)).length ≤ 698 := by
  have hshort := (GatewayConfig.token_of_validate h).2
  rw [expectedProtocol, utf8Bytes_append, List.length_append, length_base64url]
  have hlength : (utf8Bytes bearerProtocolPrefix).length = 15 := by decide
  omega

theorem toNat_countUp (count : UInt8) : (countUp count).toNat = min (count.toNat + 1) 255 := by
  have := count.toNat_lt
  rw [countUp]
  split
  case isTrue h => simp [h]
  case isFalse h =>
    have hne : count.toNat ≠ 255 := fun heq => h (UInt8.toNat_inj.mp heq)
    rw [UInt8.toNat_add, UInt8.toNat_one]
    omega

theorem expectedProtocol_ne (bearerToken : String) : expectedProtocol bearerToken ≠ consoleProtocol := by
  intro h
  have hstrip : stripPrefix bearerProtocolPrefix consoleProtocol = none := by decide
  rw [← h, expectedProtocol, stripPrefix_append] at hstrip
  cases hstrip

section Protocols

variable {config : GatewayConfig}

/-- One of the two counters is moved by each of the two subprotocols, and by nothing else. -/
theorem toNat_countProtocol (h : config.validate = .ok ()) (counts : UInt8 × UInt8)
    (protocol : String) :
    let found := countProtocol (expectedProtocol config.bearerToken) counts protocol
    found.1.toNat = min (counts.1.toNat + [protocol].count consoleProtocol) 255 ∧ found.2.toNat =
        min (counts.2.toNat + [protocol].count (expectedProtocol config.bearerToken)) 255 := by
  have hlength := length_expectedProtocol h
  have hsmall := counts.1.toNat_lt
  have hsmall' := counts.2.toNat_lt
  have hequal : BrowserConsole.constantTimeEqual (utf8Bytes protocol)
      (utf8Bytes (expectedProtocol config.bearerToken)) = true ↔
        protocol = expectedProtocol config.bearerToken := by
    rw [BrowserConsole.constantTimeEqual, constantTimeEqualOver_iff (by omega),
      utf8Bytes_injective.eq_iff]
  simp only [countProtocol, List.count_singleton, beq_iff_eq]
  by_cases hconsole : protocol = consoleProtocol
  · have hother : consoleProtocol ≠ expectedProtocol config.bearerToken :=
      (expectedProtocol_ne config.bearerToken).symm
    simp only [hconsole, if_true, if_neg hother, toNat_countUp, true_and]
    omega
  · by_cases hbearer : protocol = expectedProtocol config.bearerToken
    · have hstart : (stripPrefix bearerProtocolPrefix protocol).isSome = true := by
        rw [hbearer, expectedProtocol, stripPrefix_append]
        rfl
      rw [if_neg hconsole, hstart, hequal.mpr hbearer]
      simp only [Bool.and_self, if_true, if_neg hconsole, if_pos hbearer, toNat_countUp, and_true]
      omega
    · have hdiffer : BrowserConsole.constantTimeEqual (utf8Bytes protocol)
          (utf8Bytes (expectedProtocol config.bearerToken)) = false := by
        rw [Bool.eq_false_iff]
        exact fun heq => hbearer (hequal.mp heq)
      rw [if_neg hconsole, hdiffer, Bool.and_false]
      simp only [Bool.false_eq_true, if_false, if_neg hconsole, if_neg hbearer]
      omega

/-- The counters count the two subprotocols, up to the largest number they hold. -/
theorem toNat_foldl_countProtocol (h : config.validate = .ok ()) (protocols : List String)
    (counts : UInt8 × UInt8) :
    let found := protocols.foldl (countProtocol (expectedProtocol config.bearerToken)) counts
    found.1.toNat = min (counts.1.toNat + protocols.count consoleProtocol) 255 ∧ found.2.toNat =
        min (counts.2.toNat + protocols.count (expectedProtocol config.bearerToken)) 255 := by
  induction protocols generalizing counts with
  | nil =>
      have := counts.1.toNat_lt
      have := counts.2.toNat_lt
      simp only [List.foldl_nil, List.count_nil]
      omega
  | cons protocol protocols ih =>
      have hstep := toNat_countProtocol h counts protocol
      have hrest := ih (countProtocol (expectedProtocol config.bearerToken) counts protocol)
      have hcount (text : String) :
          (protocol :: protocols).count text = [protocol].count text + protocols.count text := by
        rw [← List.count_append, List.singleton_append]
      simp only [List.foldl_cons, hcount] at hstep hrest ⊢
      omega

/-- Each of the two subprotocols is offered once. -/
theorem validSubprotocols_iff (h : config.validate = .ok ()) {offered : String}
    (hlength : (utf8Bytes offered).length ≤ 1024) :
    validSubprotocols offered config.bearerToken = true ↔
      ((splitText ',' offered).map trimText).count consoleProtocol = 1 ∧
      ((splitText ',' offered).map trimText).count (expectedProtocol config.bearerToken) = 1 := by
  have hcounts := toNat_foldl_countProtocol h ((splitText ',' offered).map trimText) (0, 0)
  rw [validSubprotocols, if_neg (by omega)]
  simp only [Bool.and_eq_true, beq_iff_eq, ← UInt8.toNat_inj, UInt8.toNat_one, UInt8.toNat_zero]
    at hcounts ⊢
  rw [← expectedProtocol, hcounts.1, hcounts.2]
  omega

end Protocols

end Kernmux.Gateway
