import Kernmux.Gateway.Authentication

/-!
# Kernmux.Web.BearerProtocol

**What the browser offers is what the gateway expects.** The browser encodes the
credential with `btoa`, replaces the two letters that the name of a subprotocol
may not have and drops the padding. The gateway has its own encoder. The two
agree (`bearerSubprotocol_eq`), so a console opens with the credential of the
gateway and with no other one.
-/

namespace Kernmux.Web

open Gateway Library

/-! ### The browser -/

def standardAlphabet : List Char :=
  "ABCDEFGHIJKLMNOPQRSTUVWXYZabcdefghijklmnopqrstuvwxyz0123456789+/".toList

/-- Standard base64, with padding. -/
def btoa (bytes : List UInt8) : List Char :=
  (sextets bytes).map (standardAlphabet.getD · 'A') ++
    List.replicate ((3 - bytes.length % 3) % 3) '='

def replaceAll (char replacement : Char) (text : List Char) : List Char :=
  text.map fun other => if other = char then replacement else other

def bearerSubprotocol (token : String) : String :=
  let encoded := replaceAll '/' '_' (replaceAll '+' '-' (btoa (utf8Bytes token)))
  "kernmux-bearer." ++ .ofList (encoded.reverse.dropWhile (· = '=')).reverse

/-- The subprotocols of a console, as a browser joins them in one header. -/
def offeredProtocols (token : String) : String :=
  consoleProtocol ++ ", " ++ bearerSubprotocol token

/-! ### The same encoding -/

/-- Padding goes, and nothing else. -/
theorem dropWhile_padding {letters : List Char} (h : ∀ char ∈ letters, char ≠ '=') (count : ℕ) :
    ((letters ++ List.replicate count '=').reverse.dropWhile (· = '=')).reverse = letters := by
  have hpadding : ∀ char ∈ List.replicate count '=', decide (char = '=') = true := by
    intro char hchar
    simpa using List.eq_of_mem_replicate hchar
  have hletters : letters.reverse.dropWhile (· = '=') = letters.reverse := by
    rw [List.dropWhile_eq_self_iff]
    intro hlength
    have hhead := List.mem_reverse.mp (List.getElem_mem hlength)
    simpa using h _ hhead
  rw [List.reverse_append, List.reverse_replicate, List.dropWhile_append_of_pos hpadding, hletters,
    List.reverse_reverse]

theorem bearerSubprotocol_eq (token : String) : bearerSubprotocol token = expectedProtocol token := by
  have hletter : ∀ digit < 64, (if (if standardAlphabet.getD digit 'A' = '+' then '-'
          else standardAlphabet.getD digit 'A') = '/' then '_'
        else if standardAlphabet.getD digit 'A' = '+' then '-'
        else standardAlphabet.getD digit 'A') = letter digit ∧ letter digit ≠ '=' := by
    decide +kernel
  have hencoded : replaceAll '/' '_' (replaceAll '+' '-' (btoa (utf8Bytes token))) =
      (sextets (utf8Bytes token)).map letter ++
        List.replicate ((3 - (utf8Bytes token).length % 3) % 3) '=' := by
    rw [btoa, replaceAll, replaceAll, List.map_append, List.map_append, List.map_map, List.map_map,
      List.map_replicate, List.map_replicate]
    congr 1
    exact List.map_congr_left fun digit hdigit => (hletter digit (sextets_lt digit hdigit)).1
  have hletters : ∀ char ∈ (sextets (utf8Bytes token)).map letter, char ≠ '=' := by
    intro char hchar
    obtain ⟨digit, hdigit, rfl⟩ := List.mem_map.mp hchar
    exact (hletter digit (sextets_lt digit hdigit)).2
  rw [bearerSubprotocol, hencoded, dropWhile_padding hletters, expectedProtocol, base64url_eq]
  rfl

/-! ### What is offered -/

theorem expectedProtocol_injective : Function.Injective expectedProtocol := by
  intro token other h
  rw [expectedProtocol, expectedProtocol, String.append_right_inj] at h
  exact utf8Bytes_injective (base64url_injective h)

/-- Neither separators nor blanks. -/
theorem mem_expectedProtocol {token : String} {char : Char}
    (h : char ∈ (expectedProtocol token).toList) : char ≠ ',' ∧ isWhitespace char = false := by
  have hall : (bearerProtocolPrefix.toList ++ alphabet).all
      (fun char => char ≠ ',' && !isWhitespace char) = true := by decide
  have hmem : char ∈ bearerProtocolPrefix.toList ++ alphabet := by
    rw [expectedProtocol, String.toList_append, List.mem_append] at h
    exact List.mem_append.mpr (h.imp_right mem_base64url)
  simpa using List.all_eq_true.mp hall char hmem

theorem items_offeredProtocols (token : String) :
    (splitText ',' (offeredProtocols token)).map trimText =
      [consoleProtocol, expectedProtocol token] := by
  have hrest : (", " ++ expectedProtocol token).toList =
      ',' :: (" " ++ expectedProtocol token).toList := by simp
  have hcomma : ',' ∉ (" " ++ expectedProtocol token).toList := by
    rw [String.toList_append, List.mem_append, not_or]
    exact ⟨by decide, fun hcomma => (mem_expectedProtocol hcomma).1 rfl⟩
  have hblank : trimText (" " ++ expectedProtocol token) = expectedProtocol token := by
    have hsame : trimText (" " ++ expectedProtocol token) = trimText (expectedProtocol token) := by
      rw [trimText, String.toList_append]
      rfl
    rw [hsame, trimText_eq_self fun char hchar => (mem_expectedProtocol hchar).2]
  rw [offeredProtocols, bearerSubprotocol_eq, String.append_assoc, splitText_append (by decide) hrest,
    String.ofList_toList, splitText_of_not_mem hcomma, List.map_cons, List.map_cons, List.map_nil,
    hblank]
  rfl

section Offered

variable {config other : GatewayConfig}

theorem length_offeredProtocols (h : config.validate = .ok ()) :
    (utf8Bytes (offeredProtocols config.bearerToken)).length ≤ 1024 := by
  have hlength := length_expectedProtocol h
  have hstart : (utf8Bytes (consoleProtocol ++ ", ")).length = 20 := by decide
  rw [offeredProtocols, bearerSubprotocol_eq, utf8Bytes_append, List.length_append]
  omega

/-- The gateway accepts what is offered for its own credential only. -/
theorem validSubprotocols_offeredProtocols (h : config.validate = .ok ())
    (hother : other.validate = .ok ()) :
    validSubprotocols (offeredProtocols config.bearerToken) other.bearerToken = true ↔
      config.bearerToken = other.bearerToken := by
  have hne := expectedProtocol_ne config.bearerToken
  have hne' := (expectedProtocol_ne other.bearerToken).symm
  rw [validSubprotocols_iff hother (length_offeredProtocols h), items_offeredProtocols,
    ← expectedProtocol_injective.eq_iff]
  simp only [List.count_cons, List.count_nil, beq_iff_eq, if_neg hne, if_neg hne']
  by_cases hsame : expectedProtocol config.bearerToken = expectedProtocol other.bearerToken
  · simp [hsame]
  · simp [hsame]

end Offered

/-- Every printable byte is visible. -/
theorem isText_of_printable {header : List UInt8} (h : ∀ byte ∈ header, 32 ≤ byte ∧ byte ≤ 126) :
    Daemon.Transport.isText header = true := by
  refine List.all_eq_true.mpr fun byte hbyte => ?_
  simp [h byte hbyte]

/-- Authentication is exact on both channels. -/
theorem bearerAuthentication_exact : (∀ config : GatewayConfig, config.validate = .ok () →
      (∀ header : List UInt8, (∀ byte ∈ header, 32 ≤ byte ∧ byte ≤ 126) →
        (authorized (some header) config.bearerToken = true ↔
          header = utf8Bytes ("Bearer " ++ config.bearerToken))) ∧
      ∀ offered : String, (utf8Bytes offered).length ≤ 1024 →
        (validSubprotocols offered config.bearerToken = true ↔
          ((splitText ',' offered).map trimText).count "kernmux-console-v1" = 1 ∧
          ((splitText ',' offered).map trimText).count
            ("kernmux-bearer." ++ base64url (utf8Bytes config.bearerToken)) = 1)) ∧
    Function.Injective base64url ∧
    (∀ input, ∀ char ∈ (base64url input).toList, char ∈ alphabet) ∧
    ∀ config other : GatewayConfig, config.validate = .ok () → other.validate = .ok () →
      (validSubprotocols (offeredProtocols config.bearerToken) other.bearerToken = true ↔
        config.bearerToken = other.bearerToken) := by
  refine ⟨?_, base64url_injective, fun _ _ => mem_base64url, ?_⟩
  · intro config hconfig
    refine ⟨?_, fun offered hlength => validSubprotocols_iff hconfig hlength⟩
    intro header hprintable
    rw [authorized_iff hconfig]
    constructor
    · intro hheader
      obtain ⟨value, hvalue, -, rfl⟩ := hheader
      exact Option.some.inj hvalue
    · intro hheader
      exact ⟨header, rfl, isText_of_printable hprintable, hheader⟩
  · intro config other hconfig hother
    exact validSubprotocols_offeredProtocols hconfig hother

/-- A credential of the shortest length. -/
theorem bearerAuthentication_exact_shortest : localGateway.validate = .ok () ∧
    authorized (some (utf8Bytes "Bearer 0123456789abcdef0123456789abcdef"))
      localGateway.bearerToken = true ∧
    validSubprotocols (offeredProtocols localGateway.bearerToken)
      localGateway.bearerToken = true := by
  have hvalid : localGateway.validate = .ok () := by decide +kernel
  have hheader := ((bearerAuthentication_exact.1 localGateway hvalid).1
    (utf8Bytes "Bearer 0123456789abcdef0123456789abcdef") (by decide +kernel)).mpr (by decide +kernel)
  have hoffered := (bearerAuthentication_exact.2.2.2 localGateway localGateway hvalid hvalid).mpr rfl
  exact ⟨hvalid, hheader, hoffered⟩

end Kernmux.Web
