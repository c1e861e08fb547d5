/-
This file proves what the framing of messages is worth. An envelope that fits is read back from
its datagram whatever bytes follow; an envelope has no datagram only if it does not fit. The
header is determined by the body: under any other eight bytes the same body is refused, even if
they announce less of it, because no proper beginning of a written envelope is a document. And
a datagram that was cut anywhere is seen to be cut.
-/

import ServiceDiscovery.Proofs.Envelope
import ServiceDiscovery.Proofs.JsonPrefix
import ServiceDiscovery.Wire.Frame

namespace ServiceDiscovery.Wire

/-! ### Headers -/

theorem kindOfCode_kindCode (kind : Kind) : kindOfCode? (kindCode kind) = some kind := by
  cases kind <;> rfl

theorem kindCode_of_kindOfCode {code : UInt8} {kind : Kind} (known : kindOfCode? code = some kind) :
    code = kindCode kind := by
  unfold kindOfCode? at known
  split at known
  · rename_i request
    cases known
    exact request
  · split at known
    · rename_i reply
      cases known
      exact reply
    · cases known

theorem length_header (kind : Kind) (length : Nat) : (header kind length).length = 8 := rfl

/-- The length that the header of a datagram announces: two bytes, the low one first. -/
def announcedLength? : Bytes → Option Nat
  | _ :: _ :: _ :: _ :: _ :: _ :: low :: high :: _ => some (low.toNat + 256 * high.toNat)
  | _ => none

/-- Two bytes hold the length of every body that fits. -/
theorem length_of_bytes {length : Nat} (small : length < 65536) :
    (UInt8.ofNat length).toNat + 256 * (UInt8.ofNat (length / 256)).toNat = length := by
  rw [UInt8.toNat_ofNat', UInt8.toNat_ofNat']
  omega

theorem bytes_of_length {low high : UInt8} {length : Nat}
    (same : low.toNat + 256 * high.toNat = length) :
    low = UInt8.ofNat length ∧ high = UInt8.ofNat (length / 256) := by
  have lowRange := low.toNat_lt
  have highRange := high.toNat_lt
  constructor
  · refine UInt8.toNat_inj.mp ?_
    rw [UInt8.toNat_ofNat']
    omega
  · refine UInt8.toNat_inj.mp ?_
    rw [UInt8.toNat_ofNat']
    omega

theorem announcedLength_header (kind : Kind) {length : Nat} (small : length < 65536)
    (rest : Bytes) : announcedLength? (header kind length ++ rest) = some length := by
  show some _ = _
  rw [length_of_bytes small]

/-! ### The length of a body -/

theorem renderChar_digitChar {value : Nat} (small : value < 16) :
    Json.renderChar (Hex.digitChar value) = [Hex.digitChar value] := by
  have each : ∀ digit : Fin 16,
      Json.renderChar (Hex.digitChar digit) = [Hex.digitChar digit] := by decide
  exact each ⟨value, small⟩

/-- Digits need no escapes. -/
theorem flatMap_renderChar (bytes : Bytes) :
    (Hex.encodeChars bytes).flatMap Json.renderChar = Hex.encodeChars bytes := by
  induction bytes with
  | nil => rfl
  | cons byte rest inductionHypothesis =>
    have range := byte.toNat_lt
    have step : Hex.encodeChars (byte :: rest) = Hex.encodeByte byte ++ Hex.encodeChars rest := rfl
    rw [step, List.flatMap_append, inductionHypothesis, Hex.encodeByte, List.flatMap_cons,
      List.flatMap_cons, List.flatMap_nil, renderChar_digitChar (by omega),
      renderChar_digitChar (by omega)]
    rfl

theorem length_toBytes_topic (topic : Topic) : topic.toJson.toBytes.length = 66 := by
  have written := Json.encodeChars_renderText topic.display []
  rw [List.append_nil, Bytes32.display, Hex.encode, String.toList_ofList, flatMap_renderChar]
    at written
  show (Utf8.encodeChars (Json.renderText topic.display)).length = 66
  rw [Bytes32.display, Hex.encode, written]
  simp only [List.length_cons, List.length_append, Hex.length_digits, topic.length_bytes,
    List.length_nil]

/-- Whether a message fits does not depend on the hash of the service's name. -/
theorem length_body_topic (envelope : Envelope) (topic : Topic) :
    (body { envelope with topic := topic }).length = (body envelope).length := by
  have own := length_toBytes_topic envelope.topic
  have other := length_toBytes_topic topic
  have cons : ∀ char text, Utf8.encodeChars (char :: text) =
      Utf8.encodeChar char ++ Utf8.encodeChars text := fun _ _ => rfl
  unfold Json.toBytes at own other
  simp only [body, Json.toBytes, Envelope.toJson, Json.ofFields, List.map_cons, List.map_nil,
    Json.render, Json.renderMembers, Json.encodeChars_append, cons, List.length_append, own, other]

/-! ### What encoding does -/

theorem encode_eq_ok_iff (envelope : Envelope) (datagram : Bytes) :
    encode envelope = .ok datagram ↔ 8 + (body envelope).length ≤ 1200 ∧
      datagram = header envelope.content.kind (body envelope).length ++ body envelope := by
  unfold encode maxDatagram headerLength
  split
  · rename_i large
    constructor
    · intro impossible
      cases impossible
    · intro fits
      omega
  · rename_i fits
    constructor
    · intro same
      cases same
      exact ⟨Nat.not_lt.mp fits, rfl⟩
    · rintro ⟨_, rfl⟩
      rfl

theorem length_of_encode {envelope : Envelope} {datagram : Bytes}
    (encoded : encode envelope = .ok datagram) : datagram.length ≤ 1200 := by
  obtain ⟨fits, rfl⟩ := (encode_eq_ok_iff envelope datagram).mp encoded
  rw [List.length_append]
  exact fits

theorem encode_eq_error_iff (envelope : Envelope) (error : WireError) :
    encode envelope = .error error ↔ 1200 < 8 + (body envelope).length ∧
      error = .tooLarge (8 + (body envelope).length) := by
  unfold encode maxDatagram headerLength
  split
  · rename_i large
    constructor
    · intro same
      cases same
      exact ⟨large, rfl⟩
    · rintro ⟨_, rfl⟩
      rfl
  · rename_i fits
    constructor
    · intro impossible
      cases impossible
    · intro large
      omega

/-! ### What decoding does -/

theorem decode_short {bytes : Bytes} (short : bytes.length < 8) :
    decode bytes = .error (.truncated 8 bytes.length) := by
  unfold decode
  split
  · simp only [List.length_cons] at short
    omega
  · rfl

theorem decode_header (kind : Kind) {length : Nat} (small : length < 65536) (rest : Bytes) :
    decode (header kind length ++ rest) =
      if rest.length < length then .error (.truncated length rest.length)
      else decodeBody kind (rest.take length) := by
  show (if magic = magic then decodeFramed formatVersion (kindCode kind)
    ((UInt8.ofNat length).toNat + 256 * (UInt8.ofNat (length / 256)).toNat) rest
    else .error (.badMagic magic)) = _
  rw [if_pos rfl, length_of_bytes small, decodeFramed, if_pos rfl, kindOfCode_kindCode]

theorem decodeBody_body (kind : Kind) (envelope : Envelope) :
    decodeBody kind (body envelope) =
      if envelope.content.kind = kind then .ok envelope
      else .error (.kindMismatch kind envelope.content.kind) := by
  rw [decodeBody, body, Json.ofBytes_toBytes envelope.isSimple_toJson]
  simp only [Json.Document.decode, envelope.ofJson_toJson, bind, Except.bind, if_true]

theorem decodeBody_beginning (kind : Kind) {envelope : Envelope} {bytes more : Bytes}
    (written : bytes ++ more = body envelope) (proper : more ≠ []) :
    decodeBody kind bytes = .error .invalidEnvelope := by
  obtain ⟨fault, cut⟩ := Json.decode_ofBytes_beginning envelope.isSimple_toJson written proper
    Envelope.ofJson
  rw [decodeBody, cut]

/-- An envelope is read back from its datagram, whatever follows it. -/
theorem decode_append_of_encode {envelope : Envelope} {datagram : Bytes}
    (encoded : encode envelope = .ok datagram) (more : Bytes) :
    decode (datagram ++ more) = .ok envelope := by
  obtain ⟨fits, rfl⟩ := (encode_eq_ok_iff envelope datagram).mp encoded
  rw [List.append_assoc, decode_header _ (by omega), List.length_append, if_neg (by omega),
    List.take_left, decodeBody_body, if_pos rfl]

theorem decode_of_encode {envelope : Envelope} {datagram : Bytes}
    (encoded : encode envelope = .ok datagram) : decode datagram = .ok envelope := by
  have read := decode_append_of_encode encoded []
  rwa [List.append_nil] at read

/-- The round trip. The datagram of an envelope is no longer than 1200 bytes, announces the
length of exactly its body, and is read back as the envelope even if more bytes follow. The
only envelopes without a datagram are those whose header and body exceed 1200 bytes. Every
constraint is one that its text is read as (`Constraint.parse_display`), so no value of the
type is left out of what a reader can produce. -/
theorem encode_roundTrip (envelope : Envelope) (more : Bytes) :
    (∀ datagram, encode envelope = .ok datagram →
      datagram.length ≤ 1200 ∧ datagram.drop 8 = body envelope ∧
        announcedLength? datagram = some (body envelope).length ∧
        decode (datagram ++ more) = .ok envelope) ∧
    ((∃ error, encode envelope = .error error) ↔ 1200 < 8 + (body envelope).length) ∧
    (∀ error, encode envelope = .error error →
      error = .tooLarge (8 + (body envelope).length)) := by
  refine ⟨fun datagram encoded => ?_, ⟨?_, ?_⟩, fun error failed => ?_⟩
  · have short := length_of_encode encoded
    have read := decode_append_of_encode encoded more
    obtain ⟨fits, rfl⟩ := (encode_eq_ok_iff envelope datagram).mp encoded
    exact ⟨short, List.drop_left' (length_header _ _), announcedLength_header _ (by omega) _, read⟩
  · rintro ⟨error, failed⟩
    exact ((encode_eq_error_iff envelope error).mp failed).1
  · intro large
    exact ⟨_, (encode_eq_error_iff envelope _).mpr ⟨large, rfl⟩⟩
  · exact ((encode_eq_error_iff envelope error).mp failed).2

/-- A question from an agent whose name is made of what could end a document early. -/
def bracedQuestion : Envelope :=
  ⟨"\x7d\"\\", Bytes32.filled 0, Bytes32.filled 0xFF, .request ⟨"\x00é", .any, true⟩⟩

theorem encode_bracedQuestion : encode bracedQuestion =
    .ok (header .request (body bracedQuestion).length ++ body bracedQuestion) :=
  (encode_eq_ok_iff bracedQuestion _).mpr ⟨by decide +kernel, rfl⟩

/-- The same question from an agent whose name gets too long by its escapes. -/
def endlessQuestion : Envelope :=
  { bracedQuestion with sender := String.ofList (List.replicate 170 '\x00') }

/-- One question is read back, though another header follows it; the other one is too large. -/
theorem encode_roundTrip_braced :
    (∃ datagram, encode bracedQuestion = .ok datagram ∧ datagram.length ≤ 1200 ∧
      decode (datagram ++ header .reply 0) = .ok bracedQuestion) ∧
    ∃ error, encode endlessQuestion = .error error ∧
      error = .tooLarge (8 + (body endlessQuestion).length) := by
  obtain ⟨short, _, _, read⟩ :=
    (encode_roundTrip bracedQuestion (header .reply 0)).1 _ encode_bracedQuestion
  obtain ⟨_, refused, tooLarge⟩ := encode_roundTrip endlessQuestion []
  obtain ⟨error, failed⟩ := refused.mpr (by decide +kernel)
  exact ⟨⟨_, encode_bracedQuestion, short, read⟩, error, failed, tooLarge error failed⟩

/-! ### Other headers, and cut datagrams -/

/-- A body is refused behind eight bytes that are not its header. The checks of the header turn
away all of them but those that only announce another length or the other kind: a longer length
is truncated, a shorter one leaves no document, and with the right one the kinds differ. -/
theorem decode_otherHeader {envelope : Envelope} {header' : Bytes} (eight : header'.length = 8)
    (other : header' ≠ header envelope.content.kind (body envelope).length) :
    ∃ error, decode (header' ++ body envelope) = .error error := by
  obtain ⟨first, second, third, fourth, version, code, low, high, rfl⟩ :
      ∃ first second third fourth version code low high,
        header' = [first, second, third, fourth, version, code, low, high] := by
    match header', eight with
    | [first, second, third, fourth, version, code, low, high], _ =>
      exact ⟨first, second, third, fourth, version, code, low, high, rfl⟩
  simp only [List.cons_append, List.nil_append, decode]
  by_cases marked : [first, second, third, fourth] = magic
  · rw [if_pos marked, decodeFramed]
    by_cases current : version = formatVersion
    · rw [if_pos current]
      cases known : kindOfCode? code with
      | none => exact ⟨_, rfl⟩
      | some kind =>
        simp only
        by_cases longer : (body envelope).length < low.toNat + 256 * high.toNat
        · rw [if_pos longer]
          exact ⟨_, rfl⟩
        · rw [if_neg longer]
          by_cases shorter : low.toNat + 256 * high.toNat < (body envelope).length
          · have rest : (body envelope).drop (low.toNat + 256 * high.toNat) ≠ [] := by
              intro empty
              have length := congrArg List.length empty
              rw [List.length_drop, List.length_nil] at length
              omega
            exact ⟨_, decodeBody_beginning kind (List.take_append_drop _ _) rest⟩
          · have same : low.toNat + 256 * high.toNat = (body envelope).length := by omega
            rw [same, List.take_length, decodeBody_body]
            by_cases agreed : envelope.content.kind = kind
            · obtain ⟨rfl, rfl⟩ := bytes_of_length same
              simp only [List.cons.injEq, magic, and_true] at marked
              obtain ⟨rfl, rfl, rfl, rfl⟩ := marked
              rw [current, kindCode_of_kindOfCode known, ← agreed] at other
              exact absurd rfl other
            · rw [if_neg agreed]
              exact ⟨_, rfl⟩
    · rw [if_neg current]
      exact ⟨_, rfl⟩
  · rw [if_neg marked]
    exact ⟨_, rfl⟩

/-- A proper beginning of a datagram is truncated, in the header or in the body. -/
theorem decode_beginning {envelope : Envelope} {beginning more : Bytes}
    (encoded : encode envelope = .ok (beginning ++ more)) (proper : more ≠ []) :
    ∃ expected actual, decode beginning = .error (.truncated expected actual) := by
  by_cases short : beginning.length < 8
  · exact ⟨_, _, decode_short short⟩
  · obtain ⟨fits, datagram⟩ := (encode_eq_ok_iff envelope _).mp encoded
    have positive := List.length_pos_iff.mpr proper
    have head : beginning.take 8 = header envelope.content.kind (body envelope).length := by
      have cut := congrArg (List.take 8) datagram
      rwa [List.take_append_of_le_length (by omega), List.take_left' (length_header _ _)] at cut
    have length := congrArg List.length datagram
    rw [List.length_append, List.length_append, length_header] at length
    rw [← List.take_append_drop 8 beginning, head, decode_header _ (by omega), if_pos]
    · exact ⟨_, _, rfl⟩
    · rw [List.length_drop]
      omega

/-- The header is determined by the body, and every cut is seen: of a datagram, the body is
refused behind any other eight bytes, and each proper beginning is truncated. -/
theorem encode_tamperEvident {envelope : Envelope} {datagram : Bytes}
    (encoded : encode envelope = .ok datagram) :
    (∃ header body, datagram = header ++ body ∧ header.length = 8 ∧
      ∀ header', header'.length = 8 → header' ≠ header →
        ∃ error, decode (header' ++ body) = .error error) ∧
    ∀ beginning, beginning <+: datagram → beginning ≠ datagram →
      ∃ expected actual, decode beginning = .error (.truncated expected actual) := by
  constructor
  · have written := ((encode_eq_ok_iff envelope datagram).mp encoded).2
    exact ⟨_, _, written, length_header _ _, fun header' eight other =>
      decode_otherHeader eight other⟩
  · rintro beginning ⟨more, rfl⟩ other
    refine decode_beginning encoded ?_
    rintro rfl
    exact other (List.append_nil beginning).symm

theorem encode_tamperEvident_braced :
    ∃ datagram, encode bracedQuestion = .ok datagram ∧
      (∃ header body, datagram = header ++ body ∧ header.length = 8 ∧
        ∀ header', header'.length = 8 → header' ≠ header →
          ∃ error, decode (header' ++ body) = .error error) ∧
      ∀ beginning, beginning <+: datagram → beginning ≠ datagram →
        ∃ expected actual, decode beginning = .error (.truncated expected actual) :=
  ⟨_, encode_bracedQuestion, encode_tamperEvident encode_bracedQuestion⟩

end ServiceDiscovery.Wire
