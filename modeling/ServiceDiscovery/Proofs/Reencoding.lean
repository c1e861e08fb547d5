/-
This file proves that whatever is accepted can be sent on. A datagram is accepted with all kinds
of texts: digits in upper case, versions with signs, zeros and white space, constraints that are
short, any escapes and white space, members in any order and beside unknown ones, arrays in
place of objects, and more bytes at the end. The envelope in it is written in one way only, and
read back from that, if it fits into a datagram at all.
-/

import Mathlib.Control.Monad.Basic
import ServiceDiscovery.Proofs.Frame

namespace ServiceDiscovery

namespace Wire

/-! ### Which datagrams are accepted -/

theorem kindOfCode_eq_some_iff {code : UInt8} {kind : Kind} :
    kindOfCode? code = some kind ↔ code = kindCode kind :=
  ⟨kindCode_of_kindOfCode, fun own => own ▸ kindOfCode_kindCode kind⟩

theorem decodeBody_eq_ok_iff {kind : Kind} {bytes : Bytes} {envelope : Envelope} :
    decodeBody kind bytes = .ok envelope ↔
      (Json.ofBytes bytes).decode Envelope.ofJson = .ok envelope ∧
        envelope.content.kind = kind := by
  unfold decodeBody
  cases (Json.ofBytes bytes).decode Envelope.ofJson with
  | error fault => exact iff_of_false nofun nofun
  | ok other =>
    by_cases agreed : other.content.kind = kind
    · simp only [if_pos agreed, Except.ok.injEq]
      exact ⟨fun same => ⟨same, same ▸ agreed⟩, And.left⟩
    · simp only [if_neg agreed, Except.ok.injEq]
      exact iff_of_false nofun fun both => agreed (both.1 ▸ both.2)

theorem decodeFramed_eq_ok_iff {version code : UInt8} {length : Nat} {rest : Bytes}
    {envelope : Envelope} :
    decodeFramed version code length rest = .ok envelope ↔
      version = formatVersion ∧ code = kindCode envelope.content.kind ∧ length ≤ rest.length ∧
        (Json.ofBytes (rest.take length)).decode Envelope.ofJson = .ok envelope := by
  unfold decodeFramed
  by_cases current : version = formatVersion
  · rw [if_pos current, and_iff_right current]
    cases known : kindOfCode? code with
    | none =>
      refine iff_of_false nofun fun other => ?_
      rw [other.1, kindOfCode_kindCode] at known
      cases known
    | some kind =>
      have own : envelope.content.kind = kind ↔ code = kindCode envelope.content.kind := by
        rw [← kindOfCode_eq_some_iff, known, Option.some.injEq, eq_comm]
      simp only
      by_cases cut : rest.length < length
      · rw [if_pos cut]
        exact iff_of_false nofun fun other => Nat.not_le.mpr cut other.2.1
      · rw [if_neg cut, decodeBody_eq_ok_iff, and_iff_right (Nat.not_lt.mp cut), own, and_comm]
  · rw [if_neg current]
    exact iff_of_false nofun fun other => current other.1

/-- A datagram is accepted if and only if it starts with a header for a kind of message, has as
many more bytes as the header announces, and these are the text of an envelope of that kind. -/
theorem decode_eq_ok_iff {datagram : Bytes} {envelope : Envelope} :
    decode datagram = .ok envelope ↔
      ∃ low high rest,
        datagram =
          magic ++ [formatVersion, kindCode envelope.content.kind, low, high] ++ rest ∧
        low.toNat + 256 * high.toNat ≤ rest.length ∧
        (Json.ofBytes (rest.take (low.toNat + 256 * high.toNat))).decode Envelope.ofJson =
          .ok envelope := by
  constructor
  · intro decoded
    unfold decode at decoded
    split at decoded
    · rename_i first second third fourth version code low high rest
      split at decoded
      · rename_i marked
        obtain ⟨rfl, rfl, enough, read⟩ := decodeFramed_eq_ok_iff.mp decoded
        exact ⟨low, high, rest, by rw [← marked]; rfl, enough, read⟩
      · cases decoded
    · cases decoded
  · rintro ⟨low, high, rest, rfl, enough, read⟩
    show (if magic = magic then _ else .error (.badMagic magic)) = _
    rw [if_pos rfl]
    exact decodeFramed_eq_ok_iff.mpr ⟨rfl, rfl, enough, read⟩

theorem decode_append {datagram : Bytes} {envelope : Envelope}
    (decoded : decode datagram = .ok envelope) (more : Bytes) :
    decode (datagram ++ more) = .ok envelope := by
  obtain ⟨low, high, rest, rfl, enough, read⟩ := decode_eq_ok_iff.mp decoded
  refine decode_eq_ok_iff.mpr ⟨low, high, rest ++ more, List.append_assoc .., ?_, ?_⟩
  · exact Nat.le_trans enough (by rw [List.length_append]; exact Nat.le_add_right _ _)
  · rwa [List.take_append_of_le_length enough]

/-- The first six bytes of a datagram say that it is one, and of which kind. -/
theorem take_of_decode {datagram : Bytes} {envelope : Envelope}
    (decoded : decode datagram = .ok envelope) :
    datagram.take 6 = magic ++ [formatVersion, kindCode envelope.content.kind] := by
  obtain ⟨low, high, rest, rfl, _⟩ := decode_eq_ok_iff.mp decoded
  rfl

/-! ### Accepted datagrams, written again -/

/-- Whatever is accepted can be sent on. The envelope of an accepted datagram is either too large
to be sent, or it has a datagram of its own, of at most 1200 bytes and with the same mark,
version and kind, from which the same envelope is read. What follows the accepted datagram makes
no difference. -/
theorem decode_reencodes {datagram : Bytes} {envelope : Envelope}
    (decoded : decode datagram = .ok envelope) :
    ((1200 < 8 + (body envelope).length ∧
        encode envelope = .error (.tooLarge (8 + (body envelope).length))) ∨
      ∃ canonical, encode envelope = .ok canonical ∧ decode canonical = .ok envelope ∧
        canonical.length ≤ 1200 ∧ canonical.take 6 = datagram.take 6) ∧
    ∀ more, decode (datagram ++ more) = .ok envelope := by
  refine ⟨?_, decode_append decoded⟩
  by_cases large : 1200 < 8 + (body envelope).length
  · exact Or.inl ⟨large, (encode_eq_error_iff envelope _).mpr ⟨large, rfl⟩⟩
  · have encoded := (encode_eq_ok_iff envelope _).mpr ⟨Nat.not_lt.mp large, rfl⟩
    have read := decode_of_encode encoded
    exact Or.inr ⟨_, encoded, read, length_of_encode encoded,
      (take_of_decode read).trans (take_of_decode decoded).symm⟩

/-- An answer in arrays and with its type behind its data, with escapes, digits in upper case, a
padded version, a member that no answer has, and two bytes too many. -/
def untidyAnswer : Bytes :=
  let text := Utf8.encode " [\"\\u0073econd\\/\", \"" ++ List.replicate 64 0x41 ++
    Utf8.encode "\",\t\"" ++ List.replicate 64 0x30 ++
    Utf8.encode "\",\n \x7b\"data\": \x7b\"version\": \" +1.02 \", " ++
    Utf8.encode "\"extra\": [null, -1.5e3, \x7b\x7d], " ++
    Utf8.encode "\"service_name\": \"greeting\"\x7d, " ++
    Utf8.encode "\"type\": \"discovery_reply\"\x7d ] "
  header .reply text.length ++ text ++ [0x00, 0x7D]

/-- A question with its members in another order, and its content in arrays; the constraint is
short and padded. -/
def untidyQuestion : Bytes :=
  let text := Utf8.encode "\x7b\"hops\":3,\"content\": [\"discovery_request\"," ++
    Utf8.encode "[\"greet\\u0069ng\", \" = +01\\t\", false]]," ++
    Utf8.encode "\"topic\":\"" ++ List.replicate 64 0x42 ++
    Utf8.encode "\",\"sending_node\":\"" ++ List.replicate 64 0x63 ++
    Utf8.encode "\",\r\n\"sender\":\"\\ud83d\\ude00\"\x7d"
  header .request text.length ++ text

/-- What the untidy answer and the untidy question say. -/
def tidyAnswer : Envelope :=
  ⟨"second/", Bytes32.filled 0xAA, Bytes32.filled 0, .reply ⟨"greeting", ⟨1, 2, 0⟩⟩⟩

def tidyQuestion : Envelope :=
  ⟨"😀", Bytes32.filled 0xCC, Bytes32.filled 0xBB,
    .request ⟨"greeting", .exact ⟨1, 0, 0⟩, false⟩⟩

/-- Both are accepted, have another datagram of their own, and are read back from that. -/
theorem decode_reencodes_untidy :
    (decode untidyAnswer = .ok tidyAnswer ∧
      ∃ canonical, encode tidyAnswer = .ok canonical ∧ canonical ≠ untidyAnswer ∧
        decode canonical = .ok tidyAnswer) ∧
    decode untidyQuestion = .ok tidyQuestion ∧
      ∃ canonical, encode tidyQuestion = .ok canonical ∧ canonical ≠ untidyQuestion ∧
        decode canonical = .ok tidyQuestion := by
  have answered : decode untidyAnswer = .ok tidyAnswer := by decide +kernel
  have asked : decode untidyQuestion = .ok tidyQuestion := by decide +kernel
  refine ⟨⟨answered, ?_⟩, asked, ?_⟩
  · obtain ⟨canonical, encoded, read, _⟩ :=
      (decode_reencodes answered).1.resolve_left fun large =>
        absurd large.1 (by decide +kernel)
    refine ⟨canonical, encoded, ?_, read⟩
    rintro rfl
    revert encoded
    decide +kernel
  · obtain ⟨canonical, encoded, read, _⟩ :=
      (decode_reencodes asked).1.resolve_left fun large => absurd large.1 (by decide +kernel)
    refine ⟨canonical, encoded, ?_, read⟩
    rintro rfl
    revert encoded
    decide +kernel

end Wire

end ServiceDiscovery
