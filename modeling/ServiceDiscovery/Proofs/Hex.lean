/-
This file proves which texts are the hexadecimal form of bytes. The digits of a byte stand for its
two halves, they are ASCII characters, and so the lengths that the reader checks are twice the
number of bytes: bytes are read back from their form, and node ids and topics from their text. Of
any other sequence the reader takes all digits or complains about the first byte that is none, and
what it takes is written again as the same digits in lower case.
-/

import ServiceDiscovery.Bytes32
import ServiceDiscovery.Proofs.Utf8

namespace ServiceDiscovery

namespace Hex

variable {count position : Nat} {digits : Bytes} {byte : UInt8}

theorem digitChar_ascii {value : Nat} (small : value < 16) : (digitChar value).toNat < 0x80 := by
  have each : ∀ digit : Fin 16, (digitChar digit).toNat < 0x80 := by decide
  exact each ⟨value, small⟩

/-- The byte of a digit has the digit's value. -/
theorem digitValue_digitChar {value : Nat} (small : value < 16) :
    digitValue? (UInt8.ofNat (digitChar value).toNat) = some value := by
  have each : ∀ digit : Fin 16,
      digitValue? (UInt8.ofNat (digitChar digit).toNat) = some digit.val := by decide
  exact each ⟨value, small⟩

theorem digitAt_digitChar (position : Nat) {value : Nat} (small : value < 16) :
    digitAt position (UInt8.ofNat (digitChar value).toNat) = .ok value := by
  rw [digitAt, digitValue_digitChar small]

/-- The bytes of the digits of a byte. -/
theorem encodeChars_encodeByte (byte : UInt8) :
    Utf8.encodeChars (encodeByte byte) =
      [UInt8.ofNat (digitChar (byte.toNat / 16)).toNat,
        UInt8.ofNat (digitChar (byte.toNat % 16)).toNat] := by
  have range := byte.toNat_lt
  simp only [encodeByte, Utf8.encodeChars, List.flatMap_cons, List.flatMap_nil]
  rw [Utf8.encodeChar_of_ascii (digitChar_ascii (by omega)),
    Utf8.encodeChar_of_ascii (digitChar_ascii (by omega))]
  rfl

theorem encodeChars_cons (byte : UInt8) (rest : Bytes) :
    Utf8.encodeChars (encodeChars (byte :: rest)) =
      UInt8.ofNat (digitChar (byte.toNat / 16)).toNat ::
        UInt8.ofNat (digitChar (byte.toNat % 16)).toNat :: Utf8.encodeChars (encodeChars rest) := by
  have split : Utf8.encodeChars (encodeChars (byte :: rest)) =
      Utf8.encodeChars (encodeByte byte) ++ Utf8.encodeChars (encodeChars rest) := by
    simp only [Utf8.encodeChars, encodeChars, List.flatMap_cons, List.flatMap_append]
  rw [split, encodeChars_encodeByte]
  rfl

theorem length_digits (bytes : Bytes) :
    (Utf8.encodeChars (encodeChars bytes)).length = 2 * bytes.length := by
  induction bytes with
  | nil => rfl
  | cons byte rest inductionHypothesis =>
    rw [encodeChars_cons, List.length_cons, List.length_cons, inductionHypothesis,
      List.length_cons]
    omega

theorem decodePairs_encodeChars (position : Nat) (bytes : Bytes) :
    decodePairs position (Utf8.encodeChars (encodeChars bytes)) = .ok bytes := by
  induction bytes generalizing position with
  | nil => rfl
  | cons byte rest inductionHypothesis =>
    have range := byte.toNat_lt
    have whole : byte.toNat / 16 * 16 + byte.toNat % 16 = byte.toNat := by omega
    rw [encodeChars_cons, decodePairs, digitAt_digitChar _ (by omega),
      digitAt_digitChar _ (by omega), inductionHypothesis]
    simp only [bind, Except.bind, whole, UInt8.ofNat_toNat]

/-- Bytes are read back from their hexadecimal form. -/
theorem decodeExact_encode (bytes : Bytes) :
    decodeExact bytes.length (encode bytes) = .ok bytes := by
  have even : ¬ 2 * bytes.length % 2 = 1 := by omega
  rw [decodeExact, encode, Utf8.encode, String.toList_ofList, decodeDigits, length_digits,
    if_neg even, if_pos rfl, decodePairs_encodeChars]

theorem encode_injective : Function.Injective encode := by
  intro first second same
  have doubled := congrArg List.length (congrArg Utf8.encodeChars (String.ofList_injective same))
  rw [length_digits, length_digits] at doubled
  have read := decodeExact_encode first
  rw [same, show first.length = second.length by omega, decodeExact_encode] at read
  exact (Except.ok.inj read).symm

/-! ### Bytes that are digits -/

/-- The character with the code of a byte. -/
def charOf (byte : UInt8) : Char :=
  Char.ofNat byte.toNat

theorem isSome_digitValue (byte : UInt8) :
    (digitValue? byte).isSome = (charOf byte).isHexDigit := by
  have each : ∀ code : Fin 256, (digitValue? (UInt8.ofNat code)).isSome =
      (charOf (UInt8.ofNat code)).isHexDigit := by decide +kernel
  have own := each ⟨byte.toNat, byte.toNat_lt⟩
  rwa [UInt8.ofNat_toNat] at own

/-- A digit has the value of its lower-case form. -/
theorem digitChar_of_digitValue {value : Nat} (read : digitValue? byte = some value) :
    value < 16 ∧ digitChar value = (charOf byte).toLower := by
  have each : ∀ code : Fin 256, ∀ value ∈ digitValue? (UInt8.ofNat code),
      value < 16 ∧ digitChar value = (charOf (UInt8.ofNat code)).toLower := by decide +kernel
  have own := each ⟨byte.toNat, byte.toNat_lt⟩ value
  rw [UInt8.ofNat_toNat] at own
  exact own read

theorem digitAt_of_digit (position : Nat) (digit : (charOf byte).isHexDigit = true) :
    ∃ value < 16, digitAt position byte = .ok value ∧
      digitChar value = (charOf byte).toLower := by
  rw [← isSome_digitValue] at digit
  obtain ⟨value, read⟩ := Option.isSome_iff_exists.mp digit
  obtain ⟨small, lowered⟩ := digitChar_of_digitValue read
  exact ⟨value, small, by rw [digitAt, read], lowered⟩

theorem digitAt_of_stray (position : Nat) (stray : (charOf byte).isHexDigit = false) :
    digitAt position byte = .error (.badDigit byte position) := by
  rw [← isSome_digitValue, Option.isSome_eq_false_iff, Option.isNone_iff_eq_none] at stray
  rw [digitAt, stray]

/-- The two halves of a byte are written as they were given. -/
theorem encodeByte_of_halves {high low : Nat} (first : high < 16) (second : low < 16) :
    encodeByte (UInt8.ofNat (high * 16 + low)) = [digitChar high, digitChar low] := by
  have whole : (UInt8.ofNat (high * 16 + low)).toNat = high * 16 + low :=
    Utf8.toNat_byte (by omega)
  rw [encodeByte, whole, show (high * 16 + low) / 16 = high by omega,
    show (high * 16 + low) % 16 = low by omega]

/-! ### Reading pairs of digits -/

/-- The first byte that is no digit, and its place. -/
def IsFirstStray (digits : Bytes) (byte : UInt8) (position : Nat) : Prop :=
  (charOf byte).isHexDigit = false ∧ ∃ before after, digits = before ++ byte :: after ∧
    before.length = position ∧ ∀ other ∈ before, (charOf other).isHexDigit = true

theorem IsFirstStray.mem (stray : IsFirstStray digits byte position) : byte ∈ digits := by
  obtain ⟨_, before, after, rfl, _⟩ := stray
  exact List.mem_append_right before List.mem_cons_self

/-- All bytes are digits, or one is the first that is none. -/
theorem digits_or_stray (digits : Bytes) :
    (∀ byte ∈ digits, (charOf byte).isHexDigit = true) ∨
      ∃ byte position, IsFirstStray digits byte position := by
  cases found : digits.find? fun byte => !(charOf byte).isHexDigit with
  | none =>
    refine Or.inl fun byte member => ?_
    have digit := List.find?_eq_none.mp found byte member
    rwa [Bool.not_eq_true', Bool.not_eq_false] at digit
  | some byte =>
    obtain ⟨stray, before, after, split, others⟩ := List.find?_eq_some_iff_append.mp found
    rw [Bool.not_eq_true'] at stray
    refine Or.inr ⟨byte, before.length, stray, before, after, split, rfl, fun other member => ?_⟩
    have digit := others other member
    rwa [Bool.not_not] at digit

/-- Digits are read, and written again in lower case. -/
theorem decodePairs_of_digits (position : Nat) (even : digits.length % 2 = 0)
    (all : ∀ byte ∈ digits, (charOf byte).isHexDigit = true) :
    ∃ bytes, decodePairs position digits = .ok bytes ∧
      encodeChars bytes = digits.map fun byte => (charOf byte).toLower := by
  fun_induction decodePairs position digits with
  | case1 position high low rest inductionHypothesis =>
    obtain ⟨highDigit, lowDigit, others⟩ :=
      And.imp_right List.forall_mem_cons.mp (List.forall_mem_cons.mp all)
    obtain ⟨first, firstSmall, firstRead, firstLower⟩ := digitAt_of_digit position highDigit
    obtain ⟨second, secondSmall, secondRead, secondLower⟩ :=
      digitAt_of_digit (position + 1) lowDigit
    have rest_even : rest.length % 2 = 0 := by
      simp only [List.length_cons] at even
      omega
    obtain ⟨bytes, read, lowered⟩ := inductionHypothesis rest_even others
    refine ⟨UInt8.ofNat (first * 16 + second) :: bytes, ?_, ?_⟩
    · rw [firstRead, secondRead, read]
      rfl
    · show encodeByte _ ++ encodeChars bytes = _
      rw [encodeByte_of_halves firstSmall secondSmall, lowered, firstLower, secondLower]
      rfl
  | case2 digits position short =>
    rcases digits with _ | ⟨high, _ | ⟨low, rest⟩⟩
    · exact ⟨[], rfl, rfl⟩
    · exact absurd even (show ¬ 1 % 2 = 0 by decide)
    · exact absurd rfl (short high low rest)

/-- Reading stops at the first byte that is no digit. -/
theorem decodePairs_of_stray (start : Nat) (even : digits.length % 2 = 0)
    (stray : IsFirstStray digits byte position) :
    decodePairs start digits = .error (.badDigit byte (start + position)) := by
  obtain ⟨noDigit, before, after, rfl, rfl, others⟩ := stray
  generalize whole : before ++ byte :: after = digits at even
  fun_induction decodePairs start digits generalizing before with
  | case1 start high low rest inductionHypothesis =>
    rcases before with _ | ⟨first, _ | ⟨second, before⟩⟩
    · rw [List.nil_append, List.cons.injEq] at whole
      rw [← whole.1, digitAt_of_stray start noDigit]
      rfl
    · rw [List.cons_append, List.nil_append, List.cons.injEq, List.cons.injEq] at whole
      obtain ⟨value, _, read, _⟩ := digitAt_of_digit start (others first List.mem_cons_self)
      rw [← whole.1, ← whole.2.1, read, digitAt_of_stray (start + 1) noDigit]
      rfl
    · rw [List.cons_append, List.cons_append, List.cons.injEq, List.cons.injEq] at whole
      obtain ⟨rfl, rfl, rest_eq⟩ := whole
      obtain ⟨firstDigit, secondDigit, digit⟩ :=
        And.imp_right List.forall_mem_cons.mp (List.forall_mem_cons.mp others)
      obtain ⟨value, _, read, _⟩ := digitAt_of_digit start firstDigit
      obtain ⟨other, _, otherRead, _⟩ := digitAt_of_digit (start + 1) secondDigit
      have rest_even : rest.length % 2 = 0 := by
        simp only [List.length_cons] at even
        omega
      have place : start + 2 + before.length = start + (first :: second :: before).length := by
        simp only [List.length_cons]
        omega
      rw [read, otherRead, inductionHypothesis before digit rest_eq rest_even, place]
      rfl
  | case2 digits start short =>
    rcases digits with _ | ⟨high, _ | ⟨low, rest⟩⟩
    · exact absurd whole (by simp)
    · exact absurd even (show ¬ 1 % 2 = 0 by decide)
    · exact absurd rfl (short high low rest)

/-! ### Reading a given number of bytes -/

/-- How digits are read: what is wrong with their number comes before what is wrong with them, and
if nothing is wrong the bytes are those that are written as the same digits in lower case. -/
inductive Reads (count : Nat) (digits : Bytes) : Except Error Bytes → Prop where
  | odd (length : digits.length % 2 = 1) : Reads count digits (.error .oddLength)
  | unfit (even : digits.length % 2 = 0) (length : digits.length ≠ 2 * count) :
    Reads count digits (.error .wrongLength)
  | stray {byte : UInt8} {position : Nat} (length : digits.length = 2 * count)
    (first : IsFirstStray digits byte position) :
    Reads count digits (.error (.badDigit byte position))
  | read {bytes : Bytes} (length : digits.length = 2 * count)
    (all : ∀ byte ∈ digits, (charOf byte).isHexDigit = true)
    (lowered : encodeChars bytes = digits.map fun byte => (charOf byte).toLower) :
    Reads count digits (.ok bytes)

theorem decodeDigits_of_length (length : digits.length = 2 * count) :
    decodeDigits count digits = decodePairs 0 digits := by
  rw [decodeDigits, if_neg (by omega), if_pos length]

theorem Reads.decodeDigits_eq {result : Except Error Bytes} (reads : Reads count digits result) :
    decodeDigits count digits = result := by
  cases reads with
  | odd length => rw [decodeDigits, if_pos length]
  | unfit even length => rw [decodeDigits, if_neg (by omega), if_neg length]
  | stray length first =>
    rw [decodeDigits_of_length length, decodePairs_of_stray 0 (by omega) first, Nat.zero_add]
  | read length all lowered =>
    obtain ⟨bytes, read, same⟩ := decodePairs_of_digits 0 (by omega) all
    rw [decodeDigits_of_length length, read,
      encode_injective (congrArg String.ofList (same.trans lowered.symm))]

theorem reads_decodeDigits (count : Nat) (digits : Bytes) :
    Reads count digits (decodeDigits count digits) := by
  by_cases odd : digits.length % 2 = 1
  · rw [decodeDigits, if_pos odd]
    exact .odd odd
  · by_cases length : digits.length = 2 * count
    · rw [decodeDigits_of_length length]
      rcases digits_or_stray digits with all | ⟨byte, position, first⟩
      · obtain ⟨bytes, read, lowered⟩ := decodePairs_of_digits 0 (by omega) all
        rw [read]
        exact .read length all lowered
      · rw [decodePairs_of_stray 0 (by omega) first, Nat.zero_add]
        exact .stray length first
    · rw [decodeDigits, if_neg odd, if_neg length]
      exact .unfit (by omega) length

/-- The rules decide what is read. -/
theorem decodeDigits_eq_iff {result : Except Error Bytes} :
    decodeDigits count digits = result ↔ Reads count digits result :=
  ⟨fun same => same ▸ reads_decodeDigits count digits, Reads.decodeDigits_eq⟩

end Hex

namespace Bytes32

/-- A text that reads as 32 bytes reads as the value that has them. -/
theorem parse_of_decodeExact {text : String} {value : Bytes32}
    (read : Hex.decodeExact 32 text = .ok value.bytes) : parse text = .ok value := by
  unfold parse
  split
  · rename_i bytes found
    rw [read] at found
    cases found
    rfl
  · rename_i fault found
    rw [read] at found
    cases found

theorem parse_display (value : Bytes32) : parse value.display = .ok value := by
  have read := Hex.decodeExact_encode value.bytes
  rw [value.length_bytes] at read
  exact parse_of_decodeExact read

end Bytes32

end ServiceDiscovery
