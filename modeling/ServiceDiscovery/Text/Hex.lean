/-
This file writes bytes as pairs of lower-case hexadecimal digits and reads an exact number of
bytes back. Lengths and positions count the UTF-8 bytes of the text, so a character outside
ASCII shifts them. The reader looks at the parity of the length first, then at the length,
then at the digits in order.
-/

import ServiceDiscovery.Text.Utf8

namespace ServiceDiscovery.Hex

/-- Why a text is not the hexadecimal form of a given number of bytes. -/
inductive Error where
  | oddLength
  | wrongLength
  | badDigit (byte : UInt8) (position : Nat)
  deriving DecidableEq, Repr

/-- The digit of a value below sixteen. -/
def digitChar (value : Nat) : Char :=
  if value < 10 then Char.ofNat (0x30 + value) else Char.ofNat (0x57 + value)

/-- The value of a digit, in either case. -/
def digitValue? (byte : UInt8) : Option Nat :=
  let code := byte.toNat
  if 0x30 ≤ code ∧ code ≤ 0x39 then some (code - 0x30)
  else if 0x61 ≤ code ∧ code ≤ 0x66 then some (code - 0x57)
  else if 0x41 ≤ code ∧ code ≤ 0x46 then some (code - 0x37)
  else none

def encodeByte (byte : UInt8) : List Char :=
  [digitChar (byte.toNat / 16), digitChar (byte.toNat % 16)]

def encodeChars (bytes : Bytes) : List Char :=
  bytes.flatMap encodeByte

/-- The hexadecimal form of bytes. -/
def encode (bytes : Bytes) : String :=
  String.ofList (encodeChars bytes)

/-- The value of the digit at a position, or the complaint about it. -/
def digitAt (position : Nat) (byte : UInt8) : Except Error Nat :=
  match digitValue? byte with
  | some value => .ok value
  | none => .error (.badDigit byte position)

/-- The bytes that pairs of digits stand for; the position is that of the first digit. -/
def decodePairs (position : Nat) : Bytes → Except Error Bytes
  | high :: low :: rest => do
    let first ← digitAt position high
    let second ← digitAt (position + 1) low
    let bytes ← decodePairs (position + 2) rest
    .ok (UInt8.ofNat (first * 16 + second) :: bytes)
  | _ => .ok []

/-- Exactly `count` bytes from their digits. -/
def decodeDigits (count : Nat) (digits : Bytes) : Except Error Bytes :=
  if digits.length % 2 = 1 then .error .oddLength
  else if digits.length = 2 * count then decodePairs 0 digits
  else .error .wrongLength

/-- Exactly `count` bytes from their hexadecimal form. -/
def decodeExact (count : Nat) (text : String) : Except Error Bytes :=
  decodeDigits count (Utf8.encode text)

theorem decodePairs_length {position : Nat} {digits bytes : Bytes} {count : Nat}
    (length : digits.length = 2 * count) (read : decodePairs position digits = .ok bytes) :
    bytes.length = count := by
  fun_induction decodePairs position digits generalizing bytes count with
  | case1 position high low rest inductionHypothesis =>
    cases first : digitAt position high with
    | error fault => rw [first] at read; cases read
    | ok first' =>
      cases second : digitAt (position + 1) low with
      | error fault => rw [first, second] at read; cases read
      | ok second' =>
        cases others : decodePairs (position + 2) rest with
        | error fault => rw [first, second, others] at read; cases read
        | ok bytes' =>
          rw [first, second, others] at read
          cases read
          simp only [List.length_cons] at length ⊢
          have half : rest.length = 2 * (count - 1) := by omega
          have shorter := inductionHypothesis half others
          omega
  | case2 digits position short =>
    cases read
    rcases digits with _ | ⟨high, _ | ⟨low, rest⟩⟩
    · simp only [List.length_nil] at length ⊢
      omega
    · simp only [List.length_cons, List.length_nil] at length ⊢
      omega
    · exact absurd rfl (short high low rest)

theorem decodeDigits_length {count : Nat} {digits bytes : Bytes}
    (read : decodeDigits count digits = .ok bytes) : bytes.length = count := by
  unfold decodeDigits at read
  split at read
  · cases read
  · split at read
    · rename_i length
      exact decodePairs_length length read
    · cases read

end ServiceDiscovery.Hex
