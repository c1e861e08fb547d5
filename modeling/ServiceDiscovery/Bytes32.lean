/-
This file holds sequences of exactly 32 bytes, the form of node ids and of topics. Their text
form is 64 hexadecimal digits, written in lower case and read in either case.
-/

import ServiceDiscovery.Text.Hex
import ServiceDiscovery.Text.Quoted

namespace ServiceDiscovery

namespace Hex

/-- The wording of each complaint; a bad digit is shown as the character with its byte's code. -/
def Error.message : Error → String
  | .oddLength => "Odd number of digits"
  | .wrongLength => "Invalid string length"
  | .badDigit byte position =>
    "Invalid character " ++ Text.quotedSingle (Char.ofNat byte.toNat) ++ " at position " ++
      toString position

end Hex

/-- Exactly 32 bytes. -/
structure Bytes32 where
  bytes : Bytes
  length_bytes : bytes.length = 32
  deriving DecidableEq

/-- The identifier of a node. -/
abbrev NodeId := Bytes32

namespace Bytes32

/-- The same byte 32 times. -/
def filled (byte : UInt8) : Bytes32 :=
  ⟨List.replicate 32 byte, by simp⟩

def display (value : Bytes32) : String :=
  Hex.encode value.bytes

/-- The first eight bytes, enough to tell nodes apart in a line of text. -/
def short (value : Bytes32) : String :=
  Hex.encode (value.bytes.take 8)

/-- The 32 bytes that a text of 64 hexadecimal digits stands for. -/
def parse (text : String) : Except Hex.Error Bytes32 :=
  match read : Hex.decodeExact 32 text with
  | .ok bytes => .ok ⟨bytes, Hex.decodeDigits_length read⟩
  | .error fault => .error fault

end Bytes32

end ServiceDiscovery
