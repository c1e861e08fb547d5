/-
This file holds the UTF-8 encoding of characters and the strict reading of it: an overlong
form, a surrogate, a value past the last character and a cut sequence are all refused.
-/

namespace ServiceDiscovery

/-- A sequence of bytes, as it is sent, stored or hashed. -/
abbrev Bytes := List UInt8

end ServiceDiscovery

namespace ServiceDiscovery.Utf8

/-- The byte that follows a lead byte, with the low six bits of a value. -/
def continuation (value : Nat) : UInt8 :=
  UInt8.ofNat (0x80 + value % 0x40)

/-- The one to four bytes of a character. -/
def encodeChar (char : Char) : Bytes :=
  let code := char.toNat
  if code < 0x80 then
    [UInt8.ofNat code]
  else if code < 0x800 then
    [UInt8.ofNat (0xC0 + code / 0x40), continuation code]
  else if code < 0x10000 then
    [UInt8.ofNat (0xE0 + code / 0x1000), continuation (code / 0x40), continuation code]
  else
    [UInt8.ofNat (0xF0 + code / 0x40000), continuation (code / 0x1000),
      continuation (code / 0x40), continuation code]

def encodeChars (text : List Char) : Bytes :=
  text.flatMap encodeChar

/-- The bytes of a text. -/
def encode (text : String) : Bytes :=
  encodeChars text.toList

/-- The six bits that a continuation byte carries. -/
def continued? (byte : UInt8) : Option Nat :=
  if 0x80 ≤ byte.toNat ∧ byte.toNat < 0xC0 then some (byte.toNat - 0x80) else none

/-- A value as a character, if it is at least `least` and is one. -/
def charFrom? (least code : Nat) : Option Char :=
  if least ≤ code ∧ code.isValidChar then some (Char.ofNat code) else none

/-- The first character of a nonempty byte sequence, with the bytes after it. -/
def next? : Bytes → Option (Char × Bytes)
  | [] => none
  | lead :: rest =>
    let code := lead.toNat
    if code < 0x80 then
      some (Char.ofNat code, rest)
    else if code < 0xC0 then
      none
    else if code < 0xE0 then
      match rest with
      | second :: rest => do
        let char ← charFrom? 0x80 ((code - 0xC0) * 0x40 + (← continued? second))
        some (char, rest)
      | _ => none
    else if code < 0xF0 then
      match rest with
      | second :: third :: rest => do
        let char ← charFrom? 0x800
          (((code - 0xE0) * 0x40 + (← continued? second)) * 0x40 + (← continued? third))
        some (char, rest)
      | _ => none
    else if code < 0xF8 then
      match rest with
      | second :: third :: fourth :: rest => do
        let char ← charFrom? 0x10000
          ((((code - 0xF0) * 0x40 + (← continued? second)) * 0x40 + (← continued? third)) * 0x40 +
            (← continued? fourth))
        some (char, rest)
      | _ => none
    else
      none

/-- The characters of bytes that are UTF-8 throughout. The count bounds the characters read;
the length of the bytes is always enough. -/
def decodeWithin : Nat → Bytes → Option (List Char)
  | _, [] => some []
  | 0, _ :: _ => none
  | count + 1, bytes => do
    let (char, rest) ← next? bytes
    let chars ← decodeWithin count rest
    some (char :: chars)

def decodeChars? (bytes : Bytes) : Option (List Char) :=
  decodeWithin bytes.length bytes

/-- The text that bytes encode, if they are UTF-8 throughout. -/
def decode? (bytes : Bytes) : Option String :=
  (decodeChars? bytes).map String.ofList

end ServiceDiscovery.Utf8
