/-
This file reads JSON from bytes. Reading never fails as a whole: the result holds everything up
to the place where the text stops being JSON, so that a caller can tell whether the shape of the
document or its form was wrong first. Outside strings only ASCII is allowed; inside, any bytes
from the space on, and whether they are UTF-8 decides whether the literal denotes a text.
-/

import ServiceDiscovery.Json.Value

namespace ServiceDiscovery.Json

/-! ### String literals -/

/-- A part of a string literal: a byte that stands for itself, or the value of an escape. -/
inductive Piece where
  | plain (byte : UInt8)
  | escaped (unit : Nat)
  deriving DecidableEq, Repr

/-- The value of an escape of one letter. -/
def shortEscape? (byte : UInt8) : Option Nat :=
  if byte = 0x22 then some 0x22
  else if byte = 0x5C then some 0x5C
  else if byte = 0x2F then some 0x2F
  else if byte = 0x62 then some 0x08
  else if byte = 0x66 then some 0x0C
  else if byte = 0x6E then some 0x0A
  else if byte = 0x72 then some 0x0D
  else if byte = 0x74 then some 0x09
  else none

/-- The value of four hexadecimal digits. -/
def unit? (first second third fourth : UInt8) : Option Nat := do
  some ((((← Hex.digitValue? first) * 16 + (← Hex.digitValue? second)) * 16 +
    (← Hex.digitValue? third)) * 16 + (← Hex.digitValue? fourth))

/-- The pieces up to the closing quotation mark, and the bytes after it. -/
def literal? : Bytes → Option (List Piece × Bytes)
  | [] => none
  | byte :: rest =>
    if byte = 0x22 then some ([], rest)
    else if byte = 0x5C then
      match rest with
      | [] => none
      | letter :: rest =>
        if letter = 0x75 then
          match rest with
          | first :: second :: third :: fourth :: rest => do
            let unit ← unit? first second third fourth
            let (pieces, after) ← literal? rest
            some (.escaped unit :: pieces, after)
          | _ => none
        else do
          let unit ← shortEscape? letter
          let (pieces, after) ← literal? rest
          some (.escaped unit :: pieces, after)
    else if byte.toNat < 0x20 then none
    else do
      let (pieces, after) ← literal? rest
      some (.plain byte :: pieces, after)

/-- The bytes that pieces denote. A value in the first surrogate range has to be followed by
an escape in the second, and the two name one character. -/
def denoted? : List Piece → Option Bytes
  | [] => some []
  | .plain byte :: rest => (denoted? rest).map (byte :: ·)
  | .escaped unit :: rest =>
    if 0xD800 ≤ unit ∧ unit < 0xDC00 then
      match rest with
      | .escaped low :: rest =>
        if 0xDC00 ≤ low ∧ low < 0xE000 then
          (denoted? rest).map
            (Utf8.encodeChar (Char.ofNat (0x10000 + (unit - 0xD800) * 0x400 + (low - 0xDC00))) ++ ·)
        else none
      | _ => none
    else if 0xDC00 ≤ unit ∧ unit < 0xE000 then none
    else (denoted? rest).map (Utf8.encodeChar (Char.ofNat unit) ++ ·)

/-- The text that pieces denote, if they denote one. -/
def textOf (pieces : List Piece) : Option String :=
  (denoted? pieces).bind Utf8.decode?

/-! ### Numbers -/

/-- The value of an ASCII digit. -/
def digit? (byte : UInt8) : Option Nat :=
  if 0x30 ≤ byte.toNat ∧ byte.toNat ≤ 0x39 then some (byte.toNat - 0x30) else none

/-- Digits appended to a value: how many there were, the new value and the bytes after them. -/
def digitRun (count value : Nat) : Bytes → Nat × Nat × Bytes
  | [] => (count, value, [])
  | byte :: rest =>
    match digit? byte with
    | some digit => digitRun (count + 1) (value * 10 + digit) rest
    | none => (count, value, byte :: rest)

/-- An exponent, if there is one. -/
def exponentPart? : Bytes → Option (Int × Bytes)
  | [] => some (0, [])
  | byte :: rest =>
    if byte = 0x65 ∨ byte = 0x45 then
      let (negative, digits) := match rest with
        | sign :: others =>
          if sign = 0x2D then (true, others) else if sign = 0x2B then (false, others)
          else (false, rest)
        | [] => (false, rest)
      match digitRun 0 0 digits with
      | (0, _, _) => none
      | (_, value, after) => some (if negative then -(value : Int) else value, after)
    else some (0, byte :: rest)

/-- The digits after a point, if there is one: their count, the new value and what follows. -/
def fractionPart? (value : Nat) : Bytes → Option (Nat × Nat × Bytes)
  | [] => some (0, value, [])
  | byte :: rest =>
    if byte = 0x2E then
      match digitRun 0 value rest with
      | (0, _, _) => none
      | run => some run
    else some (0, value, byte :: rest)

/-- The digits in front of the point: a zero without a digit behind it, or digits that start with
another one. -/
def wholePart? : Bytes → Option (Nat × Bytes)
  | [] => none
  | byte :: rest =>
    match digit? byte with
    | none => none
    | some 0 => if (rest.head?.bind digit?).isSome then none else some (0, rest)
    | some digit =>
      let (_, value, after) := digitRun 0 digit rest
      some (value, after)

def number? (bytes : Bytes) : Option (Decimal × Bytes) := do
  let (negative, digits) := match bytes with
    | sign :: rest => if sign = 0x2D then (true, rest) else (false, bytes)
    | [] => (false, bytes)
  let (whole, rest) ← wholePart? digits
  let (places, value, rest) ← fractionPart? whole rest
  let (exponent, rest) ← exponentPart? rest
  some (⟨negative, value, exponent - places⟩, rest)

/-! ### Values -/

def isBlankByte (byte : UInt8) : Bool :=
  byte == 0x20 || byte == 0x09 || byte == 0x0A || byte == 0x0D

/-- The bytes from the first that is no white space. -/
def skipBlank (bytes : Bytes) : Bytes :=
  bytes.dropWhile isBlankByte

/-- The bytes after a fixed word, if they start with it. -/
def after? (word : Bytes) (bytes : Bytes) : Option Bytes :=
  if bytes.take word.length = word then some (bytes.drop word.length) else none

/-- A value made from what a reader found, or a broken one. -/
def readAs {Found : Type} (make : Found → Json) : Option (Found × Bytes) → Json × Option Bytes
  | some (found, rest) => (make found, some rest)
  | none => (.broken, none)

/-- The word, if it is there, as the value it stands for. -/
def readWord (word : String) (value : Json) (bytes : Bytes) : Json × Option Bytes :=
  match after? (Utf8.encode word) bytes with
  | some rest => (value, some rest)
  | none => (.broken, none)

mutual

/-- One value and the bytes after it, or as much of it as there is. The fuel bounds the number
of values and members read; the length of the bytes is always enough. -/
def readValue : Nat → Bytes → Json × Option Bytes
  | 0, _ => (.broken, none)
  | fuel + 1, bytes =>
    match skipBlank bytes with
    | [] => (.broken, none)
    | byte :: rest =>
      if byte = 0x22 then readAs (fun pieces => .string (textOf pieces)) (literal? rest)
      else if byte = 0x5B then
        match skipBlank rest with
        | 0x5D :: rest => (.array [], some rest)
        | _ =>
          let (items, after) := readItems fuel rest
          (.array items, after)
      else if byte = 0x7B then
        match skipBlank rest with
        | 0x7D :: rest => (.object [], some rest)
        | _ =>
          let (members, after) := readMembers fuel rest
          (.object members, after)
      else if byte = 0x6E then readWord "null" .null (byte :: rest)
      else if byte = 0x74 then readWord "true" (.bool true) (byte :: rest)
      else if byte = 0x66 then readWord "false" (.bool false) (byte :: rest)
      else readAs .number (number? (byte :: rest))

/-- The items from one on, up to the closing bracket. -/
def readItems : Nat → Bytes → List Json × Option Bytes
  | 0, _ => ([.broken], none)
  | fuel + 1, bytes =>
    match readValue fuel bytes with
    | (item, none) => ([item], none)
    | (item, some rest) =>
      match skipBlank rest with
      | 0x2C :: rest =>
        let (items, after) := readItems fuel rest
        (item :: items, after)
      | 0x5D :: rest => ([item], some rest)
      | _ => ([item, .broken], none)

/-- The members from one on, up to the closing brace. A key that is no string literal makes a
broken member without a key. -/
def readMembers : Nat → Bytes → List (Option String × Json) × Option Bytes
  | 0, _ => ([(none, .broken)], none)
  | fuel + 1, bytes =>
    match skipBlank bytes with
    | 0x22 :: rest =>
      match literal? rest with
      | none => ([(none, .broken)], none)
      | some (pieces, rest) =>
        match skipBlank rest with
        | 0x3A :: rest =>
          match readValue fuel rest with
          | (value, none) => ([(textOf pieces, value)], none)
          | (value, some rest) =>
            match skipBlank rest with
            | 0x2C :: rest =>
              let (members, after) := readMembers fuel rest
              ((textOf pieces, value) :: members, after)
            | 0x7D :: rest => ([(textOf pieces, value)], some rest)
            | _ => ([(textOf pieces, value), (none, .broken)], none)
        | _ => ([(textOf pieces, .broken)], none)
    | _ => ([(none, .broken)], none)

end

/-- A text read as JSON: its value, and whether only white space follows it. -/
structure Document where
  root : Json
  ended : Bool

/-- The document in a byte sequence. Each value and each member takes at least one byte, so
twice the length is enough fuel. -/
def ofBytes (bytes : Bytes) : Document :=
  match readValue (2 * bytes.length + 2) bytes with
  | (value, none) => ⟨value, false⟩
  | (value, some rest) => ⟨value, (skipBlank rest).isEmpty⟩

end ServiceDiscovery.Json
