/-
This file holds JSON documents and their compact text form. A document that was read from text
can stop being JSON at some place; the value there is `broken` and nothing follows it. A string
literal can be well formed without denoting a text, when its escapes or its bytes name no
character; it is then kept as `string none`.
-/

import ServiceDiscovery.Number.Decimal
import ServiceDiscovery.Text.Natural
import ServiceDiscovery.Text.Quoted

namespace ServiceDiscovery

/-- A JSON value, or the place where a text stops being JSON. -/
inductive Json where
  | null
  | bool (value : Bool)
  | number (value : Decimal)
  | string (text : Option String)
  | array (items : List Json)
  | object (members : List (Option String × Json))
  | broken

namespace Json

def text (value : String) : Json :=
  .string (some value)

def natural (value : Nat) : Json :=
  .number (Decimal.ofNat value)

/-- An object with the given members, in the given order. -/
def ofFields (fields : List (String × Json)) : Json :=
  .object (fields.map fun field => (some field.1, field.2))

/-! ### Text form -/

/-- Four hexadecimal digits. -/
def fourDigits (value : Nat) : List Char :=
  [Hex.digitChar (value / 0x1000 % 16), Hex.digitChar (value / 0x100 % 16),
    Hex.digitChar (value / 0x10 % 16), Hex.digitChar (value % 16)]

/-- A character of a string literal: quotes, backslashes and controls are escaped. -/
def renderChar (char : Char) : List Char :=
  if char = '"' then ['\\', '"']
  else if char = '\\' then ['\\', '\\']
  else if char = '\x08' then ['\\', 'b']
  else if char = '\x0c' then ['\\', 'f']
  else if char = '\n' then ['\\', 'n']
  else if char = '\r' then ['\\', 'r']
  else if char = '\t' then ['\\', 't']
  else if char.toNat < 0x20 then '\\' :: 'u' :: fourDigits char.toNat
  else [char]

def renderText (value : String) : List Char :=
  '"' :: value.toList.flatMap renderChar ++ ['"']

def renderInteger (value : Int) : List Char :=
  if value < 0 then '-' :: Text.decimal value.natAbs else Text.decimal value.natAbs

def renderNumber (value : Decimal) : List Char :=
  (if value.negative then ['-'] else []) ++ Text.decimal value.digits ++
    (if value.exponent = 0 then [] else 'e' :: renderInteger value.exponent)

mutual

/-- The compact text form, without any white space. -/
def render : Json → List Char
  | .null => "null".toList
  | .bool true => "true".toList
  | .bool false => "false".toList
  | .number value => renderNumber value
  | .string value => renderText (value.getD "")
  | .array items => '[' :: renderItems items ++ [']']
  | .object members => '\x7b' :: renderMembers members ++ ['\x7d']
  | .broken => []

/-- The items, separated by commas. -/
def renderItems : List Json → List Char
  | [] => []
  | [item] => render item
  | item :: next :: others => render item ++ ',' :: renderItems (next :: others)

/-- The members, separated by commas. -/
def renderMembers : List (Option String × Json) → List Char
  | [] => []
  | [(key, value)] => renderText (key.getD "") ++ ':' :: render value
  | (key, value) :: next :: others =>
    renderText (key.getD "") ++ ':' :: render value ++ ',' :: renderMembers (next :: others)

end

/-- The compact text form of a document. -/
def display (value : Json) : String :=
  String.ofList value.render

/-- The bytes of the compact text form. -/
def toBytes (value : Json) : Bytes :=
  Utf8.encodeChars value.render

end Json

end ServiceDiscovery
