/-
This file writes texts in quotation marks for messages, so that every character in the result
can be seen: the usual short escapes, and the code point in hexadecimal for a character that
is unprintable or would attach to the one before it.
-/

import ServiceDiscovery.Text.Hex
import ServiceDiscovery.Text.Unprintable
import ServiceDiscovery.Text.GraphemeExtend

namespace ServiceDiscovery.Text

/-- A number in lower-case hexadecimal, without leading zeros. -/
def hexadecimal (value : Nat) : List Char :=
  if value < 16 then [Hex.digitChar value]
  else hexadecimal (value / 16) ++ [Hex.digitChar (value % 16)]

/-- A character by its code point. -/
def codePointEscape (char : Char) : List Char :=
  ['\\', 'u', '\x7b'] ++ hexadecimal char.toNat ++ ['\x7d']

/-- A character inside quotation marks of the given kind. -/
def quotedChar (mark char : Char) : List Char :=
  if char = '\x00' then ['\\', '0']
  else if char = '\t' then ['\\', 't']
  else if char = '\r' then ['\\', 'r']
  else if char = '\n' then ['\\', 'n']
  else if char = '\\' then ['\\', '\\']
  else if char = mark then ['\\', mark]
  else if isGraphemeExtend char || isUnprintable char then codePointEscape char
  else [char]

/-- A text in double quotation marks. -/
def quoted (text : String) : String :=
  String.ofList ('"' :: text.toList.flatMap (quotedChar '"') ++ ['"'])

/-- One character in single quotation marks. -/
def quotedSingle (char : Char) : String :=
  let mark := Char.ofNat 0x27
  String.ofList (mark :: quotedChar mark char ++ [mark])

end ServiceDiscovery.Text
