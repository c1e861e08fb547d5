/-
This file reads the words of TOML: gaps between words, strings in their four forms, and keys.
Only spaces and tabs separate words in a line, and a line ends with a line feed, which may have
a carriage return in front of it. Control characters stand nowhere.
-/

import ServiceDiscovery.Text.Hex

namespace ServiceDiscovery.Toml

/-- Reads something from the front of a text. -/
abbrev Reader (Found : Type) := List Char → Option (Found × List Char)

/-! ### Gaps -/

def isSpace (char : Char) : Bool :=
  char == ' ' || char == '\t'

/-- A tab, or no control character of ASCII. -/
def isVisible (char : Char) : Bool :=
  char == '\t' || (0x20 ≤ char.toNat && char.toNat != 0x7F)

def skipSpaces (text : List Char) : List Char :=
  text.dropWhile isSpace

/-- The text after the end of a line at its front. -/
def newline? : List Char → Option (List Char)
  | '\n' :: rest => some rest
  | '\r' :: '\n' :: rest => some rest
  | _ => none

/-- The text after a comment at its front, if there is one. -/
def skipComment : List Char → List Char
  | '#' :: rest => rest.dropWhile isVisible
  | text => text

/-- The text after a line of which only spaces and a comment are left. -/
def endOfLine? (text : List Char) : Option (List Char) :=
  match skipComment (skipSpaces text) with
  | [] => some []
  | rest => newline? rest

mutual

/-- The text after spaces, comments and ends of lines. -/
def skipGaps : List Char → Option (List Char)
  | [] => some []
  | '\r' :: rest =>
    match rest with
    | '\n' :: rest => skipGaps rest
    | _ => none
  | char :: rest =>
    if isSpace char || char == '\n' then skipGaps rest
    else if char = '#' then skipRemark rest
    else some (char :: rest)

/-- The same from inside a comment, which has to end with its line. -/
def skipRemark : List Char → Option (List Char)
  | [] => none
  | '\r' :: rest =>
    match rest with
    | '\n' :: rest => skipGaps rest
    | _ => none
  | char :: rest =>
    if char = '\n' then skipGaps rest
    else if isVisible char then skipRemark rest
    else none

end

/-! ### Escapes -/

def hexDigit? (char : Char) : Option Nat :=
  if char.toNat < 0x80 then Hex.digitValue? (UInt8.ofNat char.toNat) else none

/-- A number of exactly so many hexadecimal digits, continuing from a value. -/
def hexNumber : Nat → Nat → Reader Nat
  | 0, value, text => some (value, text)
  | _ + 1, _, [] => none
  | count + 1, value, char :: rest => do
    hexNumber count (value * 16 + (← hexDigit? char)) rest

/-- The character with a code of so many digits. -/
def codedChar (count : Nat) : Reader Char := fun text => do
  let (code, rest) ← hexNumber count 0 text
  if code.isValidChar then some (Char.ofNat code, rest) else none

/-- The character that an escape stands for, after its backslash. -/
def escaped : Reader Char
  | [] => none
  | char :: rest =>
    if char = 'b' then some ('\x08', rest)
    else if char = 't' then some ('\t', rest)
    else if char = 'n' then some ('\n', rest)
    else if char = 'f' then some ('\x0c', rest)
    else if char = 'r' then some ('\r', rest)
    else if char = '"' then some ('"', rest)
    else if char = '\\' then some ('\\', rest)
    else if char = 'u' then codedChar 4 rest
    else if char = 'U' then codedChar 8 rest
    else none

/-! ### Strings -/

def apostrophe : Char := Char.ofNat 0x27

/-- The same reading with one more character in front. -/
def after (char : Char) : Option (List Char × List Char) → Option (List Char × List Char)
  | some (chars, rest) => some (char :: chars, rest)
  | none => none

/-- The rest of a string on one line, with escapes. The fuel bounds its length. -/
def basicRest : Nat → Reader (List Char)
  | 0, _ => none
  | _ + 1, [] => none
  | fuel + 1, char :: rest =>
    if char = '"' then some ([], rest)
    else if char = '\\' then
      match escaped rest with
      | some (meant, rest) => after meant (basicRest fuel rest)
      | none => none
    else if isVisible char then after char (basicRest fuel rest)
    else none

/-- The rest of a string on one line, without escapes. -/
def literalRest : Reader (List Char)
  | [] => none
  | char :: rest =>
    if char = apostrophe then some ([], rest)
    else if isVisible char then after char (literalRest rest)
    else none

/-- The marks at the end of a string over several lines: three of them end it, and up to two
in front of these belong to it. The text begins after the first three. -/
def closing (mark : Char) (text : List Char) : List Char × List Char :=
  let own := (text.takeWhile fun char => char == mark).take 2
  (own, text.drop own.length)

/-- Three marks stand at the front. -/
def startsTriple (mark : Char) (text : List Char) : Bool :=
  text.take 3 == [mark, mark, mark]

/-- The text from the first character that is neither space nor end of a line. -/
def skipLines : List Char → List Char
  | [] => []
  | '\r' :: '\n' :: rest => skipLines rest
  | char :: rest => if isSpace char || char == '\n' then skipLines rest else char :: rest

/-- The text after a backslash at the end of a line: all spaces and ends of lines are skipped. -/
def continued? (text : List Char) : Option (List Char) :=
  (newline? (skipSpaces text)).map skipLines

/-- The rest of a string over several lines; the mark tells whether it has escapes. An end of
a line is kept as a line feed. -/
def longRest (mark : Char) : Nat → Reader (List Char)
  | 0, _ => none
  | _ + 1, [] => none
  | fuel + 1, char :: rest =>
    if startsTriple mark (char :: rest) then some (closing mark (rest.drop 2))
    else if char = '\\' ∧ mark = '"' then
      match continued? rest, escaped rest with
      | some rest, _ => longRest mark fuel rest
      | none, some (meant, rest) => after meant (longRest mark fuel rest)
      | none, none => none
    else if char = '\r' then
      match rest with
      | '\n' :: rest => after '\n' (longRest mark fuel rest)
      | _ => none
    else if char = '\n' ∨ isVisible char then after char (longRest mark fuel rest)
    else none

/-- A string over several lines, after its marks; an end of a line directly after them is no
part of it. -/
def longString (mark : Char) (text : List Char) : Option (List Char × List Char) :=
  longRest mark (text.length + 1) ((newline? text).getD text)

/-- A string in one of its forms. -/
def string : Reader String := fun text =>
  match text with
  | [] => none
  | char :: rest =>
    let found :=
      if char = '"' ∨ char = apostrophe then
        if startsTriple char text then longString char (rest.drop 2)
        else if char = '"' then basicRest (rest.length + 1) rest
        else literalRest rest
      else none
    found.map fun result => (String.ofList result.1, result.2)

/-! ### Keys -/

/-- The characters of a key without quotation marks. -/
def isBare (char : Char) : Bool :=
  char.isAlphanum || char == '_' || char == '-'

/-- One part of a key. Strings over several lines are none. -/
def keyPart : Reader String := fun text =>
  match text with
  | [] => none
  | char :: rest =>
    let found :=
      if char = '"' then basicRest (rest.length + 1) rest
      else if char = apostrophe then literalRest rest
      else if isBare char then some (text.takeWhile isBare, text.dropWhile isBare)
      else none
    found.map fun result => (String.ofList result.1, result.2)

/-- The parts of a key with dots in between, and spaces around each. -/
def keyParts : Nat → Reader (List String)
  | 0, _ => none
  | fuel + 1, text => do
    let (part, rest) ← keyPart (skipSpaces text)
    match skipSpaces rest with
    | '.' :: rest => do
      let (parts, rest) ← keyParts fuel rest
      some (part :: parts, rest)
    | rest => some ([part], rest)

/-- The most parts that a key can have, and the deepest nesting of values, each increased by
one. -/
def nestingLimit : Nat := 80

/-- The steps of a key and its last part. -/
def key : Reader (List String × String) := fun text => do
  let (parts, rest) ← keyParts (text.length + 1) text
  if parts.length < nestingLimit then
    match parts.getLast? with
    | some last => some ((parts.dropLast, last), rest)
    | none => none
  else none

end ServiceDiscovery.Toml
