/-
This file reads the numbers of TOML. Digits may have single underscores between them, whole
numbers in decimal have no leading zeros and fit into 64 bits with a sign, and a number with a
point needs digits on both sides of it. A number too large for a double is refused, unless it is
negative.
-/

import ServiceDiscovery.Text.Natural
import ServiceDiscovery.Toml.Literal
import ServiceDiscovery.Toml.Value

namespace ServiceDiscovery.Toml

/-! ### Digits -/

/-- Digits with underscores between them, after a first one. An underscore has to be followed
by another digit. -/
def moreDigits (isDigit : Char → Bool) : Reader (List Char)
  | [] => some ([], [])
  | '_' :: rest =>
    match rest with
    | [] => none
    | char :: rest => if isDigit char then after char (moreDigits isDigit rest) else none
  | char :: rest =>
    if isDigit char then after char (moreDigits isDigit rest) else some ([], char :: rest)

/-- One or more digits with underscores between them. -/
def digits (isDigit : Char → Bool) : Reader (List Char)
  | [] => none
  | char :: rest => if isDigit char then after char (moreDigits isDigit rest) else none

/-- A decimal number without leading zeros. -/
def wholeDigits : Reader (List Char)
  | '0' :: rest => some (['0'], rest)
  | text => digits Text.isDigit text

/-- A sign, if there is one: whether it is a minus, and the rest. -/
def sign : List Char → Bool × List Char
  | '-' :: rest => (true, rest)
  | '+' :: rest => (false, rest)
  | text => (false, text)

/-- The value of decimal digits. -/
def valueOf (chars : List Char) : Nat :=
  (Text.natural? chars).getD 0

/-! ### Whole numbers -/

/-- A whole number, if 64 bits with a sign hold it. -/
def integer? (negative : Bool) (magnitude : Nat) : Option Value :=
  if negative then
    if magnitude ≤ Nat.pow 2 63 then some (.integer (-(magnitude : Int))) else none
  else if magnitude < Nat.pow 2 63 then some (.integer magnitude)
  else none

/-- A whole number from its digits to a base. -/
def ofBase (base : Nat) (chars : List Char) : Option Value :=
  integer? false (chars.foldl (fun value char => value * base + (hexDigit? char).getD 0) 0)

/-- The character is a digit to a base of at most sixteen. -/
def isDigitOf (base : Nat) (char : Char) : Bool :=
  match hexDigit? char with
  | some value => value < base
  | none => false

/-- The base that a number is marked with, and the rest. -/
def base? : List Char → Option (Nat × List Char)
  | '0' :: 'x' :: rest => some (16, rest)
  | '0' :: 'o' :: rest => some (8, rest)
  | '0' :: 'b' :: rest => some (2, rest)
  | _ => none

/-! ### Numbers with a point or an exponent -/

/-- The digits after a point, if there is one. -/
def fraction : Reader (List Char)
  | '.' :: rest => digits Text.isDigit rest
  | text => some ([], text)

/-- An exponent, if there is one. -/
def exponent : Reader Int
  | [] => some (0, [])
  | mark :: rest =>
    if mark = 'e' ∨ mark = 'E' then
      match digits Text.isDigit (sign rest).2 with
      | some (chars, after) =>
        some (if (sign rest).1 then -(valueOf chars : Int) else valueOf chars, after)
      | none => none
    else some (0, mark :: rest)

/-- A number in double precision. -/
def real? (value : Decimal) : Option Value :=
  if value.overflows && !value.negative then none else some (.real value.nearest)

/-- The text goes on after the digits of a whole number with a point or an exponent. -/
def isReal : List Char → Bool
  | mark :: _ => mark == '.' || mark == 'e' || mark == 'E'
  | [] => false

/-- The words for infinity and for no number. -/
def word? (negative : Bool) : Reader Value
  | 'i' :: 'n' :: 'f' :: rest => some (.real (Double.infinity negative), rest)
  | 'n' :: 'a' :: 'n' :: rest => some (.real Double.notANumber, rest)
  | _ => none

/-- A number in decimal, after its sign. -/
def decimal (negative : Bool) : Reader Value := fun text => do
  let (whole, rest) ← wholeDigits text
  if isReal rest then do
    let (part, rest) ← fraction rest
    let (power, rest) ← exponent rest
    let value ← real? ⟨negative, valueOf (whole ++ part), power - part.length⟩
    some (value, rest)
  else do
    let value ← integer? negative (valueOf whole)
    some (value, rest)

/-- A number. -/
def number : Reader Value := fun text =>
  match base? text with
  | some (base, rest) => do
    let (chars, rest) ← digits (isDigitOf base) rest
    let value ← ofBase base chars
    some (value, rest)
  | none => (decimal (sign text).1 (sign text).2).or (word? (sign text).1 (sign text).2)

end ServiceDiscovery.Toml
