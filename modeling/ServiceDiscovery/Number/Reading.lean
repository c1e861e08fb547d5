/-
This file reads double precision numbers from text: an optional sign, then the words for
infinity and for no number in any case, or digits with an optional point and an optional
exponent. Digits may be missing on one side of the point, not on both.
-/

import ServiceDiscovery.Number.Decimal
import ServiceDiscovery.Text.Natural

namespace ServiceDiscovery.Double

/-- The leading digits of a text, and the rest. -/
def leadingDigits (text : List Char) : List Char × List Char :=
  (text.takeWhile Text.isDigit, text.dropWhile Text.isDigit)

/-- The number that digits stand for; none of them is zero. -/
def digitsValue (digits : List Char) : Nat :=
  (Text.natural? digits).getD 0

/-- A sign, if there is one: whether it is a minus, and the rest. -/
def leadingSign : List Char → Bool × List Char
  | '-' :: rest => (true, rest)
  | '+' :: rest => (false, rest)
  | text => (false, text)

/-- The exponent that the rest of a number states, with nothing after it. -/
def exponent? : List Char → Option Int
  | [] => some 0
  | mark :: rest =>
    if mark = 'e' ∨ mark = 'E' then
      let (negative, digits) := leadingSign rest
      (Text.natural? digits).map fun value => if negative then -(value : Int) else value
    else none

/-- The digits after the point, if there is one, and the rest. -/
def fraction : List Char → List Char × List Char
  | '.' :: rest => leadingDigits rest
  | text => ([], text)

/-- A number without its sign. -/
def magnitude? (negative : Bool) (text : List Char) : Option Double :=
  let word := text.map Char.toLower
  if word = "inf".toList ∨ word = "infinity".toList then some (infinity negative)
  else if word = "nan".toList then some notANumber
  else
    let (whole, rest) := leadingDigits text
    let (part, rest) := fraction rest
    if whole.isEmpty && part.isEmpty then none
    else (exponent? rest).map fun exponent =>
      Decimal.nearest ⟨negative, digitsValue (whole ++ part), exponent - part.length⟩

/-- The number that a text states. -/
def parse? (text : List Char) : Option Double :=
  let (negative, rest) := leadingSign text
  magnitude? negative rest

end ServiceDiscovery.Double
