/-
This file reads the dates and times of TOML: a date, a time of day, or both with a capital or
small T or a space in between and then perhaps an offset. Months have their days, February by
the rule of the Gregorian calendar, and a minute may have a leap second.
-/

import ServiceDiscovery.Text.Natural
import ServiceDiscovery.Toml.Literal

namespace ServiceDiscovery.Toml.Moment

/-- The number in exactly so many digits, continuing from a value. -/
def digitsOf : Nat → Nat → Reader Nat
  | 0, value, text => some (value, text)
  | _ + 1, _, [] => none
  | count + 1, value, char :: rest => do
    digitsOf count (value * 10 + (← Text.digitValue? char)) rest

/-- Two digits for a number in a range. -/
def pair (least most : Nat) : Reader Nat := fun text => do
  let (value, rest) ← digitsOf 2 0 text
  if least ≤ value ∧ value ≤ most then some (value, rest) else none

/-- The text after a character at its front. -/
def past? (mark : Char) : List Char → Option (List Char)
  | char :: rest => if char = mark then some rest else none
  | [] => none

/-! ### Dates -/

def isLeap (year : Nat) : Bool :=
  year % 4 == 0 && (year % 100 != 0 || year % 400 == 0)

/-- The number of days of a month. -/
def daysOf (year month : Nat) : Nat :=
  if month = 2 then if isLeap year then 29 else 28
  else if month = 4 ∨ month = 6 ∨ month = 9 ∨ month = 11 then 30
  else 31

/-- The text after a date. -/
def date? (text : List Char) : Option (List Char) := do
  let (year, rest) ← digitsOf 4 0 text
  let (month, rest) ← pair 1 12 (← past? '-' rest)
  let (_, rest) ← pair 1 (daysOf year month) (← past? '-' rest)
  some rest

/-! ### Times -/

/-- The text after the parts of a second, if there are any. -/
def pastFraction (text : List Char) : List Char :=
  match text with
  | '.' :: rest =>
    match rest.dropWhile Text.isDigit with
    | others => if others.length = rest.length then text else others
  | _ => text

/-- The text after a time of day. -/
def time? (text : List Char) : Option (List Char) := do
  let (_, rest) ← pair 0 23 text
  let (_, rest) ← pair 0 59 (← past? ':' rest)
  let (_, rest) ← pair 0 60 (← past? ':' rest)
  some (pastFraction rest)

/-- The text after hours and minutes. -/
def hoursAndMinutes? (text : List Char) : Option (List Char) := do
  let (_, rest) ← pair 0 23 text
  let (_, rest) ← pair 0 59 (← past? ':' rest)
  some rest

/-- The text after an offset, if there is one. -/
def pastOffset (text : List Char) : List Char :=
  match text with
  | [] => []
  | mark :: rest =>
    if mark = 'Z' ∨ mark = 'z' then rest
    else if mark = '+' ∨ mark = '-' then (hoursAndMinutes? rest).getD text
    else text

/-- The text after a time of day that follows a date, if there is one. -/
def pastTime (text : List Char) : List Char :=
  match text with
  | [] => []
  | mark :: rest =>
    if mark = 'T' ∨ mark = 't' ∨ mark = ' ' then ((time? rest).map pastOffset).getD text else text

/-- The text after a date, a time or both. -/
def moment? (text : List Char) : Option (List Char) :=
  match date? text with
  | some rest => some (pastTime rest)
  | none => time? text

end ServiceDiscovery.Toml.Moment
