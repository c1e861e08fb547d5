/-
This file takes parts out of JSON documents for readers that ask for what they need: members by
key, where a missing member and one that is null are the same, and values of each kind.
-/

import ServiceDiscovery.Json.Value

namespace ServiceDiscovery.Json

/-- The member with the given key, null or not. -/
def member? (value : Json) (key : String) : Option Json :=
  match value with
  | .object members => (members.find? fun member => member.1 == some key).map Prod.snd
  | _ => none

/-- The value, unless it is null. -/
def given? : Json → Option Json
  | .null => none
  | value => some value

/-- The member with the given key, unless it is missing or null. -/
def get? (value : Json) (key : String) : Option Json :=
  (value.member? key).bind given?

/-- A whole number from zero on. -/
def natural? : Json → Option Nat
  | .number value =>
    if value.negative || decide (value.exponent < 0) then none
    else some (value.digits * Nat.pow 10 value.exponent.toNat)
  | _ => none

def text? : Json → Option String
  | .string text => text
  | _ => none

def flag? : Json → Option Bool
  | .bool value => some value
  | _ => none

/-- The items of an array; nothing else has items. -/
def items : Json → List Json
  | .array items => items
  | _ => []

/-- The members of an object with their keys; nothing else has members. -/
def members : Json → List (String × Json)
  | .object members => members.filterMap fun member => member.1.map fun key => (key, member.2)
  | _ => []

end ServiceDiscovery.Json
