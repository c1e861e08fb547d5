/-
This file takes values of known types out of JSON. A fault says whether the text was not JSON
at that place or the value there was not the expected one; values are looked at in the order of
the text, so the first fault in the text is the one reported. A record is an object with its
fields by name, in any order, or an array with its fields in order; members that the record
does not know are skipped, and a field that is given twice is refused.
-/

import ServiceDiscovery.Json.Reader

namespace ServiceDiscovery.Json

/-- What was wrong with a document. -/
inductive Fault where
  | malformed
  | mismatched
  deriving DecidableEq, Repr

mutual

/-- The value is JSON to its end. -/
def isWhole : Json → Bool
  | .null | .bool _ | .number _ | .string _ => true
  | .array items => areWholeItems items
  | .object members => areWholeMembers members
  | .broken => false

def areWholeItems : List Json → Bool
  | [] => true
  | item :: others => isWhole item && areWholeItems others

def areWholeMembers : List (Option String × Json) → Bool
  | [] => true
  | (_, value) :: others => isWhole value && areWholeMembers others

end

mutual

/-- The value can be kept as it is: it is JSON to its end, its strings denote texts, its
numbers are in the range of doubles, and it nests no deeper than the given depth. -/
def isStorable : Nat → Json → Bool
  | _, .null | _, .bool _ => true
  | _, .number value => !value.overflows
  | _, .string text => text.isSome
  | depth, .array items => 0 < depth && areStorableItems (depth - 1) items
  | depth, .object members => 0 < depth && areStorableMembers (depth - 1) members
  | _, .broken => false

def areStorableItems : Nat → List Json → Bool
  | _, [] => true
  | depth, item :: others => isStorable depth item && areStorableItems depth others

def areStorableMembers : Nat → List (Option String × Json) → Bool
  | _, [] => true
  | depth, (key, value) :: others =>
    key.isSome && isStorable depth value && areStorableMembers depth others

end

/-- The fault of a value of the wrong kind. One that is no value at all is malformed. -/
def fault : Json → Fault
  | .broken | .string none => .malformed
  | .number value => if value.overflows then .malformed else .mismatched
  | _ => .mismatched

def asText : Json → Except Fault String
  | .string (some text) => .ok text
  | other => .error other.fault

def asFlag : Json → Except Fault Bool
  | .bool value => .ok value
  | other => .error other.fault

/-- A text in the form that a parser accepts. -/
def asParsed {Problem Result : Type} (parse : String → Except Problem Result) (value : Json) :
    Except Fault Result := do
  match parse (← asText value) with
  | .ok result => .ok result
  | .error _ => .error .mismatched

/-! ### Records -/

/-- A field takes its first value and refuses another. -/
def fill {Field : Type} (slot : Option Field) (read : Json → Except Fault Field) (value : Json) :
    Except Fault (Option Field) :=
  match slot with
  | some _ => .error .mismatched
  | none => (read value).map some

def required {Field : Type} : Option Field → Except Fault Field
  | some value => .ok value
  | none => .error .mismatched

/-- A member that the record does not know only has to be JSON. -/
def skipping {Draft : Type} (draft : Draft) (value : Json) : Except Fault Draft :=
  if value.isWhole then .ok draft else .error .malformed

/-- Takes the members one by one; a key that denotes no text is malformed. -/
def foldMembers {Draft : Type} (step : Draft → String → Json → Except Fault Draft) :
    Draft → List (Option String × Json) → Except Fault Draft
  | draft, [] => .ok draft
  | _, (none, _) :: _ => .error .malformed
  | draft, (some key, value) :: others => do
    foldMembers step (← step draft key value) others

/-- The first item of an array, and the others. -/
def firstItem {Field : Type} (read : Json → Except Fault Field) :
    List Json → Except Fault (Field × List Json)
  | [] => .error .mismatched
  | item :: others => do .ok (← read item, others)

/-- The first item of an array, or the default if there are no more. -/
def firstItemOr {Field : Type} (default : Field) (read : Json → Except Fault Field) :
    List Json → Except Fault (Field × List Json)
  | [] => .ok (default, [])
  | items => firstItem read items

/-- Items after the last field are no part of a record. -/
def noMoreItems : List Json → Except Fault Unit
  | [] => .ok ()
  | _ :: _ => .error .malformed

/-- A record from either of its two forms. -/
def asRecord {Draft Result : Type} (empty : Draft)
    (member : Draft → String → Json → Except Fault Draft) (finish : Draft → Except Fault Result)
    (row : List Json → Except Fault Result) : Json → Except Fault Result
  | .object members => do finish (← foldMembers member empty members)
  | .array items => row items
  | other => .error other.fault

/-- A result from a whole document: nothing but white space may follow the value. -/
def Document.decode {Result : Type} (document : Document) (read : Json → Except Fault Result) :
    Except Fault Result := do
  let result ← read document.root
  if document.ended then .ok result else .error .malformed

end ServiceDiscovery.Json
