/-
This file decides whether a content type announces JSON: `application/json`, or any application
type with the suffix `json`, in either case. Parameters are allowed but have to be well formed.
-/

namespace ServiceDiscovery.Http.MediaType

/-- The characters of names and of values without quotation marks. -/
def isToken (char : Char) : Bool :=
  char.isAlphanum || "!#$%&+-.^_|~".toList.contains char || char.toNat == 0x27 || char.toNat == 0x60

/-- The characters between quotation marks. -/
def isQuotable (char : Char) : Bool :=
  0x20 ≤ char.toNat && char.toNat != 0x7F

/-- The characters that a header value may have to be looked at as text. -/
def isVisible (char : Char) : Bool :=
  char == '\t' || (0x20 ≤ char.toNat && char.toNat < 0x7F)

/-! ### Parameters -/

/-- Where a reader of parameters stands. -/
inductive Place where
  | between
  | name
  | valueStart
  | value
  | quotedStart
  | quoted
  | afterQuoted
  deriving DecidableEq, Repr

namespace Place

/-- The place after one more character, unless the character cannot stand there. The first
character between quotation marks is taken as it is, even if it is one of them. -/
def step (place : Place) (char : Char) : Option Place :=
  match place with
  | .between => if char = ' ' then some .between else if isToken char then some .name else none
  | .name => if char = '=' then some .valueStart else if isToken char then some .name else none
  | .valueStart =>
    if char = '"' then some .quotedStart else if isToken char then some .value else none
  | .value => if char = ';' then some .between else if isToken char then some .value else none
  | .quotedStart => if isQuotable char then some .quoted else none
  | .quoted =>
    if char = '"' then some .afterQuoted else if isQuotable char then some .quoted else none
  | .afterQuoted =>
    if char = ';' then some .between else if char = ' ' then some .afterQuoted else none

/-- The parameters may end here. -/
def isEnd : Place → Bool
  | .between | .valueStart | .value | .afterQuoted => true
  | .name | .quotedStart | .quoted => false

end Place

/-- The text is a list of well-formed parameters. -/
def areParameters (text : List Char) : Bool :=
  match text.foldlM Place.step .between with
  | some place => place.isEnd
  | none => false

/-! ### Types -/

/-- The part of a subtype in front of its suffix, and the suffix. A plus sign in front of
everything starts no suffix. -/
def splitSuffix (subtype : List Char) : List Char × Option (List Char) :=
  let suffix := (subtype.reverse.takeWhile fun char => char != '+').reverse
  let front := subtype.take (subtype.length - suffix.length - 1)
  if front.isEmpty then (subtype, none) else (front, some suffix)

/-- The subtype, or its suffix, is that of JSON. -/
def isJsonSubtype (subtype : List Char) : Bool :=
  match splitSuffix (subtype.map Char.toLower) with
  | (front, suffix) => front == "json".toList || suffix == some "json".toList

/-- The text after the first occurrence of a character, if there is one. -/
def after? (mark : Char) (text : List Char) : Option (List Char) :=
  match text.dropWhile fun char => char != mark with
  | _ :: rest => some rest
  | [] => none

/-- The content type announces JSON. -/
def announcesJson (contentType : String) : Bool :=
  let text := contentType.toList
  let kind := text.takeWhile fun char => char != '/'
  match after? '/' text with
  | none => false
  | some rest =>
    let subtype := rest.takeWhile fun char => char != ';'
    text.all isVisible && kind.map Char.toLower == "application".toList &&
      subtype.all isToken && isJsonSubtype subtype && areParameters ((after? ';' rest).getD [])

end ServiceDiscovery.Http.MediaType
