/-
This file reads TOML documents. A document is a sequence of statements, one to a line:
assignments, and the headers of tables and of rows, to which the assignments that follow them
belong. Values can nest, but not too deeply.
-/

import ServiceDiscovery.Toml.Moment
import ServiceDiscovery.Toml.Number

namespace ServiceDiscovery.Toml

/-! ### Values -/

/-- The words for the two flags. -/
def flag : Reader Value
  | 't' :: 'r' :: 'u' :: 'e' :: rest => some (.flag true, rest)
  | 'f' :: 'a' :: 'l' :: 's' :: 'e' :: rest => some (.flag false, rest)
  | _ => none

/-- A date, a time or a number. -/
def momentOrNumber : Reader Value := fun text =>
  match Moment.moment? text with
  | some rest => some (.moment, rest)
  | none => number text

/-- A value that has no parts. -/
def scalar : Reader Value := fun text =>
  match text with
  | [] => none
  | char :: _ =>
    if char = '"' ∨ char = apostrophe then
      (string text).map fun result => (.text result.1, result.2)
    else if char = 't' ∨ char = 'f' then flag text
    else momentOrNumber text

/-- The items of an array up to its end, with commas in between and perhaps one at the end. -/
def items (value : Reader Value) : Nat → Reader (List Value)
  | 0, _ => none
  | fuel + 1, text => do
    match ← skipGaps text with
    | ']' :: rest => some ([], rest)
    | text =>
      let (item, rest) ← value text
      match ← skipGaps rest with
      | ',' :: rest =>
        let (others, rest) ← items value fuel rest
        some (item :: others, rest)
      | ']' :: rest => some ([item], rest)
      | _ => none

/-- A key, an equals sign and a value. -/
def assignment (value : Reader Value) : Reader Assignment := fun text => do
  let ((path, last), rest) ← key text
  match rest with
  | '=' :: rest =>
    let (found, rest) ← value (skipSpaces rest)
    some (⟨path, last, found⟩, rest)
  | _ => none

/-- The assignments in braces up to the end, with commas in between. -/
def members (value : Reader Value) : Nat → Reader (List Assignment)
  | 0, _ => none
  | fuel + 1, text => do
    let (next, rest) ← assignment value text
    match skipSpaces rest with
    | ',' :: rest =>
      let (others, rest) ← members value fuel rest
      some (next :: others, rest)
    | '\x7d' :: rest => some ([next], rest)
    | _ => none

/-- A table in braces, after the opening one. -/
def inlineTable (value : Reader Value) : Reader Value := fun text =>
  match skipSpaces text with
  | '\x7d' :: rest => some (.table .inline [], rest)
  | _ => do
    let (assignments, rest) ← members value (text.length + 1) text
    let entries ← assignAll assignments []
    some (.table .inline entries, rest)

/-- A value that nests no deeper than a number of levels. -/
def value : Nat → Reader Value
  | 0, text => scalar text
  | depth + 1, text =>
    match text with
    | '[' :: rest =>
      (items (value depth) (rest.length + 1) rest).map fun result => (.array result.1, result.2)
    | '\x7b' :: rest => inlineTable (value depth) rest
    | _ => scalar text

/-! ### Statements -/

/-- A line that says something. -/
inductive Statement where
  | assign (assignment : Assignment)
  | table (path : List String) (key : String)
  | row (path : List String) (key : String)

/-- The header of a table, after its opening bracket. -/
def tableHeader : Reader Statement := fun text => do
  match ← key text with
  | ((path, last), ']' :: rest) => some (.table path last, rest)
  | _ => none

/-- The header of a row, after its opening brackets. -/
def rowHeader : Reader Statement := fun text => do
  match ← key text with
  | ((path, last), ']' :: ']' :: rest) => some (.row path last, rest)
  | _ => none

def statement : Reader Statement
  | '[' :: '[' :: rest => rowHeader rest
  | '[' :: rest => tableHeader rest
  | text =>
    (assignment (value (nestingLimit - 1)) text).map fun result => (.assign result.1, result.2)

/-- The line says nothing. -/
def isBlankLine (text : List Char) : Bool :=
  match skipSpaces text with
  | [] => true
  | char :: _ => char == '#' || char == '\n' || char == '\r'

/-- The statements of a document, line by line. The fuel bounds the number of lines. -/
def statements : Nat → List Char → Option (List Statement)
  | _, [] => some []
  | 0, _ :: _ => none
  | fuel + 1, text => do
    if isBlankLine text then statements fuel (← endOfLine? text)
    else
      let (next, rest) ← statement (skipSpaces text)
      let others ← statements fuel (← endOfLine? rest)
      some (next :: others)

/-! ### Documents -/

/-- A header with the assignments that belong to it. -/
structure Section where
  isRow : Bool
  path : List String
  key : String
  own : List Assignment

/-- The assignments in front of every header, and the sections. -/
def sections : List Statement → List Assignment × List Section
  | [] => ([], [])
  | .assign next :: others => (next :: (sections others).1, (sections others).2)
  | .table path key :: others => ([], ⟨false, path, key, (sections others).1⟩ :: (sections others).2)
  | .row path key :: others => ([], ⟨true, path, key, (sections others).1⟩ :: (sections others).2)

/-- The document with one more section. -/
def addSection (entries : Entries) (next : Section) : Option Entries :=
  within (if next.isRow then addRow next.key next.own else openTable next.key next.own) next.path
    entries

/-- The entries that statements make. -/
def assemble (statements : List Statement) : Option Entries := do
  (sections statements).2.foldlM addSection (← assignAll (sections statements).1 [])

/-- The text without a byte order mark. -/
def withoutMark : List Char → List Char
  | '\ufeff' :: rest => rest
  | text => text

/-- The entries of a document. -/
def read (text : List Char) : Option Entries := do
  assemble (← statements (text.length + 1) (withoutMark text))

end ServiceDiscovery.Toml
