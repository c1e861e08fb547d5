/-
This file holds TOML values and how tables grow. A table remembers how it came to be, and that
decides what may still be added: a table in braces is complete, one that a header names is
complete except for tables below it, one that is only on the way of other keys can grow as long
as it is reached in the same manner.
-/

import ServiceDiscovery.Number.Decimal

namespace ServiceDiscovery.Toml

/-- How a table came to be. -/
inductive Origin where
  | inline
  | header
  | implied
  | dotted
  deriving DecidableEq, Repr

/-- A value. Of dates and times only their presence is kept. -/
inductive Value where
  | text (value : String)
  | integer (value : Int)
  | real (value : Double)
  | flag (value : Bool)
  | moment
  | array (items : List Value)
  | table (origin : Origin) (entries : List (String × Value))
  | rows (tables : List (List (String × Value)))

/-- The entries of a table by their keys. -/
abbrev Entries := List (String × Value)

namespace Entries

def get? (entries : Entries) (key : String) : Option Value :=
  (entries.find? fun entry => entry.1 == key).map Prod.snd

/-- The entries with this value for the key. -/
def put (key : String) (value : Value) : Entries → Entries
  | [] => [(key, value)]
  | entry :: others =>
    if entry.1 = key then (key, value) :: others else entry :: put key value others

end Entries

/-- Changes the last of several tables. -/
def changeLast (change : Entries → Option Entries) (tables : List Entries) :
    Option (List Entries) :=
  match tables.getLast? with
  | none => none
  | some last => (change last).map fun changed => tables.dropLast ++ [changed]

/-! ### Dotted keys -/

/-- Dotted keys may reach into a table of this origin, or through it if they do not end there. -/
def Origin.isOpen (origin : Origin) (ends : Bool) : Bool :=
  match origin with
  | .dotted => true
  | .implied => !ends
  | .header | .inline => false

/-- Adds a value under a new key of the table that the steps lead to. -/
def assign (key : String) (value : Value) : List String → Entries → Option Entries
  | [], entries => if (entries.get? key).isSome then none else some (entries ++ [(key, value)])
  | step :: path, entries =>
    match entries.get? step with
    | none =>
      (assign key value path []).map fun inner => entries ++ [(step, .table .dotted inner)]
    | some (.table origin inner) =>
      if origin.isOpen path.isEmpty then
        (assign key value path inner).map fun inner => entries.put step (.table origin inner)
      else none
    | some (.rows tables) =>
      if path.isEmpty then none
      else
        (changeLast (assign key value path) tables).map fun tables => entries.put step (.rows tables)
    | some _ => none

/-- A key with the steps in front of it, and its value. -/
structure Assignment where
  path : List String
  key : String
  value : Value

/-- Makes all assignments in order. -/
def assignAll : List Assignment → Entries → Option Entries
  | [], entries => some entries
  | next :: others, entries => do assignAll others (← assign next.key next.value next.path entries)

/-! ### Headers -/

/-- Changes the table that the steps of a header lead to. -/
def within (change : Entries → Option Entries) : List String → Entries → Option Entries
  | [], entries => change entries
  | step :: path, entries =>
    match entries.get? step with
    | none => (within change path []).map fun inner => entries ++ [(step, .table .implied inner)]
    | some (.table .inline _) => none
    | some (.table origin inner) =>
      (within change path inner).map fun inner => entries.put step (.table origin inner)
    | some (.rows tables) =>
      (changeLast (within change path) tables).map fun tables => entries.put step (.rows tables)
    | some _ => none

/-- Gives a table its own entries. It has to be new, or known only from headers below it. -/
def openTable (key : String) (own : List Assignment) (entries : Entries) : Option Entries :=
  match entries.get? key with
  | none => (assignAll own []).map fun inner => entries ++ [(key, .table .header inner)]
  | some (.table .implied inner) =>
    (assignAll own inner).map fun inner => entries.put key (.table .header inner)
  | some _ => none

/-- Adds a table to the rows under a key, which has to be new or to have rows. -/
def addRow (key : String) (own : List Assignment) (entries : Entries) : Option Entries :=
  match entries.get? key with
  | none => (assignAll own []).map fun row => entries ++ [(key, .rows [row])]
  | some (.rows tables) =>
    (assignAll own []).map fun row => entries.put key (.rows (tables ++ [row]))
  | some _ => none

end ServiceDiscovery.Toml
