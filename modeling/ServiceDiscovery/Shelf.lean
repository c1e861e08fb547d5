/-
This file holds the two containers that registry and cache are built from. A catalog keeps one
entry for each name, in the order in which the names came; a shelf keeps one entry for each
version, oldest version first.
-/

import ServiceDiscovery.Identity

namespace ServiceDiscovery

/-- Entries by version, in ascending order. -/
abbrev Shelf (Entry : Type) := List (Version × Entry)

namespace Shelf

variable {Entry : Type}

def get? (shelf : Shelf Entry) (version : Version) : Option Entry :=
  (shelf.find? fun slot => slot.1 == version).map Prod.snd

/-- The shelf with this entry for the version, in its place. -/
def put (version : Version) (entry : Entry) : Shelf Entry → Shelf Entry
  | [] => [(version, entry)]
  | slot :: others =>
    match version.compare slot.1 with
    | .lt => (version, entry) :: slot :: others
    | .eq => (version, entry) :: others
    | .gt => slot :: put version entry others

def erase (shelf : Shelf Entry) (version : Version) : Shelf Entry :=
  shelf.filter fun slot => slot.1 != version

/-- The versions, newest first. -/
def versions (shelf : Shelf Entry) : List Version :=
  (shelf.map Prod.fst).reverse

end Shelf

/-- Entries by name, in the order of their arrival. -/
abbrev Catalog (Entry : Type) := List (String × Entry)

namespace Catalog

variable {Entry : Type}

def get? (catalog : Catalog Entry) (name : String) : Option Entry :=
  (catalog.find? fun slot => slot.1 == name).map Prod.snd

/-- The catalog with this entry for the name, at the end if the name is new. -/
def put (name : String) (entry : Entry) : Catalog Entry → Catalog Entry
  | [] => [(name, entry)]
  | slot :: others =>
    if slot.1 = name then (name, entry) :: others else slot :: put name entry others

def erase (catalog : Catalog Entry) (name : String) : Catalog Entry :=
  catalog.filter fun slot => slot.1 != name

/-- The catalog with this shelf for the name, or without the name if the shelf is empty. -/
def settle (catalog : Catalog (Shelf Entry)) (name : String) (shelf : Shelf Entry) :
    Catalog (Shelf Entry) :=
  if shelf.isEmpty then erase catalog name else put name shelf catalog

/-- The shelf of a name, empty if there is none. -/
def shelf (catalog : Catalog (Shelf Entry)) (name : String) : Shelf Entry :=
  (get? catalog name).getD []

/-- All entries, name by name and each name by ascending version. -/
def entries (catalog : Catalog (Shelf Entry)) : List Entry :=
  catalog.flatMap fun slot => slot.2.map Prod.snd

/-- The names in the order of their bytes. -/
def sortedNames (catalog : Catalog Entry) : List String :=
  (catalog.map Prod.fst).mergeSort fun first second =>
    (Identity.compareNames first second).isLE

end Catalog

end ServiceDiscovery
