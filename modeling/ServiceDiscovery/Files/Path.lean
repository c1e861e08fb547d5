/-
This file holds paths of files. A path is absolute or starts at the working directory, and its
pieces lead down, stay, or lead up. A path is resolved piece by piece, so two pieces that cancel
out on paper need not do so on a disk.
-/

import ServiceDiscovery.Text.Separated
import ServiceDiscovery.Text.Utf8

namespace ServiceDiscovery

/-- A path as it is written: what stands between the slashes. -/
structure Path where
  isAbsolute : Bool
  pieces : List String
  deriving DecidableEq, Repr

namespace Path

def ofText (text : String) : Path :=
  match (Text.pieces '/' text.toList).map String.ofList with
  | "" :: next :: others => ⟨true, next :: others⟩
  | pieces => ⟨false, pieces⟩

/-- The path that names nothing. -/
def isEmpty (path : Path) : Bool :=
  !path.isAbsolute && (path.pieces == [""] || path.pieces.isEmpty)

/-- The piece leads nowhere. -/
def isIdle (piece : String) : Bool :=
  piece == "" || piece == "."

/-- The pieces that lead somewhere. A point at the start of a path that is not absolute is one
of them. -/
def steps (path : Path) : List String :=
  match path.isAbsolute, path.pieces with
  | false, "." :: others => "." :: others.filter fun piece => !isIdle piece
  | _, pieces => pieces.filter fun piece => !isIdle piece

/-- The path without its last step, if it has one. -/
def parent? (path : Path) : Option Path :=
  if path.steps.isEmpty then none else some ⟨path.isAbsolute, path.steps.dropLast⟩

/-- The number of bytes of a path. -/
def size (path : Path) : Nat :=
  path.pieces.foldr (fun piece count => (Utf8.encode piece).length + 1 + count) 0 +
    (if path.isAbsolute then 1 else 0) - 1

/-- A text for the path below another one. -/
def join (base name : String) : String :=
  match base.toList.getLast? with
  | none => name
  | some last => if last = '/' then base ++ name else base ++ "/" ++ name

end Path

end ServiceDiscovery
