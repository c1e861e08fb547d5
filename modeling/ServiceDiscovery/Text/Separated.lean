/-
This file splits a text at a separator. A text without the separator is one piece, so there
is always at least one piece, and joining the pieces with the separator gives the text back.
-/

namespace ServiceDiscovery.Text

/-- The pieces of a text between the separators. -/
def pieces (separator : Char) : List Char → List (List Char)
  | [] => [[]]
  | char :: rest =>
    if char = separator then
      [] :: pieces separator rest
    else
      match pieces separator rest with
      | [] => [[char]]
      | piece :: others => (char :: piece) :: others

/-- Pieces written one after the other with the separator in between. -/
def joined (separator : Char) : List (List Char) → List Char
  | [] => []
  | [piece] => piece
  | piece :: next :: others => piece ++ separator :: joined separator (next :: others)

theorem pieces_ne_nil (separator : Char) (text : List Char) : pieces separator text ≠ [] := by
  cases text with
  | nil => simp [pieces]
  | cons char rest =>
    unfold pieces
    split
    · simp
    · split <;> simp

theorem joined_cons (separator : Char) (piece : List Char) {others : List (List Char)}
    (nonempty : others ≠ []) :
    joined separator (piece :: others) = piece ++ separator :: joined separator others := by
  cases others with
  | nil => exact absurd rfl nonempty
  | cons next others => rfl

theorem joined_pieces (separator : Char) (text : List Char) :
    joined separator (pieces separator text) = text := by
  induction text with
  | nil => rfl
  | cons char rest inductionHypothesis =>
    unfold pieces
    split
    · rename_i same
      rw [joined_cons _ _ (pieces_ne_nil separator rest), inductionHypothesis, same]
      rfl
    · split
      · rename_i empty
        exact absurd empty (pieces_ne_nil separator rest)
      · rename_i piece others found
        rw [found] at inductionHypothesis
        cases others with
        | nil => simpa [joined] using inductionHypothesis
        | cons next others =>
          simpa [joined] using inductionHypothesis

end ServiceDiscovery.Text
