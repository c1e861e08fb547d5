/-
This file proves that versions and constraints are read back from the text that they are
written as. A written component has digits only, so the dots between the components are the
only places where the text splits, there is no white space for the reader to take off, and the
sign in front of a constraint cannot be taken for a part of its first component.
-/

import ServiceDiscovery.Constraint

namespace ServiceDiscovery

namespace Text

/-! ### Splitting and trimming -/

/-- A text whose characters all stay is not trimmed. -/
theorem trim_of_unblank {text : List Char} (unblank : ∀ char ∈ text, isBlank char = false) :
    trim text = text := by
  have keeps : ∀ {chars : List Char}, (∀ char ∈ chars, isBlank char = false) →
      chars.dropWhile isBlank = chars := by
    intro chars unblank
    cases chars with
    | nil => rfl
    | cons first rest => simp [unblank first List.mem_cons_self]
  unfold trim
  rw [keeps unblank, keeps fun char member => unblank char (List.mem_reverse.mp member),
    List.reverse_reverse]

theorem pieces_of_not_mem {separator : Char} {text : List Char} (absent : separator ∉ text) :
    pieces separator text = [text] := by
  induction text with
  | nil => rfl
  | cons char rest inductionHypothesis =>
    rw [List.mem_cons, not_or] at absent
    unfold pieces
    rw [if_neg (Ne.symm absent.1), inductionHypothesis absent.2]

theorem pieces_append {separator : Char} {piece : List Char} (absent : separator ∉ piece)
    (text : List Char) :
    pieces separator (piece ++ separator :: text) = piece :: pieces separator text := by
  induction piece with
  | nil => simp [pieces]
  | cons char rest inductionHypothesis =>
    rw [List.mem_cons, not_or] at absent
    rw [List.cons_append, pieces, if_neg (Ne.symm absent.1), inductionHypothesis absent.2]

/-! ### Written numbers -/

theorem isDigit_digitChar {value : Nat} (small : value < 10) :
    isDigit (digitChar value) = true := by
  rw [isDigit, digitValue_digitChar small, Option.isSome_some]

theorem isDigit_of_mem_decimal (value : Nat) : ∀ char ∈ decimal value, isDigit char = true := by
  intro char member
  rw [decimal] at member
  split at member
  · rename_i small
    rw [List.mem_singleton.mp member]
    exact isDigit_digitChar small
  · have smaller : value / 10 < value := by omega
    rcases List.mem_append.mp member with front | back
    · exact isDigit_of_mem_decimal (value / 10) char front
    · rw [List.mem_singleton.mp back]
      exact isDigit_digitChar (Nat.mod_lt value (by decide))
termination_by value

theorem isBlank_of_isDigit {char : Char} (digit : isDigit char = true) : isBlank char = false := by
  simp only [isDigit, digitValue?] at digit
  split at digit
  · simp only [isBlank, Bool.or_eq_false_iff, Bool.and_eq_false_iff, decide_eq_false_iff_not,
      beq_eq_false_iff_ne]
    omega
  · exact absurd digit (by simp)

/-- A written number is read back by a reader with a limit above it. -/
theorem bounded_decimal {value limit : Nat} (below : value < limit) :
    bounded? limit (decimal value) = some value := by
  have noSign : ∀ rest, decimal value ≠ '+' :: rest := by
    intro rest same
    have digit := isDigit_of_mem_decimal value '+' (by rw [same]; exact List.mem_cons_self)
    exact absurd digit (by decide)
  unfold bounded?
  split
  · rename_i rest found
    exact absurd found (noSign rest)
  · simp only [natural_decimal, if_pos below]

theorem decimal_injective : Function.Injective decimal := fun first second same =>
  Option.some.inj ((natural_decimal first).symm.trans ((congrArg natural? same).trans
    (natural_decimal second)))

end Text

namespace Components

/-- A character of written components. -/
def isWritten (char : Char) : Bool :=
  Text.isDigit char || char == '.'

theorem isWritten_of_mem_toChars (components : Components) :
    ∀ char ∈ components.toChars, isWritten char = true := by
  have number : ∀ value : Nat, ∀ char ∈ Text.decimal value, isWritten char = true := by
    intro value char member
    rw [isWritten, Text.isDigit_of_mem_decimal value char member, Bool.true_or]
  intro char member
  cases components with
  | one major => exact number _ char member
  | two major minor =>
    simp only [toChars, List.mem_append, List.mem_cons] at member
    rcases member with front | rfl | back
    · exact number _ char front
    · decide
    · exact number _ char back
  | three major minor patch =>
    simp only [toChars, List.mem_append, List.mem_cons] at member
    rcases member with (front | rfl | middle) | rfl | back
    · exact number _ char front
    · decide
    · exact number _ char middle
    · decide
    · exact number _ char back

theorem isBlank_of_isWritten {char : Char} (written : isWritten char = true) :
    Text.isBlank char = false := by
  rw [isWritten, Bool.or_eq_true, beq_iff_eq] at written
  rcases written with digit | rfl
  · exact Text.isBlank_of_isDigit digit
  · decide

theorem trim_toChars (components : Components) :
    Text.trim components.toChars = components.toChars :=
  Text.trim_of_unblank fun char member =>
    isBlank_of_isWritten (isWritten_of_mem_toChars components char member)

theorem toChars_ne_nil (components : Components) : components.toChars ≠ [] := by
  cases components with
  | one major => exact Text.decimal_ne_nil _
  | two major minor => simp [toChars]
  | three major minor patch => simp [toChars]

theorem dot_not_mem_decimal (value : Nat) : '.' ∉ Text.decimal value := fun member =>
  absurd (Text.isDigit_of_mem_decimal value '.' member) (by decide)

theorem readOne_decimal (component : UInt32) :
    readOne (Text.decimal component.toNat) = .ok component := by
  rw [readOne, Text.bounded_decimal component.toNat_lt]
  simp

/-- Components are read back from what they are written as. -/
theorem ofChars_toChars (components : Components) :
    ofChars components.toChars = .ok components := by
  have nonempty : components.toChars.isEmpty = false := by
    simp [toChars_ne_nil components]
  simp only [ofChars, trim_toChars, nonempty, Bool.false_eq_true, if_false]
  cases components with
  | one major =>
    rw [toChars, Text.pieces_of_not_mem (dot_not_mem_decimal _)]
    simp [readAll, readOne_decimal, bind, Except.bind]
  | two major minor =>
    rw [toChars, Text.pieces_append (dot_not_mem_decimal _),
      Text.pieces_of_not_mem (dot_not_mem_decimal _)]
    simp [readAll, readOne_decimal, bind, Except.bind]
  | three major minor patch =>
    rw [toChars, List.append_assoc, List.cons_append, Text.pieces_append (dot_not_mem_decimal _),
      Text.pieces_append (dot_not_mem_decimal _), Text.pieces_of_not_mem (dot_not_mem_decimal _)]
    simp [readAll, readOne_decimal, bind, Except.bind]

end Components

namespace Version

theorem ofChars_toChars (version : Version) : ofChars version.toChars = .ok version := by
  unfold ofChars toChars
  rw [Components.ofChars_toChars]
  rfl

theorem parse_display (version : Version) : parse version.display = .ok version := by
  rw [parse, display, String.toList_ofList, ofChars_toChars]

end Version

namespace Constraint

theorem trim_sign (sign : Char) (unblank : Text.isBlank sign = false) (version : Version) :
    Text.trim (sign :: version.toChars) = sign :: version.toChars := by
  refine Text.trim_of_unblank fun char member => ?_
  rcases List.mem_cons.mp member with rfl | member
  · exact unblank
  · exact Components.isBlank_of_isWritten
      (Components.isWritten_of_mem_toChars version.components char member)

theorem ofChars_toChars (constraint : Constraint) :
    ofChars constraint.toChars = .ok constraint := by
  cases constraint with
  | any => rfl
  | matching given =>
    have noSign : ∀ {sign : Char} {rest : List Char}, Components.isWritten sign = false →
        given.toChars ≠ sign :: rest := by
      intro sign rest unwritten same
      have written := Components.isWritten_of_mem_toChars given sign
        (by rw [same]; exact List.mem_cons_self)
      rw [written] at unwritten
      exact Bool.noConfusion unwritten
    unfold ofChars toChars
    rw [Components.trim_toChars]
    split
    · rename_i found
      exact absurd found (noSign (by decide))
    · rename_i rest found
      exact absurd found (noSign (by decide))
    · rename_i rest found
      exact absurd found (noSign (by decide))
    · rw [Components.ofChars_toChars]
      rfl
  | caret base =>
    rw [ofChars, toChars, trim_sign '^' (by decide) base]
    show (Version.ofChars base.toChars).map caret = _
    rw [Version.ofChars_toChars]
    rfl
  | exact version =>
    rw [ofChars, toChars, trim_sign '=' (by decide) version]
    show (Version.ofChars version.toChars).map exact = _
    rw [Version.ofChars_toChars]
    rfl

/-- A constraint is read back from its text. -/
theorem parse_display (constraint : Constraint) : parse constraint.display = .ok constraint := by
  rw [parse, display, String.toList_ofList, ofChars_toChars]

end Constraint

end ServiceDiscovery
