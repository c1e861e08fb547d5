/-
This file proves which texts name versions and constraints, and what is wrong with the others.
Without the white space at its ends a text splits at its dots in exactly one way, and each part
is a component or is none. Hence every text has one reading: there is nothing in it, or one part
is the first bad one, or there are too many parts, or they are the components that are given. A
constraint is a star, a sign with a version behind it, or components without a sign.
-/

import Mathlib.Data.List.DropRight
import Mathlib.Data.List.Forall2
import Mathlib.Data.Nat.Digits.Defs
import ServiceDiscovery.Proofs.VersionText

namespace ServiceDiscovery

namespace Text

/-! ### White space at the ends -/

/-- The code points of white space. -/
def whiteSpace : List Nat :=
  [0x09, 0x0A, 0x0B, 0x0C, 0x0D, 0x20, 0x85, 0xA0, 0x1680, 0x2000, 0x2001, 0x2002, 0x2003, 0x2004,
    0x2005, 0x2006, 0x2007, 0x2008, 0x2009, 0x200A, 0x2028, 0x2029, 0x202F, 0x205F, 0x3000]

theorem isBlank_iff {char : Char} : isBlank char = true ↔ char.toNat ∈ whiteSpace := by
  simp only [isBlank, whiteSpace, Bool.or_eq_true, Bool.and_eq_true, beq_iff_eq,
    decide_eq_true_eq, List.mem_cons, List.not_mem_nil, or_false]
  omega

/-- What a text is without the white space at its ends. -/
structure IsStripped (text stripped : List Char) : Prop where
  within : ∃ front back, text = front ++ stripped ++ back ∧
    (∀ char ∈ front, isBlank char = true) ∧ ∀ char ∈ back, isBlank char = true
  first : ∀ char ∈ stripped.head?, isBlank char = false
  last : ∀ char ∈ stripped.getLast?, isBlank char = false

theorem trim_eq (text : List Char) : trim text = (text.dropWhile isBlank).rdropWhile isBlank :=
  rfl

theorem isStripped_trim (text : List Char) : IsStripped text (trim text) := by
  rw [trim_eq]
  have rest : (text.dropWhile isBlank).rdropWhile isBlank ++
      (text.dropWhile isBlank).rtakeWhile isBlank = text.dropWhile isBlank :=
    List.rdropWhile_append_rtakeWhile
  refine ⟨⟨text.takeWhile isBlank, (text.dropWhile isBlank).rtakeWhile isBlank, ?_,
    fun _ => List.mem_takeWhile_imp, fun _ => List.mem_rtakeWhile_imp⟩, fun char first => ?_,
    fun char last => ?_⟩
  · rw [List.append_assoc, rest, List.takeWhile_append_dropWhile]
  · have start : (text.dropWhile isBlank).head? = some char := by
      rw [← rest, List.head?_append, Option.mem_def.mp first, Option.some_or]
    have unblank := List.head?_dropWhile_not isBlank text
    rwa [start] at unblank
  · obtain ⟨nonempty, rfl⟩ := List.mem_getLast?_eq_getLast last
    exact Bool.eq_false_of_not_eq_true (List.rdropWhile_last_not isBlank _ nonempty)

/-- There is only one way to take off the white space. -/
theorem IsStripped.trim_eq {text stripped : List Char} (strips : IsStripped text stripped) :
    trim text = stripped := by
  obtain ⟨⟨front, back, rfl, frontBlank, backBlank⟩, first, last⟩ := strips
  rw [Text.trim_eq, List.append_assoc, List.dropWhile_append_of_pos frontBlank]
  cases stripped with
  | nil =>
    have nothing : back.dropWhile isBlank = [] := List.dropWhile_eq_nil_iff.mpr backBlank
    rw [List.nil_append, nothing, List.rdropWhile_nil]
  | cons head tail =>
    have stays : (head :: tail).rdropWhile isBlank = head :: tail := by
      refine List.rdropWhile_eq_self_iff.mpr fun nonempty blank => ?_
      rw [last _ (List.getLast?_eq_some_getLast nonempty)] at blank
      exact Bool.false_ne_true blank
    rw [List.cons_append, List.dropWhile_cons_of_neg (by simp [first head rfl]),
      ← List.cons_append, List.rdropWhile, List.reverse_append,
      List.dropWhile_append_of_pos fun char member => backBlank char (List.mem_reverse.mp member)]
    exact stays

/-! ### Parts between separators -/

/-- The parts of a text around its separators. -/
structure IsSplit (separator : Char) (text : List Char) (parts : List (List Char)) : Prop where
  nonempty : parts ≠ []
  whole : ∀ part ∈ parts, separator ∉ part
  joined : [separator].intercalate parts = text

theorem not_mem_of_mem_pieces {separator : Char} {text part : List Char}
    (member : part ∈ pieces separator text) : separator ∉ part := by
  induction text generalizing part with
  | nil =>
    rw [List.mem_singleton.mp member]
    exact List.not_mem_nil
  | cons char rest inductionHypothesis =>
    unfold pieces at member
    split at member
    · rcases List.mem_cons.mp member with rfl | later
      · exact List.not_mem_nil
      · exact inductionHypothesis later
    · rename_i other
      split at member
      · rename_i impossible
        exact absurd impossible (pieces_ne_nil separator rest)
      · rename_i piece others found
        rw [found] at inductionHypothesis
        rcases List.mem_cons.mp member with rfl | later
        · exact List.not_mem_cons_of_ne_of_not_mem (Ne.symm other)
            (inductionHypothesis List.mem_cons_self)
        · exact inductionHypothesis (List.mem_cons_of_mem _ later)

theorem joined_eq_intercalate (separator : Char) (parts : List (List Char)) :
    joined separator parts = [separator].intercalate parts := by
  induction parts with
  | nil => rfl
  | cons part others inductionHypothesis =>
    cases others with
    | nil => simp [joined]
    | cons next others =>
      rw [joined, inductionHypothesis, List.intercalate_cons_cons, List.append_assoc]
      rfl

/-- There is exactly one way to split a text. -/
theorem pieces_eq_iff {separator : Char} {text : List Char} {parts : List (List Char)} :
    pieces separator text = parts ↔ IsSplit separator text parts := by
  constructor
  · rintro rfl
    refine ⟨pieces_ne_nil separator text, fun part => not_mem_of_mem_pieces, ?_⟩
    rw [← joined_eq_intercalate, joined_pieces]
  · rintro ⟨nonempty, whole, rfl⟩
    induction parts with
    | nil => exact absurd rfl nonempty
    | cons part others inductionHypothesis =>
      obtain ⟨own, rest⟩ := List.forall_mem_cons.mp whole
      cases others with
      | nil => rw [List.intercalate_singleton, pieces_of_not_mem own]
      | cons next others =>
        rw [List.intercalate_cons_cons, List.append_assoc, List.singleton_append,
          pieces_append own, inductionHypothesis (List.cons_ne_nil _ _) rest]

/-! ### Numerals -/

/-- The number that digits stand for, the most significant one first. -/
def numeral (digits : List Char) : Nat :=
  Nat.ofDigits 10 (digits.reverse.map fun char => char.toNat - '0'.toNat)

theorem numeral_cons (char : Char) (digits : List Char) :
    numeral (char :: digits) =
      (char.toNat - '0'.toNat) * 10 ^ digits.length + numeral digits := by
  rw [numeral, List.reverse_cons, List.map_append, Nat.ofDigits_append, List.map_singleton,
    Nat.ofDigits_singleton, List.length_map, List.length_reverse, numeral]
  ring

theorem digitValue_eq_some_iff {char : Char} {value : Nat} :
    digitValue? char = some value ↔ char.isDigit = true ∧ char.toNat - '0'.toNat = value := by
  have digit : char.isDigit = true ↔ 0x30 ≤ char.toNat ∧ char.toNat ≤ 0x39 := by
    rw [Char.isDigit, Bool.and_eq_true, decide_eq_true_iff, decide_eq_true_iff]
    rfl
  unfold digitValue?
  rw [digit, Option.ite_none_right_eq_some, Option.some.injEq]
  rfl

theorem digitsFrom_eq_some_iff {value result : Nat} {digits : List Char} :
    digitsFrom? value digits = some result ↔
      (∀ char ∈ digits, char.isDigit = true) ∧
        value * 10 ^ digits.length + numeral digits = result := by
  induction digits generalizing value with
  | nil => simp [digitsFrom?, numeral]
  | cons char rest inductionHypothesis =>
    have moved : (value * 10 + (char.toNat - '0'.toNat)) * 10 ^ rest.length + numeral rest =
        value * 10 ^ (char :: rest).length + numeral (char :: rest) := by
      rw [numeral_cons, List.length_cons]
      ring
    simp only [digitsFrom?, Option.bind_eq_bind, Option.bind_eq_some_iff, digitValue_eq_some_iff,
      inductionHypothesis, List.forall_mem_cons, ← moved]
    constructor
    · rintro ⟨_, ⟨digit, rfl⟩, others, same⟩
      exact ⟨⟨digit, others⟩, same⟩
    · rintro ⟨⟨digit, others⟩, same⟩
      exact ⟨_, ⟨digit, rfl⟩, others, same⟩

/-- A natural number is read from one or more digits. -/
theorem natural_eq_some_iff {text : List Char} {value : Nat} :
    natural? text = some value ↔
      text ≠ [] ∧ (∀ char ∈ text, char.isDigit = true) ∧ numeral text = value := by
  cases text with
  | nil => exact iff_of_false nofun fun given => given.1 rfl
  | cons char rest =>
    simp only [natural?, Option.bind_eq_bind, Option.bind_eq_some_iff, digitValue_eq_some_iff,
      digitsFrom_eq_some_iff, List.forall_mem_cons, numeral_cons]
    constructor
    · rintro ⟨_, ⟨digit, rfl⟩, others, same⟩
      exact ⟨List.cons_ne_nil _ _, ⟨digit, others⟩, same⟩
    · rintro ⟨_, ⟨digit, others⟩, same⟩
      exact ⟨_, ⟨digit, rfl⟩, others, same⟩

theorem bounded_plus {limit value : Nat} {digits : List Char} :
    bounded? limit ('+' :: digits) = some value ↔ value < limit ∧ natural? digits = some value := by
  unfold bounded?
  dsimp only
  split
  · rename_i other read
    change natural? digits = some other at read
    rw [read, Option.ite_none_right_eq_some, Option.some.injEq]
    exact and_congr_left fun same => by rw [same]
  · rename_i read
    change natural? digits = none at read
    simp [read]

/-- A text without a sign is read like its digits behind one. -/
theorem bounded_of_unsigned {limit : Nat} {text : List Char}
    (unsigned : ∀ digits, text ≠ '+' :: digits) :
    bounded? limit text = bounded? limit ('+' :: text) := by
  unfold bounded?
  split
  · exact absurd rfl (unsigned _)
  · rfl

/-- The sign is no digit, so it is clear which digits are read. -/
theorem bounded_eq_some_iff {limit value : Nat} {text : List Char} :
    bounded? limit text = some value ↔
      value < limit ∧ ∃ digits, (text = digits ∨ text = '+' :: digits) ∧ digits ≠ [] ∧
        (∀ char ∈ digits, char.isDigit = true) ∧ numeral digits = value := by
  by_cases signed : ∃ digits, text = '+' :: digits
  · obtain ⟨digits, rfl⟩ := signed
    rw [bounded_plus, natural_eq_some_iff]
    refine and_congr_right fun _ => ⟨fun given => ⟨digits, Or.inr rfl, given⟩, ?_⟩
    rintro ⟨others, rfl | same, given⟩
    · exact absurd (given.2.1 '+' List.mem_cons_self) (by decide)
    · rwa [(List.cons.inj same).2]
  · have unsigned : ∀ digits, text ≠ '+' :: digits := not_exists.mp signed
    rw [bounded_of_unsigned unsigned, bounded_plus, natural_eq_some_iff]
    refine and_congr_right fun _ => ⟨fun given => ⟨text, Or.inl rfl, given⟩, ?_⟩
    rintro ⟨others, rfl | same, given⟩
    · exact given
    · exact absurd same (unsigned others)

end Text

/-! ### Components -/

namespace Components

/-- A component: one or more digits, with at most one plus sign in front, for a number of
32 bits. -/
def Denotes (part : List Char) (value : UInt32) : Prop :=
  ∃ digits, (part = digits ∨ part = '+' :: digits) ∧ digits ≠ [] ∧
    (∀ char ∈ digits, char.isDigit = true) ∧ Text.numeral digits = value.toNat

/-- The components that are given. -/
def values : Components → List UInt32
  | .one major => [major]
  | .two major minor => [major, minor]
  | .three major minor patch => [major, minor, patch]

/-- The first of the parts that is no component. -/
def FirstBad (parts : List (List Char)) (bad : List Char) : Prop :=
  ∃ before after, parts = before ++ bad :: after ∧
    (∀ part ∈ before, ∃ value, Denotes part value) ∧ ∀ value, ¬ Denotes bad value

/-- How a text is read: the white space at its ends does not count, and a bad part is reported
even if there are too many parts. -/
inductive Reading (text : List Char) : Except VersionError Components → Prop where
  | blank (stripped : Text.IsStripped text []) : Reading text (.error .empty)
  | garbled {stripped bad : List Char} {parts : List (List Char)}
      (strips : Text.IsStripped text stripped) (nonempty : stripped ≠ [])
      (split : Text.IsSplit '.' stripped parts) (first : FirstBad parts bad) :
      Reading text (.error (.invalidComponent (String.ofList bad)))
  | excessive {stripped : List Char} {parts : List (List Char)} {values : List UInt32}
      (strips : Text.IsStripped text stripped) (split : Text.IsSplit '.' stripped parts)
      (denoted : List.Forall₂ Denotes parts values) (many : 3 < values.length) :
      Reading text (.error (.tooManyComponents (String.ofList stripped)))
  | given {stripped : List Char} {parts : List (List Char)} {components : Components}
      (strips : Text.IsStripped text stripped) (split : Text.IsSplit '.' stripped parts)
      (denoted : List.Forall₂ Denotes parts components.values) : Reading text (.ok components)

theorem readOne_eq_ok_iff {part : List Char} {value : UInt32} :
    readOne part = .ok value ↔ Denotes part value := by
  unfold readOne Denotes
  cases read : Text.bounded? UInt32.size part with
  | none =>
    refine iff_of_false nofun fun denotes => ?_
    rw [Text.bounded_eq_some_iff.mpr ⟨value.toNat_lt, denotes⟩] at read
    cases read
  | some number =>
    obtain ⟨small, denotes⟩ := Text.bounded_eq_some_iff.mp read
    rw [Except.ok.injEq]
    constructor
    · rintro rfl
      rwa [UInt32.toNat_ofNat_of_lt' small]
    · intro other
      have same := Text.bounded_eq_some_iff.mpr ⟨value.toNat_lt, other⟩
      rw [Option.some.inj (read.symm.trans same), UInt32.ofNat_toNat]

theorem readOne_eq_error_iff {part : List Char} {error : VersionError} :
    readOne part = .error error ↔
      (∀ value, ¬ Denotes part value) ∧ error = .invalidComponent (String.ofList part) := by
  simp only [← readOne_eq_ok_iff]
  unfold readOne
  cases Text.bounded? UInt32.size part with
  | none =>
    rw [Except.error.injEq, eq_comm]
    exact (and_iff_right nofun).symm
  | some number => exact iff_of_false nofun fun refused => refused.1 _ rfl

theorem readAll_eq_ok_iff {parts : List (List Char)} {values : List UInt32} :
    readAll parts = .ok values ↔ List.Forall₂ Denotes parts values := by
  induction parts generalizing values with
  | nil => rw [readAll, List.forall₂_nil_left_iff, Except.ok.injEq, eq_comm]
  | cons part others inductionHypothesis =>
    rw [readAll, List.forall₂_cons_left_iff]
    simp only [← readOne_eq_ok_iff, ← inductionHypothesis]
    constructor
    · intro read
      cases own : readOne part with
      | error error =>
        rw [own] at read
        cases read
      | ok value =>
        cases rest : readAll others with
        | error error =>
          rw [own, rest] at read
          cases read
        | ok restValues =>
          rw [own, rest] at read
          exact ⟨value, restValues, rfl, rfl, (Except.ok.inj read).symm⟩
    · rintro ⟨value, rest, own, others, rfl⟩
      rw [own, others]
      rfl

theorem not_firstBad_nil (bad : List Char) : ¬ FirstBad [] bad := by
  rintro ⟨before, after, split, _⟩
  exact absurd split (by simp)

theorem firstBad_cons_iff {part bad : List Char} {others : List (List Char)} :
    FirstBad (part :: others) bad ↔
      (part = bad ∧ ∀ value, ¬ Denotes part value) ∨
        (∃ value, Denotes part value) ∧ FirstBad others bad := by
  constructor
  · rintro ⟨before, after, split, good, unread⟩
    cases before with
    | nil =>
      obtain ⟨rfl, _⟩ := List.cons.inj split
      exact Or.inl ⟨rfl, unread⟩
    | cons first rest =>
      obtain ⟨rfl, rfl⟩ := List.cons.inj split
      obtain ⟨denoted, good⟩ := List.forall_mem_cons.mp good
      exact Or.inr ⟨denoted, rest, after, rfl, good, unread⟩
  · rintro (⟨rfl, unread⟩ | ⟨denoted, before, after, rfl, good, unread⟩)
    · exact ⟨[], others, rfl, List.forall_mem_nil _, unread⟩
    · exact ⟨part :: before, after, rfl, List.forall_mem_cons.mpr ⟨denoted, good⟩, unread⟩

/-- Reading in order stops at the first bad part. -/
theorem readAll_eq_error_iff {parts : List (List Char)} {error : VersionError} :
    readAll parts = .error error ↔
      ∃ bad, FirstBad parts bad ∧ error = .invalidComponent (String.ofList bad) := by
  induction parts with
  | nil =>
    constructor
    · intro impossible
      cases impossible
    · rintro ⟨bad, first, _⟩
      exact absurd first (not_firstBad_nil bad)
  | cons part others inductionHypothesis =>
    rw [readAll]
    simp only [firstBad_cons_iff]
    cases read : readOne part with
    | error refusal =>
      obtain ⟨unread, rfl⟩ := readOne_eq_error_iff.mp read
      constructor
      · rintro ⟨⟩
        exact ⟨part, Or.inl ⟨rfl, unread⟩, rfl⟩
      · rintro ⟨bad, ⟨rfl, _⟩ | ⟨⟨value, denotes⟩, _⟩, rfl⟩
        · rfl
        · exact absurd denotes (unread value)
    | ok value =>
      have denotes := readOne_eq_ok_iff.mp read
      have passed : (do let values ← readAll others; .ok (value :: values)) = Except.error error ↔
          readAll others = .error error := by
        cases readAll others with
        | error refusal => exact Iff.rfl
        | ok rest =>
          constructor
          · intro impossible
            cases impossible
          · intro impossible
            cases impossible
      refine passed.trans (inductionHypothesis.trans ?_)
      refine exists_congr fun bad => and_congr_left fun _ => ?_
      have skipped : ¬ (part = bad ∧ ∀ value, ¬ Denotes part value) := fun own =>
        own.2 value denotes
      exact ((or_iff_right skipped).trans (and_iff_right ⟨value, denotes⟩)).symm

section

variable {text stripped : List Char} {values : List UInt32} {error : VersionError}

theorem ofChars_of_blank (blank : Text.trim text = []) : ofChars text = .error .empty := by
  rw [ofChars, blank]
  rfl

theorem ofChars_of_nonblank (strips : Text.trim text = stripped) (nonempty : stripped ≠ []) :
    ofChars text = (readAll (Text.pieces '.' stripped)).bind fun
      | [major] => .ok (.one major)
      | [major, minor] => .ok (.two major minor)
      | [major, minor, patch] => .ok (.three major minor patch)
      | _ => .error (.tooManyComponents (String.ofList stripped)) := by
  have filled : stripped.isEmpty = false := List.isEmpty_eq_false_iff.mpr nonempty
  simp only [ofChars, strips, filled, Bool.false_eq_true, if_false]
  rfl

/-- The blank text has one part, which is bad. -/
theorem nonempty_of_readAll (read : readAll (Text.pieces '.' stripped) = .ok values) :
    stripped ≠ [] := by
  rintro rfl
  cases read

theorem ofChars_of_error (strips : Text.trim text = stripped) (nonempty : stripped ≠ [])
    (refused : readAll (Text.pieces '.' stripped) = .error error) :
    ofChars text = .error error := by
  rw [ofChars_of_nonblank strips nonempty, refused]
  rfl

theorem ofChars_of_values (strips : Text.trim text = stripped) {components : Components}
    (read : readAll (Text.pieces '.' stripped) = .ok components.values) :
    ofChars text = .ok components := by
  rw [ofChars_of_nonblank strips (nonempty_of_readAll read), read]
  cases components <;> rfl

theorem ofChars_of_many (strips : Text.trim text = stripped)
    (read : readAll (Text.pieces '.' stripped) = .ok values) (many : 3 < values.length) :
    ofChars text = .error (.tooManyComponents (String.ofList stripped)) := by
  rw [ofChars_of_nonblank strips (nonempty_of_readAll read), read]
  match values, many with
  | _ :: _ :: _ :: _ :: _, _ => rfl

end

/-- One to three values are components, more are too many, and there is always one. -/
theorem values_cases {values : List UInt32} (nonempty : values ≠ []) :
    (∃ components : Components, components.values = values) ∨ 3 < values.length :=
  match values with
  | [major] => Or.inl ⟨.one major, rfl⟩
  | [major, minor] => Or.inl ⟨.two major minor, rfl⟩
  | [major, minor, patch] => Or.inl ⟨.three major minor patch, rfl⟩
  | _ :: _ :: _ :: _ :: others => Or.inr (by simp)

theorem reading_ofChars (text : List Char) : Reading text (ofChars text) := by
  have strips := Text.isStripped_trim text
  have split := Text.pieces_eq_iff.mp (Eq.refl (Text.pieces '.' (Text.trim text)))
  by_cases blank : Text.trim text = []
  · rw [ofChars_of_blank blank]
    exact .blank (blank ▸ strips)
  · cases read : readAll (Text.pieces '.' (Text.trim text)) with
    | error error =>
      rw [ofChars_of_error rfl blank read]
      obtain ⟨bad, first, rfl⟩ := readAll_eq_error_iff.mp read
      exact .garbled strips blank split first
    | ok values =>
      have denoted := readAll_eq_ok_iff.mp read
      have nonempty : values ≠ [] := by
        rintro rfl
        exact Text.pieces_ne_nil _ _ (List.forall₂_nil_right_iff.mp denoted)
      rcases values_cases nonempty with ⟨components, rfl⟩ | many
      · rw [ofChars_of_values rfl read]
        exact .given strips split denoted
      · rw [ofChars_of_many rfl read many]
        exact .excessive strips split denoted many

/-- Every text has exactly one reading. -/
theorem ofChars_eq_iff {text : List Char} {result : Except VersionError Components} :
    ofChars text = result ↔ Reading text result := by
  refine ⟨fun same => same ▸ reading_ofChars text, fun reading => ?_⟩
  cases reading with
  | blank stripped => exact ofChars_of_blank stripped.trim_eq
  | garbled strips nonempty split first =>
    refine ofChars_of_error strips.trim_eq nonempty (readAll_eq_error_iff.mpr ⟨_, ?_, rfl⟩)
    rwa [Text.pieces_eq_iff.mpr split]
  | excessive strips split denoted many =>
    refine ofChars_of_many strips.trim_eq ?_ many
    rwa [Text.pieces_eq_iff.mpr split, readAll_eq_ok_iff]
  | given strips split denoted =>
    refine ofChars_of_values strips.trim_eq ?_
    rwa [Text.pieces_eq_iff.mpr split, readAll_eq_ok_iff]

end Components

/-! ### Versions and constraints -/

/-- How a text is read as a version: the components that it does not give are zero. -/
inductive Version.Reading (text : List Char) : Except VersionError Version → Prop where
  | named {components : Components} {version : Version}
      (given : Components.Reading text (.ok components))
      (filled : [version.major, version.minor, version.patch] =
        components.values ++ List.replicate (3 - components.values.length) 0) :
      Reading text (.ok version)
  | refused {error : VersionError} (refusal : Components.Reading text (.error error)) :
      Reading text (.error error)

/-- How a text is read as a constraint. What follows a sign is read as a version, with white space
of its own around it; without a sign the components are those that are given. -/
inductive Constraint.Reading (text : List Char) : Except VersionError Constraint → Prop where
  | any (strips : Text.IsStripped text ['*']) : Reading text (.ok .any)
  | caret {rest : List Char} {result : Except VersionError Version}
      (strips : Text.IsStripped text ('^' :: rest)) (base : Version.Reading rest result) :
      Reading text (result.map .caret)
  | exact {rest : List Char} {result : Except VersionError Version}
      (strips : Text.IsStripped text ('=' :: rest)) (version : Version.Reading rest result) :
      Reading text (result.map .exact)
  | unsigned {stripped : List Char} {result : Except VersionError Components}
      (strips : Text.IsStripped text stripped) (starless : stripped ≠ ['*'])
      (signless : ∀ rest, stripped ≠ '^' :: rest ∧ stripped ≠ '=' :: rest)
      (given : Components.Reading stripped result) :
      Reading text (result.map .matching)

namespace Version

theorem filled_ofComponents (components : Components) :
    [(ofComponents components).major, (ofComponents components).minor,
        (ofComponents components).patch] =
      components.values ++ List.replicate (3 - components.values.length) 0 := by
  cases components <;> rfl

theorem ofComponents_eq_iff {components : Components} {version : Version} :
    ofComponents components = version ↔
      [version.major, version.minor, version.patch] =
        components.values ++ List.replicate (3 - components.values.length) 0 := by
  rw [← filled_ofComponents]
  constructor
  · rintro rfl
    rfl
  · intro same
    obtain ⟨major, minor, patch⟩ := version
    simp only [List.cons.injEq, and_true] at same
    rw [same.1, same.2.1, same.2.2]

/-- Every text has exactly one reading as a version. -/
theorem ofChars_eq_iff {text : List Char} {result : Except VersionError Version} :
    ofChars text = result ↔ Reading text result := by
  constructor
  · rintro rfl
    unfold ofChars
    cases read : Components.ofChars text with
    | error error => exact .refused (Components.ofChars_eq_iff.mp read)
    | ok components =>
      exact .named (Components.ofChars_eq_iff.mp read) (filled_ofComponents components)
  · intro reading
    unfold ofChars
    cases reading with
    | named given filled =>
      rw [Components.ofChars_eq_iff.mpr given, ← ofComponents_eq_iff.mpr filled]
      rfl
    | refused refusal =>
      rw [Components.ofChars_eq_iff.mpr refusal]
      rfl

end Version

namespace Constraint

variable {text stripped rest : List Char}

theorem ofChars_of_star (strips : Text.trim text = ['*']) : ofChars text = .ok .any := by
  rw [ofChars, strips]
  rfl

theorem ofChars_of_caret (strips : Text.trim text = '^' :: rest) :
    ofChars text = (Version.ofChars rest).map .caret := by
  rw [ofChars, strips]
  rfl

theorem ofChars_of_equals (strips : Text.trim text = '=' :: rest) :
    ofChars text = (Version.ofChars rest).map .exact := by
  rw [ofChars, strips]
  rfl

theorem ofChars_of_unsigned (strips : Text.trim text = stripped) (starless : stripped ≠ ['*'])
    (signless : ∀ rest, stripped ≠ '^' :: rest ∧ stripped ≠ '=' :: rest) :
    ofChars text = (Components.ofChars stripped).map .matching := by
  rw [ofChars, strips]
  split
  · exact absurd rfl starless
  · exact absurd rfl (signless _).1
  · exact absurd rfl (signless _).2
  · rfl

/-- Every text has exactly one reading as a constraint. -/
theorem ofChars_eq_iff {result : Except VersionError Constraint} :
    ofChars text = result ↔ Reading text result := by
  constructor
  · rintro rfl
    have strips := Text.isStripped_trim text
    by_cases star : Text.trim text = ['*']
    · rw [ofChars_of_star star]
      exact .any (star ▸ strips)
    by_cases caret : ∃ rest, Text.trim text = '^' :: rest
    · obtain ⟨rest, found⟩ := caret
      rw [ofChars_of_caret found]
      exact .caret (found ▸ strips) (Version.ofChars_eq_iff.mp rfl)
    by_cases equals : ∃ rest, Text.trim text = '=' :: rest
    · obtain ⟨rest, found⟩ := equals
      rw [ofChars_of_equals found]
      exact .exact (found ▸ strips) (Version.ofChars_eq_iff.mp rfl)
    have signless (rest : List Char) :
        Text.trim text ≠ '^' :: rest ∧ Text.trim text ≠ '=' :: rest :=
      ⟨not_exists.mp caret rest, not_exists.mp equals rest⟩
    rw [ofChars_of_unsigned rfl star signless]
    exact .unsigned strips star signless (Components.ofChars_eq_iff.mp rfl)
  · intro reading
    cases reading with
    | any strips => exact ofChars_of_star strips.trim_eq
    | caret strips base =>
      rw [ofChars_of_caret strips.trim_eq, Version.ofChars_eq_iff.mpr base]
    | exact strips version =>
      rw [ofChars_of_equals strips.trim_eq, Version.ofChars_eq_iff.mpr version]
    | unsigned strips starless signless given =>
      rw [ofChars_of_unsigned strips.trim_eq starless signless,
        Components.ofChars_eq_iff.mpr given]

/-- Versions and constraints are read exactly by their grammar. A text names a version if and only
if it is one to three components joined by dots, with white space around them, which is any of 25
characters, and then the version has those components and zeros; otherwise it is refused because it is blank, or because
of its first bad part, or because it has too many parts, in this order. A text states a
constraint by a star, by a version behind a sign, or by the components alone, and is otherwise
refused for the same reasons. -/
theorem parse_grammar (text : String) :
    (∀ char, Text.isBlank char = true ↔ char.toNat ∈ Text.whiteSpace) ∧
      (∀ result, Version.parse text = result ↔ Version.Reading text.toList result) ∧
        ∀ result, parse text = result ↔ Reading text.toList result :=
  ⟨fun _ => Text.isBlank_iff, fun _ => Version.ofChars_eq_iff, fun _ => ofChars_eq_iff⟩

example : parse "\t^ +01.2\u3000" = .ok (.caret ⟨1, 2, 0⟩) := by decide +kernel

example : parse " =1..2.3.4 " = .error (.invalidComponent "") := by decide +kernel

end Constraint

end ServiceDiscovery
