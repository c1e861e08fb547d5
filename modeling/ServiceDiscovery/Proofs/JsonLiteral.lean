/-
This file proves that string literals are read back. Every character of a text is written as
one escape or as its own bytes, none of which can end the literal or start an escape; so the
pieces of a written literal come character by character, and they denote the text.
-/

import ServiceDiscovery.Json.Reader
import ServiceDiscovery.Proofs.Hex

namespace ServiceDiscovery.Json

/-! ### One step of the reader -/

theorem literal_plain {byte : UInt8} (noQuote : byte ≠ 0x22) (noEscape : byte ≠ 0x5C)
    (noControl : 0x20 ≤ byte.toNat) (rest : Bytes) :
    literal? (byte :: rest) =
      (literal? rest).map fun found => (.plain byte :: found.1, found.2) := by
  rw [literal?.eq_def]
  simp only [if_neg noQuote, if_neg noEscape, if_neg (Nat.not_lt.mpr noControl)]
  cases literal? rest <;> rfl

theorem literal_plains {bytes : Bytes}
    (plain : ∀ byte ∈ bytes, byte ≠ 0x22 ∧ byte ≠ 0x5C ∧ 0x20 ≤ byte.toNat) (rest : Bytes) :
    literal? (bytes ++ rest) =
      (literal? rest).map fun found => (bytes.map .plain ++ found.1, found.2) := by
  induction bytes with
  | nil => simp
  | cons byte others inductionHypothesis =>
    obtain ⟨noQuote, noEscape, noControl⟩ := plain byte List.mem_cons_self
    rw [List.cons_append, literal_plain noQuote noEscape noControl,
      inductionHypothesis fun other member => plain other (List.mem_cons_of_mem _ member),
      Option.map_map]
    rfl

theorem literal_short (letter : UInt8) {unit : Nat} (known : shortEscape? letter = some unit)
    (rest : Bytes) :
    literal? (0x5C :: letter :: rest) =
      (literal? rest).map fun found => (.escaped unit :: found.1, found.2) := by
  have noUnit : letter ≠ 0x75 := by
    rintro rfl
    have unknown : shortEscape? 0x75 = none := by decide
    rw [unknown] at known
    cases known
  rw [literal?.eq_def]
  simp only [if_neg (show ¬ (0x5C : UInt8) = 0x22 by decide), if_true, if_neg noUnit, known]
  cases literal? rest <;> rfl

theorem literal_unit {first second third fourth : UInt8} {unit : Nat}
    (known : unit? first second third fourth = some unit) (rest : Bytes) :
    literal? (0x5C :: 0x75 :: first :: second :: third :: fourth :: rest) =
      (literal? rest).map fun found => (.escaped unit :: found.1, found.2) := by
  rw [literal?.eq_def]
  simp only [if_neg (show ¬ (0x5C : UInt8) = 0x22 by decide), if_true, known]
  cases literal? rest <;> rfl

theorem literal_end (rest : Bytes) : literal? (0x22 :: rest) = some ([], rest) := by
  rw [literal?.eq_def]
  simp only [if_true]

/-! ### Written characters -/

/-- The character is written as an escape. -/
def isEscaped (char : Char) : Bool :=
  char == '"' || char == '\\' || decide (char.toNat < 0x20)

/-- The pieces that a character is read back as. -/
def piecesOf (char : Char) : List Piece :=
  if isEscaped char then [.escaped char.toNat] else (Utf8.encodeChar char).map .plain

theorem plain_of_not_escaped {char : Char} (unescaped : isEscaped char = false) :
    ∀ byte ∈ Utf8.encodeChar char, byte ≠ 0x22 ∧ byte ≠ 0x5C ∧ 0x20 ≤ byte.toNat := by
  simp only [isEscaped, Bool.or_eq_false_iff, beq_eq_false_iff_ne, decide_eq_false_iff_not,
    Nat.not_lt] at unescaped
  obtain ⟨⟨noQuote, noBackslash⟩, noControl⟩ := unescaped
  intro byte member
  by_cases ascii : char.toNat < 0x80
  · rw [Utf8.encodeChar_of_ascii ascii, List.mem_singleton] at member
    have code : byte.toNat = char.toNat := by
      rw [member]
      exact Utf8.toNat_byte (by omega)
    have different : ∀ {other : Char}, char ≠ other → byte.toNat ≠ other.toNat := by
      intro other distinct same
      exact distinct (Char.toNat_inj.mp (code.symm.trans same))
    refine ⟨?_, ?_, by omega⟩
    · rintro rfl
      exact different noQuote rfl
    · rintro rfl
      exact different noBackslash rfl
  · have high := Utf8.high_of_mem_encodeChar (Nat.not_lt.mp ascii) byte member
    refine ⟨?_, ?_, by omega⟩ <;>
    · rintro rfl
      exact absurd high (by decide)

/-- The bytes of an escape by code point, for a control character. -/
theorem unit_of_control {code : Nat} (control : code < 0x20) :
    ∃ first second third fourth, Utf8.encodeChars ('\\' :: 'u' :: fourDigits code) =
      [0x5C, 0x75, first, second, third, fourth] ∧
      unit? first second third fourth = some code := by
  have digit : ∀ value, Utf8.encodeChar (Hex.digitChar (value % 16)) =
      [UInt8.ofNat (Hex.digitChar (value % 16)).toNat] := fun value =>
    Utf8.encodeChar_of_ascii (Hex.digitChar_ascii (Nat.mod_lt _ (by decide)))
  have known : ∀ value, Hex.digitValue? (UInt8.ofNat (Hex.digitChar (value % 16)).toNat) =
      some (value % 16) := fun value => Hex.digitValue_digitChar (Nat.mod_lt _ (by decide))
  refine ⟨UInt8.ofNat (Hex.digitChar (code / 0x1000 % 16)).toNat,
    UInt8.ofNat (Hex.digitChar (code / 0x100 % 16)).toNat,
    UInt8.ofNat (Hex.digitChar (code / 0x10 % 16)).toNat,
    UInt8.ofNat (Hex.digitChar (code % 16)).toNat, ?_, ?_⟩
  · simp only [Utf8.encodeChars, fourDigits, List.flatMap_cons, List.flatMap_nil, digit]
    rfl
  · simp only [unit?, known, Option.bind_eq_bind, Option.bind_some]
    congr 1
    omega

theorem literal_renderChar (char : Char) (rest : Bytes) :
    literal? (Utf8.encodeChars (renderChar char) ++ rest) =
      (literal? rest).map fun found => (piecesOf char ++ found.1, found.2) := by
  unfold renderChar
  split
  · rename_i same
    subst same
    exact literal_short 0x22 rfl rest
  split
  · rename_i same
    subst same
    exact literal_short 0x5C rfl rest
  split
  · rename_i same
    subst same
    exact literal_short 0x62 rfl rest
  split
  · rename_i same
    subst same
    exact literal_short 0x66 rfl rest
  split
  · rename_i same
    subst same
    exact literal_short 0x6E rfl rest
  split
  · rename_i same
    subst same
    exact literal_short 0x72 rfl rest
  split
  · rename_i same
    subst same
    exact literal_short 0x74 rfl rest
  split
  · rename_i control
    obtain ⟨first, second, third, fourth, bytes, known⟩ := unit_of_control control
    have escaped : piecesOf char = [.escaped char.toNat] := by
      rw [piecesOf, if_pos]
      simp [isEscaped, control]
    rw [bytes, escaped]
    exact literal_unit known rest
  · rename_i noQuote noBackslash _ _ _ _ _ noControl
    have unescaped : isEscaped char = false := by
      simp [isEscaped, noQuote, noBackslash, Nat.not_lt.mp noControl]
    have bytes : Utf8.encodeChars [char] = Utf8.encodeChar char := by
      simp [Utf8.encodeChars]
    rw [bytes, literal_plains (plain_of_not_escaped unescaped), piecesOf, unescaped]
    rfl

/-- A written text is read up to its closing quotation mark. -/
theorem literal_render (text : List Char) (rest : Bytes) :
    literal? (Utf8.encodeChars (text.flatMap renderChar) ++ 0x22 :: rest) =
      some (text.flatMap piecesOf, rest) := by
  induction text with
  | nil => exact literal_end rest
  | cons char others inductionHypothesis =>
    have bytes : Utf8.encodeChars ((char :: others).flatMap renderChar) =
        Utf8.encodeChars (renderChar char) ++
          Utf8.encodeChars (others.flatMap renderChar) := by
      simp [Utf8.encodeChars]
    rw [bytes, List.append_assoc, literal_renderChar, inductionHypothesis]
    rfl

/-! ### What the pieces denote -/

theorem denoted_plains (bytes : Bytes) (pieces : List Piece) :
    denoted? (bytes.map .plain ++ pieces) = (denoted? pieces).map (bytes ++ ·) := by
  induction bytes with
  | nil => simp
  | cons byte others inductionHypothesis =>
    rw [List.map_cons, List.cons_append, denoted?, inductionHypothesis, Option.map_map]
    rfl

theorem denoted_piecesOf (char : Char) (pieces : List Piece) :
    denoted? (piecesOf char ++ pieces) =
      (denoted? pieces).map (Utf8.encodeChar char ++ ·) := by
  unfold piecesOf
  split
  · have low : ¬ (0xD800 ≤ char.toNat ∧ char.toNat < 0xDC00) ∧
        ¬ (0xDC00 ≤ char.toNat ∧ char.toNat < 0xE000) := by
      have valid := char.valid
      simp only [UInt32.isValidChar, Nat.isValidChar] at valid
      have same : char.toNat = char.val.toNat := rfl
      omega
    rw [List.cons_append, List.nil_append, denoted?.eq_def]
    simp only [if_neg low.1, if_neg low.2, Char.ofNat_toNat]
  · exact denoted_plains _ _

theorem denoted_pieces (text : List Char) :
    denoted? (text.flatMap piecesOf) = some (Utf8.encodeChars text) := by
  induction text with
  | nil => rfl
  | cons char others inductionHypothesis =>
    rw [List.flatMap_cons, denoted_piecesOf, inductionHypothesis]
    rfl

/-- The pieces of a written text denote it. -/
theorem textOf_pieces (text : String) : textOf (text.toList.flatMap piecesOf) = some text := by
  rw [textOf, denoted_pieces]
  exact Utf8.decode_encode text

end ServiceDiscovery.Json
