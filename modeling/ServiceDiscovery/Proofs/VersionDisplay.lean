/-
This file proves that versions and constraints are written in a normal form. Numbers are written
in decimal, a constraint shows its kind in its first character and otherwise exactly the
components that it gives, and nothing in it needs an escape inside a JSON string. What was read
is read back from that form, so it is never written as anything else, and whatever is written
alike is equal.
-/

import ServiceDiscovery.Proofs.Envelope
import ServiceDiscovery.Proofs.VersionGrammar

namespace ServiceDiscovery

/-! ### Written numbers -/

namespace Text

theorem digitChar_eq {value : Nat} (small : value < 10) :
    digitChar value = Nat.digitChar value := by
  have each : ∀ digit : Fin 10, digitChar digit = Nat.digitChar digit := by decide
  exact each ⟨value, small⟩

theorem decimal_eq_toDigits (value : Nat) : decimal value = Nat.toDigits 10 value := by
  rw [decimal, Nat.toDigits_eq_if (by decide)]
  split
  · rename_i small
    rw [digitChar_eq small]
  · rw [decimal_eq_toDigits (value / 10), digitChar_eq (Nat.mod_lt value (by decide))]
termination_by value

/-- A component is written as numbers are. -/
theorem ofList_decimal (component : UInt32) :
    String.ofList (decimal component.toNat) = toString component := by
  rw [decimal_eq_toDigits]
  rfl

end Text

/-! ### Written versions and constraints -/

namespace Components

theorem ofList_toChars (components : Components) :
    String.ofList components.toChars = ".".intercalate (components.values.map toString) := by
  cases components <;> simp [toChars, values, Text.ofList_decimal, String.append_assoc]

end Components

namespace Version

theorem display_eq (version : Version) :
    version.display = s!"{version.major}.{version.minor}.{version.patch}" := by
  rw [display, toChars, Components.ofList_toChars]
  rfl

end Version

namespace Constraint

theorem display_eq (constraint : Constraint) :
    constraint.display =
      match constraint with
      | .any => "*"
      | .matching given => ".".intercalate (given.values.map toString)
      | .caret base => "^" ++ base.display
      | .exact version => "=" ++ version.display := by
  cases constraint with
  | any => rfl
  | matching given => exact Components.ofList_toChars given
  | caret base =>
    show String.ofList (['^'] ++ base.toChars) = _
    rw [String.ofList_append]
    rfl
  | exact version =>
    show String.ofList (['='] ++ version.toChars) = _
    rw [String.ofList_append]
    rfl

end Constraint

/-! ### Versions and constraints inside JSON -/

namespace Json

theorem renderChar_of_unescaped {char : Char} (unescaped : isEscaped char = false) :
    renderChar char = [char] := by
  simp only [isEscaped, Bool.or_eq_false_iff, beq_eq_false_iff_ne, decide_eq_false_iff_not]
    at unescaped
  obtain ⟨⟨quote, backslash⟩, control⟩ := unescaped
  have other {code : Char} (low : code.toNat < 0x20) : char ≠ code := by
    rintro rfl
    exact control low
  rw [renderChar, if_neg quote, if_neg backslash, if_neg (other (by decide)),
    if_neg (other (by decide)), if_neg (other (by decide)), if_neg (other (by decide)),
    if_neg (other (by decide)), if_neg control]

/-- A text without anything to escape only gets its quotes. -/
theorem display_text_of_unescaped {chars : List Char}
    (unescaped : ∀ char ∈ chars, isEscaped char = false) :
    (Json.text (String.ofList chars)).display = "\"" ++ String.ofList chars ++ "\"" := by
  have plain : chars.flatMap renderChar = chars := by
    induction chars with
    | nil => rfl
    | cons char others inductionHypothesis =>
      obtain ⟨own, rest⟩ := List.forall_mem_cons.mp unescaped
      rw [List.flatMap_cons, renderChar_of_unescaped own, inductionHypothesis rest]
      rfl
  show String.ofList ('"' :: (String.ofList chars).toList.flatMap renderChar ++ ['"']) = _
  rw [String.toList_ofList, plain]
  rw [← List.singleton_append, String.ofList_append, String.ofList_append]

/-- A parsed text is parsed again from the document that it is written as. -/
theorem decode_toBytes_text {Problem Result : Type} {parse : String → Except Problem Result}
    {text : String} {result : Result} (parsed : parse text = .ok result) :
    (ofBytes (Json.text text).toBytes).decode (asParsed parse) = .ok result := by
  rw [ofBytes_toBytes rfl, Document.decode, asParsed_text parsed]
  rfl

end Json

namespace Components

theorem isEscaped_of_isWritten {char : Char} (written : isWritten char = true) :
    Json.isEscaped char = false := by
  rw [isWritten, Bool.or_eq_true, beq_iff_eq, Text.isDigit, Text.digitValue?] at written
  rcases written with digit | rfl
  · split at digit
    · rename_i range
      simp only [Json.isEscaped, Bool.or_eq_false_iff, beq_eq_false_iff_ne, decide_eq_false_iff_not]
      refine ⟨⟨?_, ?_⟩, by omega⟩ <;>
      · rintro rfl
        exact absurd range (by decide)
    · cases digit
  · decide

theorem unescaped (components : Components) :
    ∀ char ∈ components.toChars, Json.isEscaped char = false := fun char member =>
  isEscaped_of_isWritten (isWritten_of_mem_toChars components char member)

end Components

namespace Version

theorem display_toJson (version : Version) :
    version.toJson.display = "\"" ++ version.display ++ "\"" :=
  Json.display_text_of_unescaped version.components.unescaped

theorem decode_toJson (version : Version) :
    (Json.ofBytes version.toJson.toBytes).decode ofJson = .ok version :=
  Json.decode_toBytes_text version.parse_display

end Version

namespace Constraint

theorem display_toJson (constraint : Constraint) :
    constraint.toJson.display = "\"" ++ constraint.display ++ "\"" := by
  refine Json.display_text_of_unescaped ?_
  cases constraint with
  | any => exact List.forall_mem_singleton.mpr rfl
  | matching given => exact given.unescaped
  | caret base => exact List.forall_mem_cons.mpr ⟨rfl, base.components.unescaped⟩
  | exact version => exact List.forall_mem_cons.mpr ⟨rfl, version.components.unescaped⟩

theorem decode_toJson (constraint : Constraint) :
    (Json.ofBytes constraint.toJson.toBytes).decode ofJson = .ok constraint :=
  Json.decode_toBytes_text constraint.parse_display

/-! ### The normal form -/

/-- What constraints are written as is a normal form for a reader of them. A constraint that was
read is read back from it, so it is written in the same way, accepts the same versions and pins
the same one; and of the constraints that were read only equal ones are written alike. -/
structure IsNormalForm {Source Problem : Type} (read : Source → Except Problem Constraint)
    (write : Constraint → Source) : Prop where
  readBack : ∀ source constraint, read source = .ok constraint →
    read (write constraint) = .ok constraint
  settled : ∀ source constraint again, read source = .ok constraint →
    read (write constraint) = .ok again →
      write again = write constraint ∧
        (∀ version, again.fits version = constraint.fits version) ∧
        again.pinned? = constraint.pinned?
  alike : ∀ source constraint source' constraint', read source = .ok constraint →
    read source' = .ok constraint' →
      (write constraint = write constraint' ↔ constraint = constraint')

theorem isNormalForm_of_readBack {Source Problem : Type}
    {read : Source → Except Problem Constraint} {write : Constraint → Source}
    (readBack : ∀ constraint, read (write constraint) = .ok constraint) :
    IsNormalForm read write := by
  refine ⟨fun _ constraint _ => readBack constraint, fun _ constraint again _ other => ?_,
    fun _ constraint _ constraint' _ _ => ⟨fun same => ?_, congrArg write⟩⟩
  · rw [readBack constraint] at other
    rw [Except.ok.inj other]
    exact ⟨rfl, fun _ => rfl, rfl⟩
  · have known := readBack constraint
    rw [same, readBack constraint'] at known
    exact (Except.ok.inj known).symm

/-- Versions and constraints are written in a normal form, as texts and in JSON. A version shows
its three components in decimal, and is read back from that. A constraint is a star, a version
behind a sign, or the components that it gives; every constraint is read back from this form with
the same kind and the same components, and no other one is written like it. In JSON both are string
literals with that text and nothing escaped, and are read back from these bytes; a JSON value is a
version or a constraint if and only if it is a literal whose text is one. So whatever text or
document a constraint was read from, it is written in one way. -/
theorem display_faithful :
    (∀ version : Version,
      version.display = s!"{version.major}.{version.minor}.{version.patch}" ∧
      Version.parse version.display = .ok version ∧
      version.toJson.display = "\"" ++ version.display ++ "\"" ∧
      (Json.ofBytes version.toJson.toBytes).decode Version.ofJson = .ok version ∧
      ∀ given, Version.ofJson given = .ok version ↔
        ∃ text, given = Json.text text ∧ Version.parse text = .ok version) ∧
    (∀ constraint : Constraint,
      constraint.display =
        (match constraint with
        | .any => "*"
        | .matching given => ".".intercalate (given.values.map toString)
        | .caret base => "^" ++ base.display
        | .exact version => "=" ++ version.display) ∧
      parse constraint.display = .ok constraint ∧
      constraint.toJson.display = "\"" ++ constraint.display ++ "\"" ∧
      (Json.ofBytes constraint.toJson.toBytes).decode ofJson = .ok constraint ∧
      ∀ given, ofJson given = .ok constraint ↔
        ∃ text, given = Json.text text ∧ parse text = .ok constraint) ∧
    IsNormalForm parse display ∧
    IsNormalForm (fun document => (Json.ofBytes document).decode ofJson)
      fun constraint => constraint.toJson.toBytes :=
  ⟨fun version => ⟨version.display_eq, version.parse_display, version.display_toJson,
      version.decode_toJson, fun _ => Json.asParsed_eq_ok_iff⟩,
    fun constraint => ⟨constraint.display_eq, constraint.parse_display, constraint.display_toJson,
      constraint.decode_toJson, fun _ => Json.asParsed_eq_ok_iff⟩,
    isNormalForm_of_readBack parse_display, isNormalForm_of_readBack decode_toJson⟩

/-- A constraint in a JSON document, with an escape and with white space on both sides of its
quotes. -/
def untidyDocument : Bytes :=
  Utf8.encode "\n\" \\u002b1.02\" "

/-- A constraint that was read from an untidy text or document is read back, and the one that gives
all three components is not written like the one that accepts only that version. -/
theorem display_faithful_untidy :
    parse "\t+1.02 " = .ok (.matching (.two 1 2)) ∧
    parse (Constraint.matching (.two 1 2)).display = .ok (.matching (.two 1 2)) ∧
    parse "1.2.0" = .ok (.matching (.three 1 2 0)) ∧ parse "= 1.2" = .ok (.exact ⟨1, 2, 0⟩) ∧
    (Constraint.matching (.three 1 2 0)).display ≠ (Constraint.exact ⟨1, 2, 0⟩).display ∧
    (Json.ofBytes untidyDocument).decode ofJson = .ok (.matching (.two 1 2)) ∧
    (Json.ofBytes (Constraint.matching (.two 1 2)).toJson.toBytes).decode ofJson =
      .ok (.matching (.two 1 2)) ∧
    (Json.ofBytes (Constraint.caret ⟨1, 2, 0⟩).toJson.toBytes).decode ofJson =
      .ok (.caret ⟨1, 2, 0⟩) ∧
    (Constraint.matching (.three 1 2 0)).toJson.toBytes ≠
      (Constraint.exact ⟨1, 2, 0⟩).toJson.toBytes := by
  have untidy : parse "\t+1.02 " = .ok (.matching (.two 1 2)) := by decide +kernel
  have full : parse "1.2.0" = .ok (.matching (.three 1 2 0)) := by decide +kernel
  have only : parse "= 1.2" = .ok (.exact ⟨1, 2, 0⟩) := by decide +kernel
  have escaped : (Json.ofBytes untidyDocument).decode ofJson = .ok (.matching (.two 1 2)) := by
    decide +kernel
  obtain ⟨_, each, text, json⟩ := display_faithful
  have readBack (constraint : Constraint) := (each constraint).2.2.2.1
  exact ⟨untidy, text.readBack _ _ untidy, full, only,
    mt (text.alike _ _ _ _ full only).mp (by decide), escaped, json.readBack _ _ escaped,
    readBack _, mt (json.alike _ _ _ _ (readBack _) (readBack _)).mp (by decide)⟩

end Constraint

end ServiceDiscovery
