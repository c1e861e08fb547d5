/-
This file proves that a document is read back from its text form. It is stated for documents of
texts, flags and nulls, which are all that messages are made of: the text of such a value shows
where it ends, so it is read the same whatever follows it.
-/

import ServiceDiscovery.Proofs.JsonLiteral

namespace ServiceDiscovery.Json

mutual

/-- The value has no numbers, its strings denote texts, and it is whole. -/
def isSimple : Json → Bool
  | .null | .bool _ => true
  | .string text => text.isSome
  | .array items => areSimpleItems items
  | .object members => areSimpleMembers members
  | .number _ | .broken => false

def areSimpleItems : List Json → Bool
  | [] => true
  | item :: others => isSimple item && areSimpleItems others

def areSimpleMembers : List (Option String × Json) → Bool
  | [] => true
  | (key, value) :: others => key.isSome && isSimple value && areSimpleMembers others

end

/-! ### Bytes of the text form -/

theorem encodeChars_append (first second : List Char) :
    Utf8.encodeChars (first ++ second) = Utf8.encodeChars first ++ Utf8.encodeChars second :=
  List.flatMap_append

theorem encodeChars_cons_of_ascii {char : Char} (ascii : char.toNat < 0x80) (text : List Char) :
    Utf8.encodeChars (char :: text) = UInt8.ofNat char.toNat :: Utf8.encodeChars text := by
  show Utf8.encodeChar char ++ Utf8.encodeChars text = _
  rw [Utf8.encodeChar_of_ascii ascii]
  rfl

/-- A written text, as bytes: quotation marks around what the reader of literals takes. -/
theorem encodeChars_renderText (text : String) (rest : Bytes) :
    Utf8.encodeChars (renderText text) ++ rest =
      0x22 :: (Utf8.encodeChars (text.toList.flatMap renderChar) ++ 0x22 :: rest) := by
  rw [renderText, List.cons_append, encodeChars_cons_of_ascii (by decide), encodeChars_append,
    encodeChars_cons_of_ascii (by decide)]
  simp only [Utf8.encodeChars, List.flatMap_nil, List.cons_append, List.append_assoc,
    List.nil_append]
  rfl

theorem skipBlank_cons {byte : UInt8} (visible : isBlankByte byte = false) (rest : Bytes) :
    skipBlank (byte :: rest) = byte :: rest := by
  rw [skipBlank, List.dropWhile_cons_of_neg]
  simp [visible]

/-- The first byte of a value that is neither blank nor the end of something. -/
def isOpening (byte : UInt8) : Bool :=
  byte == 0x22 || byte == 0x5B || byte == 0x7B || byte == 0x6E || byte == 0x74 || byte == 0x66

theorem encodeChars_render {value : Json} (simple : isSimple value = true) :
    ∃ byte rest, Utf8.encodeChars value.render = byte :: rest ∧ isOpening byte = true := by
  cases value with
  | null => exact ⟨_, _, rfl, by decide⟩
  | bool flag => cases flag <;> exact ⟨_, _, rfl, by decide⟩
  | number digits => simp [isSimple] at simple
  | string text =>
    refine ⟨0x22, Utf8.encodeChars ((text.getD "").toList.flatMap renderChar) ++ [0x22], ?_,
      by decide⟩
    have bytes := encodeChars_renderText (text.getD "") []
    rw [List.append_nil] at bytes
    rw [render, bytes]
  | array items =>
    rw [render, List.cons_append, encodeChars_cons_of_ascii (by decide)]
    exact ⟨_, _, rfl, by decide⟩
  | object members =>
    rw [render, List.cons_append, encodeChars_cons_of_ascii (by decide)]
    exact ⟨_, _, rfl, by decide⟩
  | broken => simp [isSimple] at simple

/-! ### One step of the reader -/

theorem readValue_text (fuel : Nat) (text : String) (rest : Bytes) :
    readValue (fuel + 1) (Utf8.encodeChars (renderText text) ++ rest) =
      (.string (some text), some rest) := by
  rw [encodeChars_renderText, readValue, skipBlank_cons (by decide)]
  simp only [if_true, literal_render, readAs, textOf_pieces]

theorem readValue_array (fuel : Nat) {byte : UInt8} (opening : isOpening byte = true)
    (rest : Bytes) :
    readValue (fuel + 1) (0x5B :: byte :: rest) =
      (.array (readItems fuel (byte :: rest)).1, (readItems fuel (byte :: rest)).2) := by
  have visible : isBlankByte byte = false := by
    simp only [isOpening, Bool.or_eq_true, beq_iff_eq] at opening
    rcases opening with ((((rfl | rfl) | rfl) | rfl) | rfl) | rfl <;> decide
  rw [readValue, skipBlank_cons (by decide)]
  simp only [if_neg (show ¬ (0x5B : UInt8) = 0x22 by decide), if_true, skipBlank_cons visible]
  split
  · rename_i others found
    cases found
    exact absurd opening (by decide)
  · rfl

theorem readValue_array_nil (fuel : Nat) (rest : Bytes) :
    readValue (fuel + 1) (0x5B :: 0x5D :: rest) = (.array [], some rest) := by
  rw [readValue, skipBlank_cons (by decide)]
  simp only [if_neg (show ¬ (0x5B : UInt8) = 0x22 by decide), if_true,
    skipBlank_cons (show isBlankByte 0x5D = false by decide)]

theorem readValue_object (fuel : Nat) (rest : Bytes) :
    readValue (fuel + 1) (0x7B :: 0x22 :: rest) =
      (.object (readMembers fuel (0x22 :: rest)).1, (readMembers fuel (0x22 :: rest)).2) := by
  rw [readValue, skipBlank_cons (by decide)]
  simp only [if_neg (show ¬ (0x7B : UInt8) = 0x22 by decide),
    if_neg (show ¬ (0x7B : UInt8) = 0x5B by decide), if_true,
    skipBlank_cons (show isBlankByte 0x22 = false by decide)]
  rfl

theorem readValue_object_nil (fuel : Nat) (rest : Bytes) :
    readValue (fuel + 1) (0x7B :: 0x7D :: rest) = (.object [], some rest) := by
  rw [readValue, skipBlank_cons (by decide)]
  simp only [if_neg (show ¬ (0x7B : UInt8) = 0x22 by decide),
    if_neg (show ¬ (0x7B : UInt8) = 0x5B by decide), if_true,
    skipBlank_cons (show isBlankByte 0x7D = false by decide)]

theorem readItems_last {fuel : Nat} {bytes rest : Bytes} {item : Json}
    (read : readValue fuel bytes = (item, some (0x5D :: rest))) :
    readItems (fuel + 1) bytes = ([item], some rest) := by
  rw [readItems, read]
  simp only [skipBlank_cons (show isBlankByte 0x5D = false by decide)]

theorem readItems_next {fuel : Nat} {bytes rest : Bytes} {item : Json}
    (read : readValue fuel bytes = (item, some (0x2C :: rest))) :
    readItems (fuel + 1) bytes =
      (item :: (readItems fuel rest).1, (readItems fuel rest).2) := by
  rw [readItems, read]
  simp only [skipBlank_cons (show isBlankByte 0x2C = false by decide)]

theorem readMembers_last {fuel : Nat} {rest after : Bytes} {value : Json} (key : String)
    (read : readValue fuel rest = (value, some (0x7D :: after))) :
    readMembers (fuel + 1) (Utf8.encodeChars (renderText key) ++ 0x3A :: rest) =
      ([(some key, value)], some after) := by
  rw [encodeChars_renderText, readMembers, skipBlank_cons (by decide)]
  simp only [literal_render, skipBlank_cons (show isBlankByte 0x3A = false by decide), read,
    skipBlank_cons (show isBlankByte 0x7D = false by decide), textOf_pieces]

theorem readMembers_next {fuel : Nat} {rest after : Bytes} {value : Json} (key : String)
    (read : readValue fuel rest = (value, some (0x2C :: after))) :
    readMembers (fuel + 1) (Utf8.encodeChars (renderText key) ++ 0x3A :: rest) =
      ((some key, value) :: (readMembers fuel after).1, (readMembers fuel after).2) := by
  rw [encodeChars_renderText, readMembers, skipBlank_cons (by decide)]
  simp only [literal_render, skipBlank_cons (show isBlankByte 0x3A = false by decide), read,
    skipBlank_cons (show isBlankByte 0x2C = false by decide), textOf_pieces]

/-! ### Whole documents -/

theorem length_render_pos {value : Json} (simple : isSimple value = true) :
    0 < value.render.length := by
  obtain ⟨byte, rest, bytes, _⟩ := encodeChars_render simple
  cases written : value.render with
  | nil =>
    rw [written] at bytes
    cases bytes
  | cons char others => exact Nat.succ_pos _

/-- The bytes of an array with items, up to its first item. -/
theorem encodeChars_renderItems {items : List Json} (nonempty : items ≠ [])
    (simple : areSimpleItems items = true) :
    ∃ byte rest, Utf8.encodeChars (renderItems items) = byte :: rest ∧
      isOpening byte = true := by
  match items, nonempty with
  | [item], _ =>
    simp only [areSimpleItems, Bool.and_true] at simple
    exact encodeChars_render simple
  | item :: next :: others, _ =>
    rw [areSimpleItems, Bool.and_eq_true] at simple
    obtain ⟨byte, rest, bytes, opening⟩ := encodeChars_render simple.1
    rw [renderItems, encodeChars_append, bytes]
    exact ⟨byte, _, rfl, opening⟩

/-- The bytes of an object with members, up to its first key. -/
theorem encodeChars_renderMembers (key : Option String) (value : Json)
    (others : List (Option String × Json)) (rest : Bytes) :
    ∃ bytes, Utf8.encodeChars (renderMembers ((key, value) :: others)) ++ rest =
      0x22 :: bytes := by
  cases others with
  | nil =>
    rw [renderMembers, encodeChars_append, List.append_assoc, encodeChars_renderText]
    exact ⟨_, rfl⟩
  | cons next others =>
    rw [renderMembers, List.append_assoc, encodeChars_append, List.append_assoc,
      encodeChars_renderText]
    exact ⟨_, rfl⟩

mutual

/-- A simple value is read back from its text form, whatever follows. Twice the length of the
text is enough fuel: a value and a member take one unit each, and a character at least. -/
theorem readValue_render : ∀ (value : Json) (fuel : Nat) (rest : Bytes),
    isSimple value = true → 2 * value.render.length ≤ fuel →
      readValue fuel (Utf8.encodeChars value.render ++ rest) = (value, some rest)
  | .null, fuel + 1, rest, _, _ => rfl
  | .bool true, fuel + 1, rest, _, _ => rfl
  | .bool false, fuel + 1, rest, _, _ => rfl
  | .string (some text), fuel + 1, rest, _, _ => readValue_text fuel text rest
  | .array [], fuel + 1, rest, _, _ => readValue_array_nil fuel rest
  | .array (item :: others), fuel + 1, rest, simple, enough => by
    have nonempty : item :: others ≠ [] := List.cons_ne_nil _ _
    have simpleItems : areSimpleItems (item :: others) = true := by
      rw [isSimple] at simple
      exact simple
    have fuelLeft : 2 * (renderItems (item :: others)).length + 1 ≤ fuel := by
      rw [render, List.length_append, List.length_cons, List.length_singleton] at enough
      omega
    have read := readItems_render (item :: others) fuel rest nonempty simpleItems fuelLeft
    obtain ⟨byte, bytes, first, opening⟩ := encodeChars_renderItems nonempty simpleItems
    have text : Utf8.encodeChars (render (.array (item :: others))) ++ rest =
        0x5B :: (Utf8.encodeChars (renderItems (item :: others)) ++ 0x5D :: rest) := by
      rw [render, List.cons_append, encodeChars_cons_of_ascii (by decide), encodeChars_append,
        List.cons_append, List.append_assoc]
      rfl
    rw [first, List.cons_append] at read
    rw [text, first, List.cons_append, readValue_array fuel opening, read]
  | .object [], fuel + 1, rest, _, _ => readValue_object_nil fuel rest
  | .object ((key, value) :: others), fuel + 1, rest, simple, enough => by
    have simpleMembers : areSimpleMembers ((key, value) :: others) = true := by
      rw [isSimple] at simple
      exact simple
    have fuelLeft : 2 * (renderMembers ((key, value) :: others)).length + 1 ≤ fuel := by
      rw [render, List.length_append, List.length_cons, List.length_singleton] at enough
      omega
    have read := readMembers_render ((key, value) :: others) fuel rest (List.cons_ne_nil _ _)
      simpleMembers fuelLeft
    obtain ⟨bytes, first⟩ := encodeChars_renderMembers key value others (0x7D :: rest)
    have text : Utf8.encodeChars (render (.object ((key, value) :: others))) ++ rest =
        0x7B :: (Utf8.encodeChars (renderMembers ((key, value) :: others)) ++ 0x7D :: rest) := by
      rw [render, List.cons_append, encodeChars_cons_of_ascii (by decide), encodeChars_append,
        List.cons_append, List.append_assoc]
      rfl
    rw [first] at read
    rw [text, first, readValue_object fuel, read]
  | .number _, _, _, simple, _ => by simp [isSimple] at simple
  | .broken, _, _, simple, _ => by simp [isSimple] at simple
  | .string none, _, _, simple, _ => by simp [isSimple] at simple
  | value, 0, _, simple, enough => by
    have positive := length_render_pos simple
    omega

theorem readItems_render : ∀ (items : List Json) (fuel : Nat) (rest : Bytes), items ≠ [] →
    areSimpleItems items = true → 2 * (renderItems items).length + 1 ≤ fuel →
      readItems fuel (Utf8.encodeChars (renderItems items) ++ 0x5D :: rest) =
        (items, some rest)
  | [], _, _, nonempty, _, _ => absurd rfl nonempty
  | _ :: _, 0, _, _, _, enough => absurd enough (by omega)
  | [item], fuel + 1, rest, _, simple, enough => by
    simp only [areSimpleItems, Bool.and_true] at simple
    rw [renderItems] at enough ⊢
    exact readItems_last (readValue_render item fuel _ simple (by omega))
  | item :: next :: others, fuel + 1, rest, _, simple, enough => by
    rw [areSimpleItems, Bool.and_eq_true] at simple
    rw [renderItems, List.length_append, List.length_cons] at enough
    have tail := readItems_render (next :: others) fuel rest (List.cons_ne_nil _ _) simple.2
      (by omega)
    have first := readValue_render item fuel
      (0x2C :: (Utf8.encodeChars (renderItems (next :: others)) ++ 0x5D :: rest)) simple.1
      (by omega)
    rw [renderItems, encodeChars_append, encodeChars_cons_of_ascii (by decide),
      List.append_assoc, List.cons_append]
    have step := readItems_next first
    rw [tail] at step
    exact step

theorem readMembers_render : ∀ (members : List (Option String × Json)) (fuel : Nat)
    (rest : Bytes), members ≠ [] → areSimpleMembers members = true →
      2 * (renderMembers members).length + 1 ≤ fuel →
        readMembers fuel (Utf8.encodeChars (renderMembers members) ++ 0x7D :: rest) =
          (members, some rest)
  | [], _, _, nonempty, _, _ => absurd rfl nonempty
  | _ :: _, 0, _, _, _, enough => absurd enough (by omega)
  | (none, _) :: _, _ + 1, _, _, simple, _ => by simp [areSimpleMembers] at simple
  | [(some key, value)], fuel + 1, rest, _, simple, enough => by
    simp only [areSimpleMembers, Option.isSome_some, Bool.true_and, Bool.and_true] at simple
    rw [renderMembers, List.length_append, List.length_cons] at enough
    have read := readValue_render value fuel (0x7D :: rest) simple (by omega)
    rw [renderMembers, encodeChars_append, encodeChars_cons_of_ascii (by decide),
      List.append_assoc, List.cons_append]
    exact readMembers_last key read
  | (some key, value) :: next :: others, fuel + 1, rest, _, simple, enough => by
    rw [areSimpleMembers, Option.isSome_some, Bool.true_and, Bool.and_eq_true] at simple
    rw [renderMembers, List.length_append, List.length_append, List.length_cons,
      List.length_cons] at enough
    have tail := readMembers_render (next :: others) fuel rest (List.cons_ne_nil _ _) simple.2
      (by omega)
    have first := readValue_render value fuel
      (0x2C :: (Utf8.encodeChars (renderMembers (next :: others)) ++ 0x7D :: rest)) simple.1
      (by omega)
    rw [renderMembers, encodeChars_append, encodeChars_append,
      encodeChars_cons_of_ascii (by decide), encodeChars_cons_of_ascii (by decide),
      List.append_assoc, List.append_assoc, List.cons_append, List.cons_append]
    have step := readMembers_next key first
    rw [tail] at step
    exact step

end

/-- A simple document is read back from its bytes, with nothing left over. -/
theorem ofBytes_toBytes {value : Json} (simple : isSimple value = true) :
    ofBytes value.toBytes = ⟨value, true⟩ := by
  have short : value.render.length ≤ value.toBytes.length :=
    Utf8.length_le_length_encodeChars value.render
  have read := readValue_render value (2 * value.toBytes.length + 2) [] simple (by omega)
  rw [List.append_nil] at read
  rw [ofBytes, toBytes] at *
  rw [read]
  rfl

end ServiceDiscovery.Json
