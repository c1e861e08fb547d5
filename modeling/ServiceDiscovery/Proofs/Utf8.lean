/-
This file proves that UTF-8 is read back: each character's bytes begin a text with that
character and end where the next one begins, so a whole text is recovered from its bytes. A
character outside ASCII has only bytes outside ASCII, which is what lets a reader of bytes look
for an ASCII mark without looking at characters. The bytes are those in which the standard library
stores a text, so their number is its size there.
-/

import ServiceDiscovery.Text.Utf8

namespace ServiceDiscovery.Utf8

/-! ### The bytes of one character -/

theorem toNat_lt_range (char : Char) : char.toNat < 0x110000 := by
  have valid := char.valid
  simp only [UInt32.isValidChar, Nat.isValidChar] at valid
  have same : char.toNat = char.val.toNat := rfl
  omega

theorem toNat_byte {value : Nat} (small : value < 0x100) : (UInt8.ofNat value).toNat = value := by
  rw [UInt8.toNat_ofNat']
  exact Nat.mod_eq_of_lt small

theorem encodeChar_of_ascii {char : Char} (ascii : char.toNat < 0x80) :
    encodeChar char = [UInt8.ofNat char.toNat] := by
  simp only [encodeChar, if_pos ascii]

theorem toNat_continuation (value : Nat) : (continuation value).toNat = 0x80 + value % 0x40 := by
  rw [continuation, toNat_byte (by omega)]

theorem continued_continuation (value : Nat) :
    continued? (continuation value) = some (value % 0x40) := by
  simp only [continued?, toNat_continuation]
  rw [if_pos (by omega), Nat.add_sub_cancel_left]

/-- A character outside ASCII has no byte in ASCII. -/
theorem high_of_mem_encodeChar {char : Char} (high : 0x80 ≤ char.toNat) :
    ∀ byte ∈ encodeChar char, 0x80 ≤ byte.toNat := by
  have range := toNat_lt_range char
  have tail : ∀ value : Nat, 0x80 ≤ (continuation value).toNat := by
    intro value
    rw [toNat_continuation]
    omega
  intro byte member
  simp only [encodeChar, if_neg (Nat.not_lt.mpr high)] at member
  split at member
  · simp only [List.mem_cons, List.not_mem_nil, or_false] at member
    rcases member with rfl | rfl
    · rw [toNat_byte (by omega)]
      omega
    · exact tail _
  · split at member
    · simp only [List.mem_cons, List.not_mem_nil, or_false] at member
      rcases member with rfl | rfl | rfl
      · rw [toNat_byte (by omega)]
        omega
      · exact tail _
      · exact tail _
    · simp only [List.mem_cons, List.not_mem_nil, or_false] at member
      rcases member with rfl | rfl | rfl | rfl
      · rw [toNat_byte (by omega)]
        omega
      · exact tail _
      · exact tail _
      · exact tail _

theorem encodeChar_ne_nil (char : Char) : encodeChar char ≠ [] := by
  simp only [encodeChar]
  split
  · simp
  · split
    · simp
    · split <;> simp

/-! ### Reading characters -/

theorem charFrom_toNat {char : Char} {least : Nat} (enough : least ≤ char.toNat) :
    charFrom? least char.toNat = some char := by
  rw [charFrom?, if_pos ⟨enough, char.valid⟩, Char.ofNat_toNat]

/-- The bytes of a character are read as that character, whatever follows. -/
theorem next_encodeChar (char : Char) (rest : Bytes) :
    next? (encodeChar char ++ rest) = some (char, rest) := by
  have range := toNat_lt_range char
  simp only [encodeChar]
  split
  · rename_i one
    have code : (UInt8.ofNat char.toNat).toNat = char.toNat := toNat_byte (by omega)
    simp only [List.cons_append, List.nil_append, next?, code, if_pos one, Char.ofNat_toNat]
  · split
    · rename_i one two
      have code : (UInt8.ofNat (0xC0 + char.toNat / 0x40)).toNat = 0xC0 + char.toNat / 0x40 :=
        toNat_byte (by omega)
      have whole : (0xC0 + char.toNat / 0x40 - 0xC0) * 0x40 + char.toNat % 0x40 = char.toNat := by
        omega
      simp only [List.cons_append, List.nil_append, next?, code]
      rw [if_neg (by omega), if_neg (by omega), if_pos (by omega), continued_continuation]
      show (charFrom? 0x80 ((0xC0 + char.toNat / 0x40 - 0xC0) * 0x40 + char.toNat % 0x40)).bind
        (fun found => some (found, rest)) = _
      rw [whole, charFrom_toNat (by omega)]
      rfl
    · split
      · rename_i one two three
        have code : (UInt8.ofNat (0xE0 + char.toNat / 0x1000)).toNat =
            0xE0 + char.toNat / 0x1000 :=
          toNat_byte (by omega)
        have whole : ((0xE0 + char.toNat / 0x1000 - 0xE0) * 0x40 + char.toNat / 0x40 % 0x40) *
            0x40 + char.toNat % 0x40 = char.toNat := by
          omega
        simp only [List.cons_append, List.nil_append, next?, code]
        rw [if_neg (by omega), if_neg (by omega), if_neg (by omega), if_pos (by omega),
          continued_continuation, continued_continuation]
        show (charFrom? 0x800 (((0xE0 + char.toNat / 0x1000 - 0xE0) * 0x40 +
          char.toNat / 0x40 % 0x40) * 0x40 + char.toNat % 0x40)).bind
          (fun found => some (found, rest)) = _
        rw [whole, charFrom_toNat (by omega)]
        rfl
      · rename_i one two three
        have code : (UInt8.ofNat (0xF0 + char.toNat / 0x40000)).toNat =
            0xF0 + char.toNat / 0x40000 :=
          toNat_byte (by omega)
        have whole : (((0xF0 + char.toNat / 0x40000 - 0xF0) * 0x40 +
            char.toNat / 0x1000 % 0x40) * 0x40 + char.toNat / 0x40 % 0x40) * 0x40 +
            char.toNat % 0x40 = char.toNat := by
          omega
        simp only [List.cons_append, List.nil_append, next?, code]
        rw [if_neg (by omega), if_neg (by omega), if_neg (by omega), if_neg (by omega),
          if_pos (by omega), continued_continuation, continued_continuation,
          continued_continuation]
        show (charFrom? 0x10000 ((((0xF0 + char.toNat / 0x40000 - 0xF0) * 0x40 +
          char.toNat / 0x1000 % 0x40) * 0x40 + char.toNat / 0x40 % 0x40) * 0x40 +
          char.toNat % 0x40)).bind (fun found => some (found, rest)) = _
        rw [whole, charFrom_toNat (by omega)]
        rfl

theorem decodeWithin_encodeChars (text : List Char) {count : Nat} (enough : text.length ≤ count) :
    decodeWithin count (encodeChars text) = some text := by
  induction text generalizing count with
  | nil => cases count <;> rfl
  | cons char rest inductionHypothesis =>
    obtain ⟨fewer, rfl⟩ : ∃ fewer, count = fewer + 1 := ⟨count - 1, by
      rw [List.length_cons] at enough
      omega⟩
    have step : encodeChars (char :: rest) = encodeChar char ++ encodeChars rest := rfl
    have nonempty : encodeChar char ++ encodeChars rest ≠ [] := by
      simp [encodeChar_ne_nil char]
    have fuel : rest.length ≤ fewer := by
      rw [List.length_cons] at enough
      omega
    rw [step, decodeWithin]
    · rw [next_encodeChar]
      show (decodeWithin fewer (encodeChars rest)).bind (fun chars => some (char :: chars)) = _
      rw [inductionHypothesis fuel]
      rfl
    · exact nonempty

theorem length_le_length_encodeChars (text : List Char) :
    text.length ≤ (encodeChars text).length := by
  induction text with
  | nil => exact Nat.le_refl 0
  | cons char rest inductionHypothesis =>
    have step : encodeChars (char :: rest) = encodeChar char ++ encodeChars rest := rfl
    have nonempty := List.length_pos_iff.mpr (encodeChar_ne_nil char)
    rw [step, List.length_append, List.length_cons]
    omega

theorem decodeChars_encodeChars (text : List Char) : decodeChars? (encodeChars text) = some text :=
  decodeWithin_encodeChars text (length_le_length_encodeChars text)

/-- A text is read back from its bytes. -/
theorem decode_encode (text : String) : decode? (encode text) = some text := by
  rw [decode?, encode, decodeChars_encodeChars, Option.map_some, String.ofList_toList]

theorem encode_injective : Function.Injective encode := fun first second same =>
  Option.some.inj ((decode_encode first).symm.trans ((congrArg decode? same).trans
    (decode_encode second)))

theorem encode_append (first second : String) :
    encode (first ++ second) = encode first ++ encode second := by
  rw [encode, String.toList_append, encodeChars, List.flatMap_append]
  rfl

/-! ### The bytes of the standard library -/

/-- The bytes of a character are those of the standard library. -/
theorem encodeChar_eq (char : Char) : encodeChar char = String.utf8EncodeChar char := by
  have range := toNat_lt_range char
  have code : char.val.toNat = char.toNat := rfl
  have second (value : Nat) : continuation value = UInt8.ofNat (value % 64 + 128) := by
    rw [continuation, Nat.add_comm]
  simp only [encodeChar, String.utf8EncodeChar, code, second]
  by_cases one : char.toNat < 0x80
  · rw [if_pos one, if_pos (show char.toNat ≤ 127 by omega)]
  · rw [if_neg one, if_neg (show ¬ char.toNat ≤ 127 by omega)]
    by_cases two : char.toNat < 0x800
    · have lead : 0xC0 + char.toNat / 0x40 = char.toNat / 64 % 32 + 192 := by omega
      rw [if_pos two, if_pos (show char.toNat ≤ 2047 by omega), lead]
    · rw [if_neg two, if_neg (show ¬ char.toNat ≤ 2047 by omega)]
      by_cases three : char.toNat < 0x10000
      · have lead : 0xE0 + char.toNat / 0x1000 = char.toNat / 4096 % 16 + 224 := by omega
        rw [if_pos three, if_pos (show char.toNat ≤ 65535 by omega), lead]
      · have lead : 0xF0 + char.toNat / 0x40000 = char.toNat / 262144 % 8 + 240 := by omega
        rw [if_neg three, if_neg (show ¬ char.toNat ≤ 65535 by omega), lead]

/-- The bytes of a text are those that the standard library stores it in. -/
theorem encode_eq (text : String) : encode text = text.toByteArray.data.toList := by
  rw [← String.utf8Encode_toList, List.utf8Encode, List.toList_data_toByteArray, encode,
    encodeChars, funext encodeChar_eq]

theorem length_encode (text : String) : (encode text).length = text.utf8ByteSize := by
  rw [encode_eq, Array.length_toList]
  rfl

/-- A text of ASCII characters has one byte for each of them. -/
theorem encodeChars_of_ascii {text : List Char} (ascii : ∀ char ∈ text, char.toNat < 0x80) :
    encodeChars text = text.map fun char => UInt8.ofNat char.toNat := by
  induction text with
  | nil => rfl
  | cons char others inductionHypothesis =>
    obtain ⟨own, rest⟩ := List.forall_mem_cons.mp ascii
    show encodeChar char ++ encodeChars others = _
    rw [encodeChar_of_ascii own, inductionHypothesis rest]
    rfl

end ServiceDiscovery.Utf8
