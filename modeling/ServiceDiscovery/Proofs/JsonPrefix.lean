/-
This file proves that the reader never looks past the end of what it returns: a value that was
read is read again when more bytes follow. Numbers are the one exception, because more digits
can follow them; a number counts as read only if some other byte already ended it. It follows
that no proper beginning of a document is itself a document.
-/

import ServiceDiscovery.Json.Decoding
import ServiceDiscovery.Proofs.JsonReading

namespace ServiceDiscovery.Json

/-! ### Parts of a value -/

theorem literal_append {bytes : Bytes} {pieces : List Piece} {rest : Bytes} (more : Bytes)
    (read : literal? bytes = some (pieces, rest)) :
    literal? (bytes ++ more) = some (pieces, rest ++ more) := by
  fun_induction literal? bytes generalizing pieces rest with
  | case1 => cases read
  | case2 rest' =>
    cases read
    exact literal_end _
  | case3 => cases read
  | case4 first second third fourth rest' _ inductionHypothesis =>
    simp only [Option.bind_eq_bind, Option.bind_eq_some_iff] at read
    obtain ⟨unit, known, ⟨others, after⟩, found, same⟩ := read
    cases same
    show literal? (0x5C :: 0x75 :: first :: second :: third :: fourth :: (rest' ++ more)) = _
    rw [literal_unit known, inductionHypothesis found]
    rfl
  | case5 => cases read
  | case6 letter rest' _ notUnit inductionHypothesis =>
    simp only [Option.bind_eq_bind, Option.bind_eq_some_iff] at read
    obtain ⟨unit, known, ⟨others, after⟩, found, same⟩ := read
    cases same
    show literal? (0x5C :: letter :: (rest' ++ more)) = _
    rw [literal_short _ known, inductionHypothesis found]
    rfl
  | case7 => cases read
  | case8 byte rest' noQuote noEscape noControl inductionHypothesis =>
    simp only [Option.bind_eq_bind, Option.bind_eq_some_iff] at read
    obtain ⟨⟨others, after⟩, found, same⟩ := read
    cases same
    rw [List.cons_append, literal_plain noQuote noEscape (Nat.not_lt.mp noControl),
      inductionHypothesis found]
    rfl

theorem skipBlank_append {bytes rest : Bytes} {byte : UInt8} (more : Bytes)
    (found : skipBlank bytes = byte :: rest) :
    skipBlank (bytes ++ more) = byte :: (rest ++ more) := by
  have nonempty : (bytes.dropWhile isBlankByte).isEmpty = false := by
    rw [show bytes.dropWhile isBlankByte = byte :: rest from found]
    rfl
  rw [skipBlank, List.dropWhile_append, nonempty]
  rw [show bytes.dropWhile isBlankByte = byte :: rest from found]
  rfl

theorem after_append {word bytes rest : Bytes} (more : Bytes)
    (found : after? word bytes = some rest) :
    after? word (bytes ++ more) = some (rest ++ more) := by
  unfold after? at found ⊢
  split at found
  · rename_i same
    cases found
    have long : word.length ≤ bytes.length := by
      have length := congrArg List.length same
      rw [List.length_take] at length
      omega
    rw [if_pos (by rw [List.take_append_of_le_length long, same]),
      List.drop_append_of_le_length long]
  · cases found

theorem readWord_append {word : String} {value result : Json} {bytes rest : Bytes} (more : Bytes)
    (read : readWord word value bytes = (result, some rest)) :
    readWord word value (bytes ++ more) = (result, some (rest ++ more)) := by
  unfold readWord at read ⊢
  split at read
  · rename_i rest' found
    cases read
    rw [after_append more found]
  · cases read

/-! ### Numbers -/

theorem digitRun_append {count value newCount newValue : Nat} {bytes rest : Bytes} (more : Bytes)
    (read : digitRun count value bytes = (newCount, newValue, rest)) (ended : rest ≠ []) :
    digitRun count value (bytes ++ more) = (newCount, newValue, rest ++ more) := by
  induction bytes generalizing count value with
  | nil =>
    cases read
    exact absurd rfl ended
  | cons byte others inductionHypothesis =>
    rw [List.cons_append]
    unfold digitRun at read ⊢
    split at read
    · exact inductionHypothesis read
    · cases read
      rfl

theorem wholePart_append {bytes rest : Bytes} {value : Nat} (more : Bytes)
    (read : wholePart? bytes = some (value, rest)) (ended : rest ≠ []) :
    wholePart? (bytes ++ more) = some (value, rest ++ more) := by
  cases bytes with
  | nil => cases read
  | cons byte others =>
    rw [List.cons_append]
    simp only [wholePart?] at read ⊢
    rcases known : digit? byte with _ | _ | digit
    · rw [known] at read
      cases read
    · rw [known] at read
      obtain ⟨alone, same⟩ := Option.ite_none_left_eq_some.mp read
      cases same
      obtain ⟨next, tail, rfl⟩ := List.exists_cons_of_ne_nil ended
      exact if_neg alone
    · rw [known] at read
      rcases run : digitRun 0 (digit + 1) others with ⟨count, newValue, after⟩
      simp only [run, Option.some.injEq, Prod.mk.injEq] at read
      obtain ⟨rfl, rfl⟩ := read
      simp only [digitRun_append more run ended]

theorem fractionPart_append {bytes rest : Bytes} {value newValue places : Nat} (more : Bytes)
    (read : fractionPart? value bytes = some (places, newValue, rest)) (ended : rest ≠ []) :
    fractionPart? value (bytes ++ more) = some (places, newValue, rest ++ more) := by
  cases bytes with
  | nil =>
    cases read
    exact absurd rfl ended
  | cons byte others =>
    rw [List.cons_append]
    by_cases point : byte = 0x2E
    · simp only [fractionPart?, if_pos point] at read ⊢
      rcases run : digitRun 0 value others with ⟨count, found, after⟩
      rw [run] at read
      cases count with
      | zero => cases read
      | succ count =>
        simp only [Option.some.injEq, Prod.mk.injEq] at read
        obtain ⟨rfl, rfl, rfl⟩ := read
        rw [digitRun_append more run ended]
        rfl
    · simp only [fractionPart?, if_neg point] at read ⊢
      cases read
      rfl

/-- The exponent with a given sign whose digits come next. -/
def signed? (negative : Bool) (digits : Bytes) : Option (Int × Bytes) :=
  if (digitRun 0 0 digits).1 = 0 then none
  else some (if negative then -((digitRun 0 0 digits).2.1 : Int) else (digitRun 0 0 digits).2.1,
    (digitRun 0 0 digits).2.2)

theorem exponentPart_marked {mark : UInt8} (marked : mark = 0x65 ∨ mark = 0x45) (sign : UInt8)
    (others : Bytes) :
    exponentPart? (mark :: sign :: others) =
      if sign = 0x2D then signed? true others
      else if sign = 0x2B then signed? false others
      else signed? false (sign :: others) := by
  by_cases minus : sign = 0x2D
  · simp only [exponentPart?, if_pos marked, if_pos minus, signed?]
    rcases digitRun 0 0 others with ⟨_ | count, value, after⟩ <;> rfl
  · by_cases plus : sign = 0x2B
    · simp only [exponentPart?, if_pos marked, if_neg minus, if_pos plus, signed?]
      rcases digitRun 0 0 others with ⟨_ | count, value, after⟩ <;> rfl
    · simp only [exponentPart?, if_pos marked, if_neg minus, if_neg plus, signed?]
      rcases digitRun 0 0 (sign :: others) with ⟨_ | count, value, after⟩ <;> rfl

theorem signed_append {negative : Bool} {digits rest : Bytes} {exponent : Int} (more : Bytes)
    (read : signed? negative digits = some (exponent, rest)) (ended : rest ≠ []) :
    signed? negative (digits ++ more) = some (exponent, rest ++ more) := by
  rcases run : digitRun 0 0 digits with ⟨count, value, after⟩
  rw [signed?, run] at read
  by_cases none : count = 0
  · rw [if_pos none] at read
    cases read
  · rw [if_neg none] at read
    cases read
    rw [signed?, digitRun_append more run ended, if_neg none]

theorem exponentPart_append {bytes rest : Bytes} {exponent : Int} (more : Bytes)
    (read : exponentPart? bytes = some (exponent, rest)) (ended : rest ≠ []) :
    exponentPart? (bytes ++ more) = some (exponent, rest ++ more) := by
  cases bytes with
  | nil =>
    cases read
    exact absurd rfl ended
  | cons byte others =>
    by_cases mark : byte = 0x65 ∨ byte = 0x45
    · cases others with
      | nil =>
        simp only [exponentPart?, if_pos mark] at read
        cases read
      | cons sign others =>
        rw [List.cons_append, List.cons_append, exponentPart_marked mark]
        rw [exponentPart_marked mark] at read
        by_cases minus : sign = 0x2D
        · rw [if_pos minus] at read ⊢
          exact signed_append more read ended
        · rw [if_neg minus] at read ⊢
          by_cases plus : sign = 0x2B
          · rw [if_pos plus] at read ⊢
            exact signed_append more read ended
          · rw [if_neg plus] at read ⊢
            exact signed_append more read ended
    · rw [List.cons_append]
      simp only [exponentPart?, if_neg mark] at read ⊢
      cases read
      rfl

theorem number_append {bytes rest : Bytes} {value : Decimal} (more : Bytes)
    (read : number? bytes = some (value, rest)) (ended : rest ≠ []) :
    number? (bytes ++ more) = some (value, rest ++ more) := by
  -- The parts after the sign, which are the same for both signs.
  have unsigned : ∀ {negative : Bool} {digits : Bytes},
      ((wholePart? digits).bind fun whole => (fractionPart? whole.1 whole.2).bind fun fraction =>
        (exponentPart? fraction.2.2).bind fun exponent =>
          some (Decimal.mk negative fraction.2.1 (exponent.1 - fraction.1), exponent.2)) =
        some (value, rest) →
      ((wholePart? (digits ++ more)).bind fun whole =>
        (fractionPart? whole.1 whole.2).bind fun fraction =>
          (exponentPart? fraction.2.2).bind fun exponent =>
            some (Decimal.mk negative fraction.2.1 (exponent.1 - fraction.1), exponent.2)) =
        some (value, rest ++ more) := by
    intro negative digits read
    simp only [Option.bind_eq_some_iff] at read
    obtain ⟨⟨whole, afterWhole⟩, readWhole, ⟨places, digits', afterFraction⟩, readFraction,
      ⟨exponent, afterExponent⟩, readExponent, same⟩ := read
    cases same
    have endedFraction : afterFraction ≠ [] := by
      rintro rfl
      cases readExponent
      exact ended rfl
    have endedWhole : afterWhole ≠ [] := by
      rintro rfl
      cases readFraction
      exact endedFraction rfl
    simp only [wholePart_append more readWhole endedWhole, Option.bind_some,
      fractionPart_append more readFraction endedFraction,
      exponentPart_append more readExponent ended]
  cases bytes with
  | nil => cases read
  | cons sign others =>
    by_cases minus : sign = 0x2D
    · simp only [number?, List.cons_append, if_pos minus] at read ⊢
      exact unsigned read
    · simp only [number?, List.cons_append, if_neg minus] at read ⊢
      exact unsigned read

/-! ### Values, items and members -/

/-- What is read with this fuel is read again with as much fuel or more when other bytes follow.
A value has to be ended by a byte after it or by its own last byte. -/
structure Steady (fuel : Nat) : Prop where
  value : ∀ {bytes rest : Bytes} {value : Json} {larger : Nat} (more : Bytes), fuel ≤ larger →
    readValue fuel bytes = (value, some rest) →
    (rest ≠ [] ∨ ∀ digits, value ≠ .number digits) →
    readValue larger (bytes ++ more) = (value, some (rest ++ more))
  items : ∀ {bytes rest : Bytes} {items : List Json} {larger : Nat} (more : Bytes),
    fuel ≤ larger → readItems fuel bytes = (items, some rest) →
    readItems larger (bytes ++ more) = (items, some (rest ++ more))
  members : ∀ {bytes rest : Bytes} {members : List (Option String × Json)} {larger : Nat}
    (more : Bytes), fuel ≤ larger → readMembers fuel bytes = (members, some rest) →
    readMembers larger (bytes ++ more) = (members, some (rest ++ more))

theorem skipBlank_of_readValue {fuel : Nat} {bytes rest : Bytes} {value : Json}
    (read : readValue fuel bytes = (value, some rest)) :
    ∃ byte others, skipBlank bytes = byte :: others := by
  cases fuel with
  | zero => cases read
  | succ fuel =>
    cases found : skipBlank bytes with
    | nil =>
      rw [readValue, found] at read
      cases read
    | cons byte others => exact ⟨byte, others, rfl⟩

theorem skipBlank_of_readItems {fuel : Nat} {bytes rest : Bytes} {items : List Json}
    (read : readItems fuel bytes = (items, some rest)) :
    ∃ byte others, skipBlank bytes = byte :: others := by
  cases fuel with
  | zero => cases read
  | succ fuel =>
    rcases first : readValue fuel bytes with ⟨item, _ | after⟩
    · rw [readItems, first] at read
      cases read
    · exact skipBlank_of_readValue first

theorem skipBlank_of_readMembers {fuel : Nat} {bytes rest : Bytes}
    {members : List (Option String × Json)}
    (read : readMembers fuel bytes = (members, some rest)) :
    ∃ byte others, skipBlank bytes = byte :: others := by
  cases fuel with
  | zero => cases read
  | succ fuel =>
    cases found : skipBlank bytes with
    | nil =>
      rw [readMembers, found] at read
      cases read
    | cons byte others => exact ⟨byte, others, rfl⟩

theorem readAs_append {Found : Type} {make : Found → Json} {found : Option (Found × Bytes)}
    {value : Json} {rest : Bytes} (read : readAs make found = (value, some rest)) :
    ∃ part, found = some (part, rest) ∧ value = make part := by
  rcases found with _ | ⟨part, after⟩
  · cases read
  · cases read
    exact ⟨part, rfl, rfl⟩

/-- A text behind its opening quote. -/
def quoted (bytes : Bytes) : Json × Option Bytes :=
  readAs (fun pieces => .string (textOf pieces)) (literal? bytes)

theorem quoted_append {bytes rest : Bytes} {value : Json} (more : Bytes)
    (read : quoted bytes = (value, some rest)) :
    quoted (bytes ++ more) = (value, some (rest ++ more)) := by
  obtain ⟨pieces, literal, rfl⟩ := readAs_append read
  rw [quoted, literal_append more literal]
  rfl

/-- A value made of parts, behind the byte that opens it: it ends at once, or after its parts. -/
def enclosed {Part : Type} (make : List Part → Json) (last : UInt8)
    (parts : Bytes → List Part × Option Bytes) (bytes : Bytes) : Json × Option Bytes :=
  if (skipBlank bytes).head? = some last then (make [], some (skipBlank bytes).tail)
  else (make (parts bytes).1, (parts bytes).2)

section Enclosed

variable {Part : Type} {make : List Part → Json} {last : UInt8} {bytes : Bytes}
  {parts : Bytes → List Part × Option Bytes}

theorem enclosed_of_closed {after : Bytes} (closed : skipBlank bytes = last :: after) :
    enclosed make last parts bytes = (make [], some after) := by
  rw [enclosed, closed]
  exact if_pos rfl

theorem enclosed_of_open (opened : ∀ after, skipBlank bytes ≠ last :: after) :
    enclosed make last parts bytes = (make (parts bytes).1, (parts bytes).2) :=
  if_neg fun closed =>
    have ⟨after, seen⟩ := List.head?_eq_some_iff.mp closed
    opened after seen

/-- A value made of parts is steady if they are. There is something to see before them, so it is
clear already that it does not end at once. -/
theorem enclosed_append {largerParts : Bytes → List Part × Option Bytes} {rest : Bytes}
    {value : Json} (more : Bytes)
    (steady : ∀ {found after}, parts bytes = (found, some after) →
      largerParts (bytes ++ more) = (found, some (after ++ more)) ∧
        ∃ byte others, skipBlank bytes = byte :: others)
    (read : enclosed make last parts bytes = (value, some rest)) :
    enclosed make last largerParts (bytes ++ more) = (value, some (rest ++ more)) := by
  by_cases closed : ∃ after, skipBlank bytes = last :: after
  · obtain ⟨after, closed⟩ := closed
    rw [enclosed_of_closed closed] at read
    cases read
    exact enclosed_of_closed (skipBlank_append more closed)
  · rw [enclosed_of_open (not_exists.mp closed)] at read
    rcases found : parts bytes with ⟨list, after⟩
    rw [found] at read
    cases read
    obtain ⟨larger, byte, others, seen⟩ := steady found
    have opened : ∀ after, skipBlank (bytes ++ more) ≠ last :: after := by
      intro after same
      rw [skipBlank_append more seen] at same
      cases same
      exact closed ⟨others, seen⟩
    rw [enclosed_of_open opened, larger]

end Enclosed

theorem numeric_append {bytes rest : Bytes} {value : Json} (more : Bytes)
    (read : readAs .number (number? bytes) = (value, some rest))
    (ended : rest ≠ [] ∨ ∀ digits, value ≠ .number digits) :
    readAs .number (number? (bytes ++ more)) = (value, some (rest ++ more)) := by
  obtain ⟨digits, number, rfl⟩ := readAs_append read
  rcases ended with ended | noNumber
  · rw [number_append more number ended]
    rfl
  · exact absurd rfl (noNumber digits)

/-- The first byte that can be seen decides which kind of value is read. -/
theorem readValue_of_seen (fuel : Nat) {bytes others : Bytes} {byte : UInt8}
    (seen : skipBlank bytes = byte :: others) :
    readValue (fuel + 1) bytes =
      if byte = 0x22 then quoted others
      else if byte = 0x5B then enclosed .array 0x5D (readItems fuel) others
      else if byte = 0x7B then enclosed .object 0x7D (readMembers fuel) others
      else if byte = 0x6E then readWord "null" .null (byte :: others)
      else if byte = 0x74 then readWord "true" (.bool true) (byte :: others)
      else if byte = 0x66 then readWord "false" (.bool false) (byte :: others)
      else readAs .number (number? (byte :: others)) := by
  rw [readValue, seen]
  refine ite_congr rfl (fun _ => rfl) fun _ => ite_congr rfl (fun _ => ?_) fun _ =>
    ite_congr rfl (fun _ => ?_) fun _ => rfl
  · split
    · rename_i closed
      exact (enclosed_of_closed closed).symm
    · rename_i opened
      exact (enclosed_of_open opened).symm
  · split
    · rename_i closed
      exact (enclosed_of_closed closed).symm
    · rename_i opened
      exact (enclosed_of_open opened).symm

/-- The step for values: each kind of value is steady if items and members are. -/
theorem Steady.next_value {fuel : Nat} (steady : Steady fuel) {bytes rest : Bytes} {value : Json}
    {larger : Nat} (more : Bytes) (enough : fuel ≤ larger)
    (read : readValue (fuel + 1) bytes = (value, some rest))
    (ended : rest ≠ [] ∨ ∀ digits, value ≠ .number digits) :
    readValue (larger + 1) (bytes ++ more) = (value, some (rest ++ more)) := by
  obtain ⟨byte, others, seen⟩ := skipBlank_of_readValue read
  rw [readValue_of_seen fuel seen] at read
  rw [readValue_of_seen larger (skipBlank_append more seen)]
  by_cases quote : byte = 0x22
  · rw [if_pos quote] at read ⊢
    exact quoted_append more read
  rw [if_neg quote] at read ⊢
  by_cases bracket : byte = 0x5B
  · rw [if_pos bracket] at read ⊢
    exact enclosed_append more (fun items =>
      ⟨steady.items more enough items, skipBlank_of_readItems items⟩) read
  rw [if_neg bracket] at read ⊢
  by_cases brace : byte = 0x7B
  · rw [if_pos brace] at read ⊢
    exact enclosed_append more (fun members =>
      ⟨steady.members more enough members, skipBlank_of_readMembers members⟩) read
  rw [if_neg brace] at read ⊢
  by_cases null : byte = 0x6E
  · rw [if_pos null] at read ⊢
    exact readWord_append more read
  rw [if_neg null] at read ⊢
  by_cases yes : byte = 0x74
  · rw [if_pos yes] at read ⊢
    exact readWord_append more read
  rw [if_neg yes] at read ⊢
  by_cases no : byte = 0x66
  · rw [if_pos no] at read ⊢
    exact readWord_append more read
  rw [if_neg no] at read ⊢
  exact numeric_append more read ended

theorem Steady.next_items {fuel : Nat} (steady : Steady fuel) {bytes rest : Bytes}
    {items : List Json} {larger : Nat} (more : Bytes) (enough : fuel ≤ larger)
    (read : readItems (fuel + 1) bytes = (items, some rest)) :
    readItems (larger + 1) (bytes ++ more) = (items, some (rest ++ more)) := by
  rcases first : readValue fuel bytes with ⟨item, _ | after⟩
  · rw [readItems, first] at read
    cases read
  · rw [readItems, first] at read
    simp only at read
    have ended : after ≠ [] := by
      rintro rfl
      cases read
    rw [readItems, steady.value more enough first (Or.inl ended)]
    simp only
    split at read
    · rename_i others comma
      rcases tail : readItems fuel others with ⟨found, left⟩
      rw [tail] at read
      cases read
      rw [skipBlank_append more comma]
      simp only [steady.items more enough tail]
    · rename_i others closed
      cases read
      rw [skipBlank_append more closed]
      rfl
    · cases read

theorem Steady.next_members {fuel : Nat} (steady : Steady fuel) {bytes rest : Bytes}
    {members : List (Option String × Json)} {larger : Nat} (more : Bytes) (enough : fuel ≤ larger)
    (read : readMembers (fuel + 1) bytes = (members, some rest)) :
    readMembers (larger + 1) (bytes ++ more) = (members, some (rest ++ more)) := by
  rw [readMembers] at read ⊢
  split at read
  · rename_i others quote
    rw [skipBlank_append more quote]
    simp only
    split at read
    · cases read
    · rename_i pieces afterKey literal
      rw [literal_append more literal]
      simp only
      split at read
      · rename_i afterColon colon
        rw [skipBlank_append more colon]
        simp only
        split at read
        · cases read
        · rename_i value after first
          have ended : after ≠ [] := by
            rintro rfl
            cases read
          rw [steady.value more enough first (Or.inl ended)]
          simp only
          split at read
          · rename_i left comma
            rcases tail : readMembers fuel left with ⟨found, last⟩
            rw [tail] at read
            cases read
            rw [skipBlank_append more comma]
            simp only [steady.members more enough tail]
          · rename_i left closed
            cases read
            rw [skipBlank_append more closed]
            rfl
          · cases read
      · cases read
  · cases read

theorem steady (fuel : Nat) : Steady fuel := by
  induction fuel with
  | zero =>
    constructor
    · intro bytes rest value larger more _ read _
      cases read
    · intro bytes rest items larger more _ read
      cases read
    · intro bytes rest members larger more _ read
      cases read
  | succ fuel inductionHypothesis =>
    have less : ∀ {larger : Nat}, fuel + 1 ≤ larger →
        ∃ fewer, larger = fewer + 1 ∧ fuel ≤ fewer := by
      intro larger enough
      exact ⟨larger - 1, by omega, by omega⟩
    constructor
    · intro bytes rest value larger more enough read ended
      obtain ⟨fewer, rfl, fewerEnough⟩ := less enough
      exact inductionHypothesis.next_value more fewerEnough read ended
    · intro bytes rest items larger more enough read
      obtain ⟨fewer, rfl, fewerEnough⟩ := less enough
      exact inductionHypothesis.next_items more fewerEnough read
    · intro bytes rest members larger more enough read
      obtain ⟨fewer, rfl, fewerEnough⟩ := less enough
      exact inductionHypothesis.next_members more fewerEnough read

/-! ### Beginnings of documents -/

theorem object_of_readValue {fuel : Nat} {bytes rest : Bytes} {value : Json}
    (read : readValue fuel (0x7B :: bytes) = (value, some rest)) :
    ∃ members, value = .object members := by
  cases fuel with
  | zero => cases read
  | succ fuel =>
    rw [readValue, skipBlank_cons (by decide)] at read
    simp only [if_neg (show ¬ (0x7B : UInt8) = 0x22 by decide),
      if_neg (show ¬ (0x7B : UInt8) = 0x5B by decide), if_true] at read
    split at read
    · cases read
      exact ⟨[], rfl⟩
    · exact ⟨_, (Prod.mk.inj read).1.symm⟩

/-- A text that starts with a brace and goes on after the object was read does not end before
the object does: otherwise the same object would have been read earlier. -/
theorem readValue_beginning {fuel larger : Nat} {bytes more : Bytes} {value : Json}
    (enough : fuel ≤ larger)
    (whole : readValue larger (0x7B :: bytes ++ more) = (value, some [])) (proper : more ≠ []) :
    (readValue fuel (0x7B :: bytes)).2 = none := by
  rcases early : readValue fuel (0x7B :: bytes) with ⟨found, _ | rest⟩
  · rfl
  · obtain ⟨members, rfl⟩ := object_of_readValue early
    have again := (steady fuel).value more enough early (Or.inr fun digits => Json.noConfusion)
    rw [whole] at again
    simp only [Prod.mk.injEq, Option.some.injEq] at again
    exact absurd (List.append_eq_nil_iff.mp again.2.symm).2 proper

/-- No proper beginning of a written object is a document. -/
theorem ended_ofBytes_beginning {members : List (Option String × Json)} {bytes more : Bytes}
    (simple : isSimple (.object members) = true)
    (written : bytes ++ more = toBytes (.object members)) (proper : more ≠ []) :
    (ofBytes bytes).ended = false := by
  cases bytes with
  | nil => rfl
  | cons byte others =>
    have brace : byte = 0x7B := by
      rw [toBytes, render, List.cons_append, List.cons_append,
        encodeChars_cons_of_ascii (by decide)] at written
      exact (List.cons.inj written).1
    subst brace
    have short : (render (.object members)).length ≤ (toBytes (.object members)).length :=
      Utf8.length_le_length_encodeChars _
    have whole := readValue_render (.object members)
      (2 * (0x7B :: others ++ more).length + 2) [] simple (by rw [written]; omega)
    rw [List.append_nil, ← toBytes, ← written] at whole
    have cut : (readValue (2 * (0x7B :: others).length + 2) (0x7B :: others)).2 = none := by
      refine readValue_beginning ?_ whole proper
      rw [List.length_append]
      omega
    rw [ofBytes]
    rcases early : readValue (2 * (0x7B :: others).length + 2) (0x7B :: others) with ⟨found, rest⟩
    rw [early] at cut
    subst cut
    rfl

/-- Nothing is decoded from a proper beginning of a written object. -/
theorem decode_ofBytes_beginning {Result : Type} {members : List (Option String × Json)}
    {bytes more : Bytes} (simple : isSimple (.object members) = true)
    (written : bytes ++ more = toBytes (.object members)) (proper : more ≠ [])
    (read : Json → Except Fault Result) :
    ∃ fault, (ofBytes bytes).decode read = .error fault := by
  have cut := ended_ofBytes_beginning simple written proper
  cases found : read (ofBytes bytes).root with
  | error fault =>
    refine ⟨fault, ?_⟩
    simp only [Document.decode, found, bind, Except.bind]
  | ok result =>
    refine ⟨.malformed, ?_⟩
    simp only [Document.decode, found, cut, bind, Except.bind, Bool.false_eq_true, if_false]

end ServiceDiscovery.Json
