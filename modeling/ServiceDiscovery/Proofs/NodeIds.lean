/-
This file proves which texts name nodes and topics. It takes 64 hexadecimal digits, in either case,
and the value is written as the same digits in lower case; of every other text the reader says what
is wrong with it first. Inside JSON the text is a string literal, and the topic of an envelope is
read from such a literal by the same rule, wherever the envelope has it.
-/

import ServiceDiscovery.Proofs.Attempts
import ServiceDiscovery.Proofs.VersionDisplay

namespace ServiceDiscovery

/-! ### Texts of digits -/

namespace Hex

theorem toNat_lt_of_isHexDigit {char : Char} (digit : char.isHexDigit = true) :
    char.toNat < 0x80 := by
  have code : char.val.toNat = char.toNat := rfl
  simp only [Char.isHexDigit, Char.isDigit, Bool.or_eq_true, Bool.and_eq_true, decide_eq_true_eq,
    ge_iff_le, UInt32.le_iff_toNat_le, code] at digit
  have bound : '9'.val.toNat < 0x80 ∧ 'f'.val.toNat < 0x80 ∧ 'F'.val.toNat < 0x80 := by decide
  omega

theorem toNat_charOf (byte : UInt8) : (charOf byte).toNat = byte.toNat := by
  have range := byte.toNat_lt
  have valid : byte.toNat.isValidChar := Or.inl (by omega)
  rw [charOf, Char.ofNat, dif_pos valid]
  rfl

theorem charOf_of_ascii {char : Char} (ascii : char.toNat < 0x80) :
    charOf (UInt8.ofNat char.toNat) = char := by
  rw [charOf, Utf8.toNat_byte (by omega), Char.ofNat_toNat]

/-- A character is a digit if its bytes are. -/
theorem forall_mem_encodeChar_iff (char : Char) :
    (∀ byte ∈ Utf8.encodeChar char, (charOf byte).isHexDigit = true) ↔
      char.isHexDigit = true := by
  by_cases ascii : char.toNat < 0x80
  · rw [Utf8.encodeChar_of_ascii ascii, List.forall_mem_singleton, charOf_of_ascii ascii]
  · refine iff_of_false (fun all => ?_) (mt toNat_lt_of_isHexDigit ascii)
    obtain ⟨byte, rest, bytes⟩ := List.exists_cons_of_ne_nil (Utf8.encodeChar_ne_nil char)
    have member : byte ∈ Utf8.encodeChar char := bytes ▸ List.mem_cons_self
    have high := Utf8.high_of_mem_encodeChar (Nat.not_lt.mp ascii) byte member
    have low := toNat_lt_of_isHexDigit (all byte member)
    rw [toNat_charOf] at low
    omega

theorem forall_mem_encodeChars_iff (text : List Char) :
    (∀ byte ∈ Utf8.encodeChars text, (charOf byte).isHexDigit = true) ↔
      ∀ char ∈ text, char.isHexDigit = true := by
  rw [Utf8.encodeChars, List.forall_mem_flatMap]
  simp only [forall_mem_encodeChar_iff]

theorem map_charOf_encodeChars {text : List Char} (all : ∀ char ∈ text, char.isHexDigit = true) :
    (Utf8.encodeChars text).map charOf = text := by
  have ascii : ∀ char ∈ text, char.toNat < 0x80 := fun char member =>
    toNat_lt_of_isHexDigit (all char member)
  rw [Utf8.encodeChars_of_ascii ascii, List.map_map]
  calc text.map (charOf ∘ fun char => UInt8.ofNat char.toNat)
      = text.map id := List.map_congr_left fun char member => charOf_of_ascii (ascii char member)
    _ = text := List.map_id text

theorem length_encodeChars_of_digits {text : List Char}
    (all : ∀ char ∈ text, char.isHexDigit = true) :
    (Utf8.encodeChars text).length = text.length := by
  rw [Utf8.encodeChars_of_ascii fun char member => toNat_lt_of_isHexDigit (all char member),
    List.length_map]

theorem digitChar_eq {value : Nat} (small : value < 16) :
    digitChar value = Nat.digitChar value := by
  have each : ∀ digit : Fin 16, digitChar digit = Nat.digitChar digit := by decide
  exact each ⟨value, small⟩

theorem encodeChars_eq (bytes : Bytes) :
    encodeChars bytes = bytes.flatMap fun byte =>
      [Nat.digitChar (byte.toNat / 16), Nat.digitChar (byte.toNat % 16)] := by
  refine congrArg bytes.flatMap (funext fun byte => ?_)
  have range := byte.toNat_lt
  rw [encodeByte, digitChar_eq (by omega), digitChar_eq (by omega)]

end Hex

/-! ### Texts of 32 bytes -/

namespace Bytes32

variable {text : String} {value : Bytes32}

theorem map_bytes_parse (text : String) :
    (parse text).map bytes = Hex.decodeDigits 32 (Utf8.encode text) := by
  unfold parse
  split <;> rename_i read <;> exact read.symm

theorem parse_eq_ok_iff :
    parse text = .ok value ↔ Hex.Reads 32 (Utf8.encode text) (.ok value.bytes) := by
  rw [← Hex.decodeDigits_eq_iff]
  refine ⟨fun parsed => ?_, parse_of_decodeExact⟩
  rw [← map_bytes_parse, parsed]
  rfl

theorem parse_eq_error_iff {fault : Hex.Error} :
    parse text = .error fault ↔ Hex.Reads 32 (Utf8.encode text) (.error fault) := by
  rw [← Hex.decodeDigits_eq_iff, ← map_bytes_parse]
  cases parse text with
  | ok value => exact iff_of_false nofun nofun
  | error other => simp only [Except.map, Except.error.injEq]

/-- The texts that are accepted have 64 characters, all of them digits. -/
theorem exists_parse_iff :
    (∃ value, parse text = .ok value) ↔
      text.length = 64 ∧ ∀ char ∈ text.toList, char.isHexDigit = true := by
  rw [← Hex.forall_mem_encodeChars_iff, ← String.length_toList]
  constructor
  · rintro ⟨value, parsed⟩
    cases parse_eq_ok_iff.mp parsed with
    | read length all lowered =>
      refine ⟨?_, all⟩
      rw [← Hex.length_encodeChars_of_digits ((Hex.forall_mem_encodeChars_iff _).mp all)]
      exact length
  · rintro ⟨length, all⟩
    have bytes : (Utf8.encode text).length = 64 :=
      (Hex.length_encodeChars_of_digits ((Hex.forall_mem_encodeChars_iff _).mp all)).trans length
    cases parsed : parse text with
    | ok value => exact ⟨value, rfl⟩
    | error fault =>
      cases parse_eq_error_iff.mp parsed with
      | odd odd => omega
      | unfit even unfit => omega
      | stray _ first => exact absurd (all _ first.mem) (Bool.eq_false_iff.mp first.1)

/-! ### What is wrong with a text -/

theorem parse_eq_oddLength_iff :
    parse text = .error .oddLength ↔ text.utf8ByteSize % 2 = 1 := by
  rw [parse_eq_error_iff, ← Utf8.length_encode]
  refine ⟨fun reads => ?_, .odd⟩
  cases reads with
  | odd length => exact length

theorem parse_eq_wrongLength_iff :
    parse text = .error .wrongLength ↔ text.utf8ByteSize % 2 = 0 ∧ text.utf8ByteSize ≠ 64 := by
  rw [parse_eq_error_iff, ← Utf8.length_encode]
  refine ⟨fun reads => ?_, fun both => .unfit both.1 both.2⟩
  cases reads with
  | unfit even length => exact ⟨even, length⟩

theorem parse_eq_badDigit_iff {byte : UInt8} {position : Nat} :
    parse text = .error (.badDigit byte position) ↔
      text.utf8ByteSize = 64 ∧ Hex.IsFirstStray text.toByteArray.data.toList byte position := by
  rw [parse_eq_error_iff, ← Utf8.length_encode, ← Utf8.encode_eq]
  refine ⟨fun reads => ?_, fun both => .stray both.1 both.2⟩
  cases reads with
  | stray length first => exact ⟨length, first⟩

/-! ### What is written -/

theorem display_eq (value : Bytes32) :
    value.display = String.ofList (value.bytes.flatMap fun byte =>
      [Nat.digitChar (byte.toNat / 16), Nat.digitChar (byte.toNat % 16)]) :=
  congrArg String.ofList (Hex.encodeChars_eq value.bytes)

/-- What is accepted is written in lower case. -/
theorem display_of_parse (parsed : parse text = .ok value) : value.display = text.toLower := by
  cases parse_eq_ok_iff.mp parsed with
  | read length all lowered =>
    have digits := (Hex.forall_mem_encodeChars_iff _).mp all
    have same : Hex.encodeChars value.bytes = text.toList.map Char.toLower := by
      rw [lowered, ← Function.comp_def Char.toLower, ← List.map_map]
      exact congrArg _ (Hex.map_charOf_encodeChars digits)
    show value.display = text.map Char.toLower
    rw [display, Hex.encode, same, ← String.toList_map, String.ofList_toList]

theorem unescaped (value : Bytes32) :
    ∀ char ∈ Hex.encodeChars value.bytes, Json.isEscaped char = false := by
  have each : ∀ digit : Fin 16, Json.isEscaped (Nat.digitChar digit) = false := by decide
  intro char member
  rw [Hex.encodeChars_eq, List.mem_flatMap] at member
  obtain ⟨byte, _, half⟩ := member
  have range := byte.toNat_lt
  simp only [List.mem_cons, List.not_mem_nil, or_false] at half
  rcases half with rfl | rfl
  · exact each ⟨byte.toNat / 16, by omega⟩
  · exact each ⟨byte.toNat % 16, by omega⟩

theorem display_toJson (value : Bytes32) :
    value.toJson.display = "\"" ++ value.display ++ "\"" :=
  Json.display_text_of_unescaped value.unescaped

theorem render_toJson (value : Bytes32) :
    value.toJson.render = '"' :: value.display.toList ++ ['"'] := by
  have written := congrArg String.toList value.display_toJson
  rwa [Json.display, String.toList_ofList, String.toList_append, String.toList_append] at written

theorem decode_toJson (value : Bytes32) :
    (Json.ofBytes value.toJson.toBytes).decode ofJson = .ok value :=
  Json.decode_toBytes_text value.parse_display

end Bytes32

/-! ### The topic of an envelope -/

namespace Envelope

variable {draft next last : Draft} {given other : Json} {topic : Topic} {envelope : Envelope}

/-- The topic is taken once, from the text of one. -/
theorem member_topic_eq_ok_iff :
    member draft "topic" given = .ok next ↔
      draft.topic = none ∧ ∃ topic, Bytes32.ofJson given = .ok topic ∧
        next = { draft with topic := some topic } := by
  show (Json.fill draft.topic Bytes32.ofJson given >>= fun slot =>
    .ok { draft with topic := slot }) = .ok next ↔ _
  simp only [Except.bind_eq_ok_iff, Json.fill_eq_ok_iff, Except.ok.injEq]
  constructor
  · rintro ⟨_, ⟨missing, topic, read, rfl⟩, rfl⟩
    exact ⟨missing, topic, read, rfl⟩
  · rintro ⟨missing, topic, read, rfl⟩
    exact ⟨_, ⟨missing, topic, read, rfl⟩, rfl⟩

theorem member_topic_congr (same : Bytes32.ofJson given = Bytes32.ofJson other) (draft : Draft) :
    member draft "topic" given = member draft "topic" other := by
  show (Json.fill draft.topic Bytes32.ofJson given >>= _) =
    (Json.fill draft.topic Bytes32.ofJson other >>= _)
  unfold Json.fill
  rw [same]

/-- No other member changes the topic. -/
theorem topic_of_member {key : String} (apart : key ≠ "topic")
    (taken : member draft key given = .ok next) : next.topic = draft.topic := by
  unfold member at taken
  split at taken
  · obtain ⟨_, _, same⟩ := Except.bind_eq_ok_iff.mp taken
    cases same
    rfl
  · obtain ⟨_, _, same⟩ := Except.bind_eq_ok_iff.mp taken
    cases same
    rfl
  · exact absurd rfl apart
  · obtain ⟨_, _, same⟩ := Except.bind_eq_ok_iff.mp taken
    cases same
    rfl
  · unfold Json.skipping at taken
    split at taken <;> cases taken
    rfl

/-- A topic that was taken stays, and one that was not taken before has a member of its own. -/
theorem topic_of_foldMembers {members : List (Option String × Json)}
    (taken : Json.foldMembers member draft members = .ok last) :
    (∀ topic, draft.topic = some topic → last.topic = some topic) ∧
      ((∀ given, (some "topic", given) ∉ members) → last.topic = draft.topic) := by
  induction members generalizing draft with
  | nil =>
    cases taken
    exact ⟨fun _ => id, fun _ => rfl⟩
  | cons first others inductionHypothesis =>
    obtain ⟨_ | key, value⟩ := first
    · cases taken
    · obtain ⟨next, first, rest⟩ := Except.bind_eq_ok_iff.mp taken
      obtain ⟨kept, absent⟩ := inductionHypothesis rest
      by_cases own : key = "topic"
      · subst own
        obtain ⟨missing, _⟩ := member_topic_eq_ok_iff.mp first
        exact ⟨fun topic known => absurd (missing.symm.trans known) nofun,
          fun unnamed => absurd List.mem_cons_self (unnamed value)⟩
      · rw [topic_of_member own first] at kept absent
        exact ⟨kept, fun unnamed => absent fun given member =>
          unnamed given (List.mem_cons_of_mem _ member)⟩

/-- A place for the topic in a document: as a member of an object, between others, or as the third
item of an array. -/
inductive TopicPlace where
  | member (before after : List (Option String × Json))
  | item (sender node : Json) (after : List Json)

/-- The document with a value in the place. -/
def TopicPlace.document : TopicPlace → Json → Json
  | .member before after, topic => .object (before ++ (some "topic", topic) :: after)
  | .item sender node after, topic => .array (sender :: node :: topic :: after)

/-- Only the topic that a value stands for matters. -/
theorem ofJson_document_congr (same : Bytes32.ofJson given = Bytes32.ofJson other)
    (place : TopicPlace) : ofJson (place.document given) = ofJson (place.document other) := by
  cases place with
  | member before after =>
    show Json.foldMembers Envelope.member {} (before ++ _) >>= finish =
      Json.foldMembers Envelope.member {} (before ++ _) >>= finish
    simp only [Json.foldMembers_append, Json.foldMembers, member_topic_congr same]
  | item sender node after =>
    show row (sender :: node :: given :: after) = row (sender :: node :: other :: after)
    simp only [row, Json.firstItem_cons_bind, same]

theorem topic_of_finish (finished : finish last = .ok envelope) :
    last.topic = some envelope.topic := by
  unfold finish at finished
  simp only [Except.bind_eq_ok_iff, Except.ok.injEq] at finished
  obtain ⟨_, _, _, _, topic, found, _, _, rfl⟩ := finished
  unfold Json.required at found
  split at found <;> cases found
  assumption

/-- The topic of an envelope that was read is that which stands in its place. -/
theorem topic_of_document {place : TopicPlace}
    (read : ofJson (place.document given) = .ok envelope) :
    Bytes32.ofJson given = .ok envelope.topic := by
  cases place with
  | member before after =>
    obtain ⟨last, folded, finished⟩ := Except.bind_eq_ok_iff.mp
      (show Json.foldMembers Envelope.member {} (before ++ _) >>= finish = .ok envelope from read)
    rw [Json.foldMembers_append] at folded
    obtain ⟨draft, _, folded⟩ := Except.bind_eq_ok_iff.mp folded
    obtain ⟨next, taken, folded⟩ := Except.bind_eq_ok_iff.mp folded
    obtain ⟨_, topic, own, rfl⟩ := member_topic_eq_ok_iff.mp taken
    have kept := (topic_of_foldMembers folded).1 topic rfl
    rw [topic_of_finish finished, Option.some.injEq] at kept
    rw [own, kept]
  | item sender node after =>
    have read : row (sender :: node :: given :: after) = .ok envelope := read
    simp only [row, Json.firstItem_cons_bind, Except.bind_eq_ok_iff, Except.ok.injEq] at read
    obtain ⟨_, _, _, _, _, own, _, _, _, _, rfl⟩ := read
    exact own

/-- Every envelope that was read has a place for its topic. -/
theorem exists_place {document : Json} (read : ofJson document = .ok envelope) :
    ∃ (place : TopicPlace) (given : Json), document = place.document given := by
  unfold ofJson Json.asRecord at read
  split at read
  · rename_i members
    obtain ⟨last, folded, finished⟩ := Except.bind_eq_ok_iff.mp read
    by_cases named : ∃ given, (some "topic", given) ∈ members
    · obtain ⟨given, member⟩ := named
      obtain ⟨before, after, rfl⟩ := List.append_of_mem member
      exact ⟨.member before after, given, rfl⟩
    · have missing := (topic_of_foldMembers folded).2 (not_exists.mp named)
      rw [topic_of_finish finished] at missing
      cases missing
  · rename_i items
    match items with
    | sender :: node :: given :: after => exact ⟨.item sender node after, given, rfl⟩
    | [] => cases read
    | [sender] =>
      simp only [row, Json.firstItem_cons_bind, Except.bind_eq_ok_iff] at read
      obtain ⟨_, _, _, impossible, _⟩ := read
      cases impossible
    | [sender, node] =>
      simp only [row, Json.firstItem_cons_bind, Except.bind_eq_ok_iff] at read
      obtain ⟨_, _, _, _, _, impossible, _⟩ := read
      cases impossible
  · cases read

theorem ofJson_document_eq_ok_iff (place : TopicPlace) :
    ofJson (place.document given) = .ok envelope ↔
      (∃ text, given = Json.text text ∧ Bytes32.parse text = .ok envelope.topic) ∧
        ofJson (place.document envelope.topic.toJson) = .ok envelope := by
  have own := envelope.topic.ofJson_toJson
  constructor
  · intro read
    have topic := topic_of_document read
    refine ⟨Json.asParsed_eq_ok_iff.mp topic, ?_⟩
    rw [← ofJson_document_congr (topic.trans own.symm), read]
  · rintro ⟨topic, canonical⟩
    have read : Bytes32.ofJson given = .ok envelope.topic := Json.asParsed_eq_ok_iff.mpr topic
    rw [ofJson_document_congr (read.trans own.symm), canonical]

/-- An envelope is written with its topic, and its node, as the text of one. -/
theorem display_toJson (envelope : Envelope) :
    envelope.toJson.display = "\x7b\"sender\":" ++ (Json.text envelope.sender).display ++
      ",\"sending_node\":\"" ++ envelope.node.display ++ "\",\"topic\":\"" ++
      envelope.topic.display ++ "\",\"content\":" ++ envelope.content.toJson.display ++ "\x7d" := by
  apply String.toList_injective
  simp only [Json.display, toJson, Json.ofFields, List.map_cons, List.map_nil, Json.render,
    Json.renderMembers, Option.getD_some, Bytes32.render_toJson, String.toList_append,
    String.toList_ofList, List.append_assoc, List.cons_append, List.nil_append]
  rfl

end Envelope

/-! ### The whole rule -/

namespace Bytes32

/-- A text names a node if and only if it has 64 characters and all of them are hexadecimal digits
in either case, and the node's id is then written as that text in lower case. Of every other text
the reader says that its bytes are odd in number, or else that they are not 64, or else which byte
is the first that is no digit, and where. An id is written with two digits for each byte, inside
JSON as a string literal with nothing escaped, and is read back from both. A JSON value is an id if
it is a literal with such a text. Every envelope that was read has a place for its topic; what
stands there is read as an id is, nothing but the topic depends on it, and the topic is written
there as an id is. -/
theorem parse_exact :
    (∀ text : String,
      ((∃ value, parse text = .ok value) ↔
        text.length = 64 ∧ ∀ char ∈ text.toList, char.isHexDigit = true) ∧
      (∀ value, parse text = .ok value → value.display = text.toLower) ∧
      (parse text = .error .oddLength ↔ text.utf8ByteSize % 2 = 1) ∧
      (parse text = .error .wrongLength ↔
        text.utf8ByteSize % 2 = 0 ∧ text.utf8ByteSize ≠ 64) ∧
      ∀ byte position, parse text = .error (.badDigit byte position) ↔
        text.utf8ByteSize = 64 ∧
          Hex.IsFirstStray text.toByteArray.data.toList byte position) ∧
    (∀ value : Bytes32,
      value.display = String.ofList (value.bytes.flatMap fun byte =>
        [Nat.digitChar (byte.toNat / 16), Nat.digitChar (byte.toNat % 16)]) ∧
      parse value.display = .ok value ∧
      value.toJson.display = "\"" ++ value.display ++ "\"" ∧
      (Json.ofBytes value.toJson.toBytes).decode ofJson = .ok value) ∧
    (∀ (given : Json) (value : Bytes32), ofJson given = .ok value ↔
      ∃ text, given = Json.text text ∧ parse text = .ok value) ∧
    (∀ (place : Envelope.TopicPlace) (given : Json) (envelope : Envelope),
      Envelope.ofJson (place.document given) = .ok envelope ↔
        (∃ text, given = Json.text text ∧ parse text = .ok envelope.topic) ∧
          Envelope.ofJson (place.document envelope.topic.toJson) = .ok envelope) ∧
    (∀ (document : Json) (envelope : Envelope), Envelope.ofJson document = .ok envelope →
      ∃ (place : Envelope.TopicPlace) (given : Json), document = place.document given) ∧
    ∀ envelope : Envelope, envelope.toJson.display =
      "\x7b\"sender\":" ++ (Json.text envelope.sender).display ++
        ",\"sending_node\":\"" ++ envelope.node.display ++ "\",\"topic\":\"" ++
        envelope.topic.display ++ "\",\"content\":" ++ envelope.content.toJson.display ++
        "\x7d" :=
  ⟨fun _ => ⟨exists_parse_iff, fun _ => display_of_parse, parse_eq_oddLength_iff,
      parse_eq_wrongLength_iff, fun _ _ => parse_eq_badDigit_iff⟩,
    fun value => ⟨value.display_eq, value.parse_display, value.display_toJson,
      value.decode_toJson⟩,
    fun _ _ => Json.asParsed_eq_ok_iff, fun place _ _ => Envelope.ofJson_document_eq_ok_iff place,
    fun _ _ => Envelope.exists_place, Envelope.display_toJson⟩

/-- Digits in both cases. -/
def mixed : String :=
  String.ofList (List.replicate 32 'A' ++ List.replicate 32 'b')

/-- What they stand for. -/
def halves : Bytes32 :=
  ⟨List.replicate 16 0xAA ++ List.replicate 16 0xBB, rfl⟩

/-- The accent among these digits takes the place of two of them. -/
def accented : String :=
  String.ofList (List.replicate 61 'c' ++ ['é', 'd'])

/-- The digits in both cases are accepted by themselves, and as the topic of an envelope that has
its members in another order and one more; they are written in lower case. Of the accent the first
byte is the stray one. -/
theorem parse_exact_mixed :
    let place : Envelope.TopicPlace := .member
      [(some "hops", .null), (some "content", (Content.reply ⟨"greeting", ⟨1, 0, 0⟩⟩).toJson)]
      [(some "sending_node", (filled 1).toJson), (some "sender", Json.text "greeter")]
    let envelope : Envelope := ⟨"greeter", filled 1, halves, .reply ⟨"greeting", ⟨1, 0, 0⟩⟩⟩
    parse mixed = .ok halves ∧ halves.display = mixed.toLower ∧ mixed ≠ mixed.toLower ∧
      parse accented = .error (.badDigit 0xC3 61) ∧
      Envelope.ofJson (place.document (Json.text mixed)) = .ok envelope ∧
      ∃ (other : Envelope.TopicPlace) (given : Json),
        place.document (Json.text mixed) = other.document given := by
  intro place envelope
  obtain ⟨texts, _, _, topics, places, _⟩ := parse_exact
  have parsed : parse mixed = .ok halves := by decide +kernel
  have canonical : Envelope.ofJson (place.document halves.toJson) = .ok envelope := by
    decide +kernel
  have read : Envelope.ofJson (place.document (Json.text mixed)) = .ok envelope :=
    (topics place _ envelope).mpr ⟨⟨mixed, rfl, parsed⟩, canonical⟩
  have stray : parse accented = .error (.badDigit 0xC3 61) := by
    refine ((texts accented).2.2.2.2 0xC3 61).mpr ⟨by decide +kernel, by decide +kernel, ?_⟩
    exact ⟨List.replicate 61 0x63, [0xA9, 0x64], by decide +kernel, rfl, by decide +kernel⟩
  exact ⟨parsed, (texts mixed).2.1 halves parsed, by decide +kernel, stray, read,
    places _ envelope read⟩

end Bytes32

end ServiceDiscovery
