/-
This file proves that messages are read back from their JSON form. The form of each record
names every field once, so the record is complete when its last member has been read; and the
tag of a content comes before its data, so nothing has to be held back.
-/

import ServiceDiscovery.Wire.Envelope
import ServiceDiscovery.Proofs.Attempts
import ServiceDiscovery.Proofs.JsonReading
import ServiceDiscovery.Proofs.VersionText

namespace ServiceDiscovery

namespace Json

theorem asParsed_text {Problem Result : Type} {parse : String → Except Problem Result}
    {text : String} {result : Result} (parsed : parse text = .ok result) :
    asParsed parse (Json.text text) = .ok result := by
  simp only [asParsed, asText, Json.text, bind, Except.bind, parsed]

theorem asParsed_eq_ok_iff {Problem Result : Type} {parse : String → Except Problem Result}
    {value : Json} {result : Result} :
    asParsed parse value = .ok result ↔
      ∃ text, value = Json.text text ∧ parse text = .ok result := by
  constructor
  · intro read
    obtain ⟨text, found, read⟩ := Except.bind_eq_ok_iff.mp read
    refine ⟨text, ?_, ?_⟩
    · unfold asText at found
      split at found
      · cases found
        rfl
      · cases found
    · split at read
      · rename_i parsed
        cases read
        exact parsed
      · cases read
  · rintro ⟨text, rfl, parsed⟩
    exact asParsed_text parsed

theorem fill_none {Field : Type} {read : Json → Except Fault Field} {value : Json} {field : Field}
    (known : read value = .ok field) : fill none read value = .ok (some field) := by
  simp only [fill, known, Except.map]

theorem fill_eq_ok_iff {Field : Type} {slot filled : Option Field}
    {read : Json → Except Fault Field} {value : Json} :
    fill slot read value = .ok filled ↔
      slot = none ∧ ∃ field, read value = .ok field ∧ some field = filled := by
  cases slot with
  | some field => exact iff_of_false nofun nofun
  | none => rw [fill, Except.map_eq_ok_iff, and_iff_right rfl]

theorem foldMembers_cons {Draft : Type} {step : Draft → String → Json → Except Fault Draft}
    {draft next : Draft} {key : String} {value : Json}
    (others : List (Option String × Json)) (taken : step draft key value = .ok next) :
    foldMembers step draft ((some key, value) :: others) = foldMembers step next others := by
  simp only [foldMembers, taken, bind, Except.bind]

theorem foldMembers_append {Draft : Type} (step : Draft → String → Json → Except Fault Draft)
    (draft : Draft) (before after : List (Option String × Json)) :
    foldMembers step draft (before ++ after) =
      foldMembers step draft before >>= fun next => foldMembers step next after := by
  induction before generalizing draft with
  | nil => rfl
  | cons first others inductionHypothesis =>
    obtain ⟨_ | key, value⟩ := first
    · rfl
    · show (step draft key value >>= fun next => foldMembers step next (others ++ after)) =
        (step draft key value >>= fun next => foldMembers step next others) >>= _
      rw [bind_assoc, funext inductionHypothesis]

theorem firstItem_cons_bind {Field Result : Type} (read : Json → Except Fault Field) (item : Json)
    (others : List Json) (next : Field × List Json → Except Fault Result) :
    firstItem read (item :: others) >>= next =
      read item >>= fun value => next (value, others) := by
  show (read item >>= fun value => .ok (value, others)) >>= next = _
  rw [bind_assoc]
  rfl

/-- A record is what its members make of an empty draft. -/
theorem asRecord_ofFields {Draft Result : Type} {empty : Draft} (last : Draft)
    {member : Draft → String → Json → Except Fault Draft}
    {finish : Draft → Except Fault Result} {row : List Json → Except Fault Result}
    {fields : List (String × Json)} {result : Result}
    (folded : foldMembers member empty (fields.map fun field => (some field.1, field.2)) =
      .ok last) (finished : finish last = .ok result) :
    asRecord empty member finish row (ofFields fields) = .ok result := by
  simp only [asRecord, ofFields, folded, bind, Except.bind, finished]

theorem isSimple_ofFields {fields : List (String × Json)}
    (simple : ∀ field ∈ fields, isSimple field.2 = true) : isSimple (ofFields fields) = true := by
  rw [ofFields, isSimple]
  induction fields with
  | nil => rfl
  | cons field others inductionHypothesis =>
    rw [List.map_cons, areSimpleMembers, simple field List.mem_cons_self,
      inductionHypothesis fun other member => simple other (List.mem_cons_of_mem _ member)]
    rfl

end Json

/-! ### Text forms inside messages -/

theorem Version.ofJson_toJson (version : Version) : ofJson version.toJson = .ok version :=
  Json.asParsed_text (parse_display version)

theorem Constraint.ofJson_toJson (constraint : Constraint) :
    ofJson constraint.toJson = .ok constraint :=
  Json.asParsed_text (parse_display constraint)

theorem Bytes32.ofJson_toJson (value : Bytes32) : ofJson value.toJson = .ok value :=
  Json.asParsed_text (parse_display value)

/-! ### Questions and answers -/

theorem Inquiry.ofJson_toJson (inquiry : Inquiry) : ofJson inquiry.toJson = .ok inquiry := by
  have name : member {} "service_name" (Json.text inquiry.name) =
      .ok { name := some inquiry.name } := rfl
  have constraint : member { name := some inquiry.name } "version_constraint"
      inquiry.constraint.toJson =
        .ok { name := some inquiry.name, constraint := some inquiry.constraint } := by
    show (Json.fill none Constraint.ofJson _ >>= fun slot => _) = _
    rw [Json.fill_none (Constraint.ofJson_toJson inquiry.constraint)]
    rfl
  have exact : member { name := some inquiry.name, constraint := some inquiry.constraint } "exact"
      (.bool inquiry.exact) =
        .ok ⟨some inquiry.name, some inquiry.constraint, some inquiry.exact⟩ := rfl
  refine Json.asRecord_ofFields
    ⟨some inquiry.name, some inquiry.constraint, some inquiry.exact⟩ ?_ rfl
  simp only [List.map_cons, List.map_nil]
  rw [Json.foldMembers_cons _ name, Json.foldMembers_cons _ constraint,
    Json.foldMembers_cons _ exact, Json.foldMembers]

theorem Answer.ofJson_toJson (identity : Identity) : ofJson (toJson identity) = .ok identity := by
  have name : member {} "service_name" (Json.text identity.name) =
      .ok { name := some identity.name } := rfl
  have version : member { name := some identity.name } "version" identity.version.toJson =
      .ok ⟨some identity.name, some identity.version⟩ := by
    show (Json.fill none Version.ofJson _ >>= fun slot => _) = _
    rw [Json.fill_none (Version.ofJson_toJson identity.version)]
    rfl
  refine Json.asRecord_ofFields ⟨some identity.name, some identity.version⟩ ?_ rfl
  simp only [List.map_cons, List.map_nil]
  rw [Json.foldMembers_cons _ name, Json.foldMembers_cons _ version, Json.foldMembers]

/-! ### Contents -/

/-- The tag of a kind of message. -/
def Kind.tag : Kind → String
  | .request => "discovery_request"
  | .reply => "discovery_reply"

/-- The data of a message. -/
def Content.data : Content → Json
  | .request inquiry => inquiry.toJson
  | .reply identity => Answer.toJson identity

namespace Content

theorem toJson_eq (content : Content) :
    content.toJson =
      Json.ofFields [("type", Json.text content.kind.tag), ("data", content.data)] := by
  cases content <;> rfl

theorem ofData_data (content : Content) : ofData content.data content.kind = .ok content := by
  cases content with
  | request inquiry =>
    show (Inquiry.ofJson inquiry.toJson).map request = _
    rw [Inquiry.ofJson_toJson]
    rfl
  | reply identity =>
    show (Answer.ofJson (Answer.toJson identity)).map reply = _
    rw [Answer.ofJson_toJson]
    rfl

theorem ofJson_toJson (enclosing : Nat) (content : Content) :
    ofJson enclosing content.toJson = .ok content := by
  have kind : member enclosing {} "type" (Json.text content.kind.tag) =
      .ok { kind := some content.kind } := by
    cases content <;> rfl
  have data : member enclosing { kind := some content.kind } "data" content.data =
      .ok { kind := some content.kind, content := some content } := by
    show (ofData content.data content.kind >>= fun found => _) = _
    rw [ofData_data]
    rfl
  rw [toJson_eq]
  refine Json.asRecord_ofFields { kind := some content.kind, content := some content } ?_ rfl
  simp only [List.map_cons, List.map_nil]
  rw [Json.foldMembers_cons _ kind, Json.foldMembers_cons _ data, Json.foldMembers]

theorem isSimple_toJson (content : Content) : content.toJson.isSimple = true := by
  have data : content.data.isSimple = true := by
    cases content <;> rfl
  rw [toJson_eq]
  refine Json.isSimple_ofFields fun field member => ?_
  simp only [List.mem_cons, List.not_mem_nil, or_false] at member
  rcases member with rfl | rfl
  · rfl
  · exact data

end Content

/-! ### Envelopes -/

namespace Envelope

/-- A message is read back from its JSON form. -/
theorem ofJson_toJson (envelope : Envelope) : ofJson envelope.toJson = .ok envelope := by
  have sender : member {} "sender" (Json.text envelope.sender) =
      .ok { sender := some envelope.sender } := rfl
  have node : member { sender := some envelope.sender } "sending_node" envelope.node.toJson =
      .ok { sender := some envelope.sender, node := some envelope.node } := by
    show (Json.fill none Bytes32.ofJson _ >>= fun slot => _) = _
    rw [Json.fill_none (Bytes32.ofJson_toJson envelope.node)]
    rfl
  have topic : member { sender := some envelope.sender, node := some envelope.node } "topic"
      envelope.topic.toJson =
        .ok ⟨some envelope.sender, some envelope.node, some envelope.topic, none⟩ := by
    show (Json.fill none Bytes32.ofJson _ >>= fun slot => _) = _
    rw [Json.fill_none (Bytes32.ofJson_toJson envelope.topic)]
    rfl
  have content : member ⟨some envelope.sender, some envelope.node, some envelope.topic, none⟩
      "content" envelope.content.toJson =
        .ok ⟨some envelope.sender, some envelope.node, some envelope.topic,
          some envelope.content⟩ := by
    show (Json.fill none (Content.ofJson 2) _ >>= fun slot => _) = _
    rw [Json.fill_none (Content.ofJson_toJson 2 envelope.content)]
    rfl
  refine Json.asRecord_ofFields ⟨some envelope.sender, some envelope.node,
    some envelope.topic, some envelope.content⟩ ?_ rfl
  simp only [List.map_cons, List.map_nil]
  rw [Json.foldMembers_cons _ sender, Json.foldMembers_cons _ node,
    Json.foldMembers_cons _ topic, Json.foldMembers_cons _ content, Json.foldMembers]

theorem isSimple_toJson (envelope : Envelope) : envelope.toJson.isSimple = true := by
  refine Json.isSimple_ofFields fun field member => ?_
  simp only [List.mem_cons, List.not_mem_nil, or_false] at member
  rcases member with rfl | rfl | rfl | rfl
  · rfl
  · rfl
  · rfl
  · exact Content.isSimple_toJson envelope.content

end Envelope

end ServiceDiscovery
