/-
This file proves that what is listed of a cache can be removed by it. A row of the listing names
its instance: its texts are read back as the identity, the agent and the node that they were
written from, in whatever order a body has them, and no other row has the same ones. Removing
takes exactly that row out, because sorting what is left is leaving it out of what was sorted.
-/

import ServiceDiscovery.Json.Access
import ServiceDiscovery.Proofs.Envelope
import ServiceDiscovery.Proofs.NodeHistory
import ServiceDiscovery.Proofs.Removal

namespace ServiceDiscovery

/-! ### Sorting what is left -/

theorem filter_append_of_split {Item : Type} {isFront : Item → Bool} {front back : List Item}
    (before : ∀ item ∈ front, isFront item = true) (after : ∀ item ∈ back, isFront item = false) :
    (front ++ back).filter isFront = front := by
  rw [List.filter_append, List.filter_eq_self.mpr before, List.filter_eq_nil_iff.mpr
    fun item member => Bool.not_eq_true _ ▸ after item member, List.append_nil]

/-- What is sorted stably after some items were left out is what was sorted, without them. -/
theorem mergeSort_filter {Item : Type} {atMost : Item → Item → Bool}
    (transitive : ∀ first second third, atMost first second = true →
      atMost second third = true → atMost first third = true)
    (total : ∀ first second, (atMost first second || atMost second first) = true)
    (keep : Item → Bool) (items : List Item) :
    (items.filter keep).mergeSort atMost = (items.mergeSort atMost).filter keep := by
  induction items with
  | nil => simp
  | cons item others inductionHypothesis =>
    -- The item is put between what is smaller than it and what is not.
    have split (rest : List Item) : ∃ front back, (item :: rest).mergeSort atMost =
        front ++ item :: back ∧ rest.mergeSort atMost = front ++ back ∧
        (∀ other ∈ front, (!atMost item other) = true) ∧
        ∀ other ∈ back, (!atMost item other) = false := by
      obtain ⟨front, back, whole, parts, smaller⟩ := List.mergeSort_cons transitive total item rest
      have sorted := List.pairwise_mergeSort transitive total (item :: rest)
      rw [whole] at sorted
      have larger := (List.pairwise_cons.mp (List.pairwise_append.mp sorted).2.1).1
      exact ⟨front, back, whole, parts, smaller, fun other member =>
        congrArg not (larger other member)⟩
    obtain ⟨front, back, whole, parts, smaller, larger⟩ := split others
    rw [parts, List.filter_append] at inductionHypothesis
    rw [whole, List.filter_append]
    cases kept : keep item with
    | false =>
      rw [List.filter_cons_of_neg (by simp [kept]), List.filter_cons_of_neg (by simp [kept])]
      exact inductionHypothesis
    | true =>
      rw [List.filter_cons_of_pos kept, List.filter_cons_of_pos kept]
      obtain ⟨frontKept, backKept, wholeKept, partsKept, smallerKept, largerKept⟩ :=
        split (others.filter keep)
      rw [partsKept] at inductionHypothesis
      have same : frontKept = front.filter keep := by
        calc frontKept = (frontKept ++ backKept).filter fun other => !atMost item other :=
              (filter_append_of_split smallerKept largerKept).symm
          _ = (front.filter keep ++ back.filter keep).filter fun other => !atMost item other := by
              rw [inductionHypothesis]
          _ = front.filter keep := filter_append_of_split
              (fun other member => smaller other (List.mem_filter.mp member).1)
              fun other member => larger other (List.mem_filter.mp member).1
      rw [same] at inductionHypothesis
      rw [wholeKept, same, List.append_cancel_left inductionHypothesis]

/-- Of two items one is at most the other, in whatever way they are compared. -/
theorem isLE_total {Item : Type} {compare : Item → Item → Ordering} [Std.OrientedCmp compare]
    (first second : Item) : ((compare first second).isLE || (compare second first).isLE) = true := by
  rw [@Std.OrientedCmp.eq_swap _ compare _ second]
  cases compare first second <;> rfl

namespace Http

/-! ### The order of rows -/

theorem compareBytes_eq (first second : Bytes) :
    Identity.compareBytes first second = compare first second := by
  show _ = List.compareLex compare first second
  induction first generalizing second with
  | nil => cases second <;> rfl
  | cons byte others inductionHypothesis =>
    cases second with
    | nil => rfl
    | cons other rest =>
      rw [Identity.compareBytes, inductionHypothesis, List.compareLex_cons_cons]

/-- The comparison by the bytes of a name, then by a place, then by a rank. -/
def compareBy (name : Instance → Bytes) (place rank : Instance → Nat)
    (first second : Instance) : Ordering :=
  ((compare (name first) (name second)).then (compare (place first) (place second))).then
    (compare (rank first) (rank second))

instance (name : Instance → Bytes) (place rank : Instance → Nat) :
    Std.TransCmp (compareBy name place rank) := by
  show Std.TransCmp (compareLex (compareLex (compareOn name) (compareOn place)) (compareOn rank))
  infer_instance

/-- Rows are compared by what their instances are called, the place of their versions and their
ranks. -/
def compareRows : Instance → Instance → Ordering :=
  compareBy (fun occurrence => Utf8.encode occurrence.identity.name)
    (fun occurrence => occurrence.identity.version.place) Instance.responseTime

instance : Std.TransCmp compareRows :=
  inferInstanceAs (Std.TransCmp (compareBy _ _ _))

theorem rowAtMost_eq (first second : Instance) :
    rowAtMost first second = (compareRows first second).isLE := by
  rw [rowAtMost, Identity.compare, Identity.compareNames, compareBytes_eq, Version.compare_eq,
    compareRows, compareBy]

theorem rowAtMost_trans (first second third : Instance) (below : rowAtMost first second = true)
    (above : rowAtMost second third = true) : rowAtMost first third = true := by
  rw [rowAtMost_eq] at *
  exact Std.TransCmp.isLE_trans below above

theorem rowAtMost_total (first second : Instance) :
    (rowAtMost first second || rowAtMost second first) = true := by
  rw [rowAtMost_eq, rowAtMost_eq]
  exact isLE_total first second

/-- What is listed after an instance was dropped is what was listed, without its key. -/
theorem cachedInstances_remove {cache : Cache} (wellFormed : cache.WellFormed)
    {occurrence : Instance} (remote : occurrence.isHere = false) :
    cachedInstances (cache.remove occurrence).1 =
      (cachedInstances cache).filter fun listed => decide (listed.key ≠ occurrence.key) := by
  rw [cachedInstances, Cache.snapshot_remove wellFormed remote]
  exact mergeSort_filter rowAtMost_trans rowAtMost_total _ _

/-! ### What names a row -/

namespace RemoveForm

/-- The keys of a body that names a cached instance. -/
def keys : List String :=
  ["name", "version", "agent_id", "node_id"]

/-- The texts that a row has for these keys. -/
def texts (row : Json) : List (String × String) :=
  keys.filterMap fun key => ((row.member? key).bind Json.text?).map fun text => (key, text)

/-- The object with these texts. -/
def body (given : List (String × String)) : Json :=
  Json.ofFields (given.map fun field => (field.1, Json.text field.2))

/-- The text that was read for a key so far. -/
def Draft.text? (draft : Draft) (key : String) : Option String :=
  match key with
  | "name" => draft.name
  | "version" => draft.version
  | "agent_id" => draft.agent
  | "node_id" => draft.node
  | _ => none

theorem forall_keys {holds : String → Prop} :
    (∀ key ∈ keys, holds key) ↔
      holds "name" ∧ holds "version" ∧ holds "agent_id" ∧ holds "node_id" := by
  simp only [keys, List.forall_mem_cons, List.not_mem_nil, false_implies, implies_true, and_true]

/-- A text is taken for a key that has none yet, and the other keys keep theirs. -/
theorem exists_member (draft : Draft) (value : String) :
    ∀ key ∈ keys, draft.text? key = none →
      ∃ next, member draft key (Json.text value) = .ok next ∧ next.text? key = some value ∧
        ∀ other ∈ keys, other ≠ key → next.text? other = draft.text? other := by
  obtain ⟨name, version, agent, node⟩ := draft
  refine forall_keys.mpr ⟨fun missing => ?_, fun missing => ?_, fun missing => ?_,
    fun missing => ?_⟩
  · obtain rfl : name = none := missing
    exact ⟨⟨some value, version, agent, node⟩, rfl, rfl,
      forall_keys.mpr ⟨fun other => absurd rfl other, fun _ => rfl, fun _ => rfl, fun _ => rfl⟩⟩
  · obtain rfl : version = none := missing
    exact ⟨⟨name, some value, agent, node⟩, rfl, rfl,
      forall_keys.mpr ⟨fun _ => rfl, fun other => absurd rfl other, fun _ => rfl, fun _ => rfl⟩⟩
  · obtain rfl : agent = none := missing
    exact ⟨⟨name, version, some value, node⟩, rfl, rfl,
      forall_keys.mpr ⟨fun _ => rfl, fun _ => rfl, fun other => absurd rfl other, fun _ => rfl⟩⟩
  · obtain rfl : node = none := missing
    exact ⟨⟨name, version, agent, some value⟩, rfl, rfl,
      forall_keys.mpr ⟨fun _ => rfl, fun _ => rfl, fun _ => rfl, fun other => absurd rfl other⟩⟩

/-- Members with different known keys are all taken, in whatever order they come. -/
theorem exists_foldMembers {fields : List (String × String)}
    (known : ∀ field ∈ fields, field.1 ∈ keys) (distinct : (fields.map Prod.fst).Nodup)
    {draft : Draft} (missing : ∀ field ∈ fields, draft.text? field.1 = none) :
    ∃ last, Json.foldMembers member draft
        (fields.map fun field => (some field.1, Json.text field.2)) = .ok last ∧
      (∀ field ∈ fields, last.text? field.1 = some field.2) ∧
      ∀ key ∈ keys, key ∉ fields.map Prod.fst → last.text? key = draft.text? key := by
  induction fields generalizing draft with
  | nil => exact ⟨draft, rfl, List.forall_mem_nil _, fun _ _ _ => rfl⟩
  | cons field others inductionHypothesis =>
    obtain ⟨fieldKnown, othersKnown⟩ := List.forall_mem_cons.mp known
    obtain ⟨fieldMissing, othersMissing⟩ := List.forall_mem_cons.mp missing
    obtain ⟨apart, othersDistinct⟩ := List.nodup_cons.mp distinct
    obtain ⟨next, taken, own, kept⟩ := exists_member draft field.2 field.1 fieldKnown fieldMissing
    have stillMissing : ∀ other ∈ others, next.text? other.1 = none := fun other member => by
      rw [kept other.1 (othersKnown other member) fun same =>
        apart (List.mem_map.mpr ⟨other, member, same⟩)]
      exact othersMissing other member
    obtain ⟨last, folded, read, unread⟩ :=
      inductionHypothesis othersKnown othersDistinct stillMissing
    refine ⟨last, ?_, List.forall_mem_cons.mpr ⟨?_, read⟩, fun key member absent => ?_⟩
    · rw [List.map_cons, Json.foldMembers_cons _ taken, folded]
    · rw [unread field.1 fieldKnown apart, own]
    · obtain ⟨different, absent⟩ := not_or.mp (mt List.mem_cons.mpr absent)
      rw [unread key member absent, kept key member different]

def fields (form : RemoveForm) : List (String × String) :=
  [("name", form.name), ("version", form.version), ("agent_id", form.agent), ("node_id", form.node)]

/-- A form is read from its members in any order. -/
theorem ofJson_of_perm (form : RemoveForm) {given : List (String × String)}
    (same : given.Perm form.fields) : ofJson (body given) = .ok form := by
  have keysOf : form.fields.map Prod.fst = keys := rfl
  have distinct : (given.map Prod.fst).Nodup := by
    rw [(same.map Prod.fst).nodup_iff, keysOf]
    decide
  have known : ∀ field ∈ given, field.1 ∈ keys := fun field member =>
    keysOf ▸ List.mem_map.mpr ⟨field, same.mem_iff.mp member, rfl⟩
  have missing : ∀ key ∈ keys, Draft.text? {} key = none :=
    forall_keys.mpr ⟨rfl, rfl, rfl, rfl⟩
  obtain ⟨last, folded, read, _⟩ :=
    exists_foldMembers known distinct fun field member => missing field.1 (known field member)
  have found : ∀ field ∈ form.fields, last.text? field.1 = some field.2 := fun field member =>
    read field (same.mem_iff.mpr member)
  simp only [fields, List.forall_mem_cons, List.not_mem_nil, false_implies, implies_true,
    and_true] at found
  obtain ⟨name, version, agent, node⟩ := last
  obtain ⟨rfl, rfl, rfl, rfl⟩ : name = some form.name ∧ version = some form.version ∧
      agent = some form.agent ∧ node = some form.node := found
  refine Json.asRecord_ofFields ⟨some form.name, some form.version, some form.agent,
    some form.node⟩ ?_ rfl
  rw [List.map_map]
  exact folded

/-- The form that names an instance as the listing does. -/
def of (occurrence : Instance) : RemoveForm :=
  ⟨occurrence.identity.name, occurrence.identity.version.display, occurrence.agent,
    (occurrence.node?.map Bytes32.display).getD ""⟩

/-- The row of an instance names it. -/
theorem texts_cachedRow (now : Instant) (occurrence : Instance) :
    texts (cachedRow now occurrence) = (of occurrence).fields :=
  rfl

/-- The form of an instance on another node names an instance with its key. -/
theorem occurrence_of {occurrence : Instance} (remote : occurrence.isHere = false)
    (now : Instant) :
    ∃ named, (of occurrence).occurrence now = .ok named ∧ named.isHere = false ∧
      named.key = occurrence.key := by
  obtain ⟨identity, place, lastSeen, rank⟩ := occurrence
  cases place with
  | here handle => cases remote
  | remote agent node =>
    refine ⟨Instance.remote identity agent node 0 now, ?_, rfl, rfl⟩
    have version : Version.parse (of ⟨identity, .remote agent node, lastSeen, rank⟩).version =
        .ok identity.version := Version.parse_display identity.version
    have id : Bytes32.parse (of ⟨identity, .remote agent node, lastSeen, rank⟩).node = .ok node :=
      Bytes32.parse_display node
    simp only [RemoveForm.occurrence, version, id]
    rfl

end RemoveForm

/-- A call to remove what a row names: its body is an object with the texts of the row, in any
order and written in any way, and it is small enough to be taken. -/
structure Call.Removes (call : Call) (row : Json) : Prop where
  posted : call.method = "POST"
  placed : call.path = "/api/cache/remove"
  announced : call.header? "content-type" = some "application/json"
  small : call.body.length ≤ maxBody
  named : ∃ given, given.Perm (RemoveForm.texts row) ∧
    Json.ofBytes call.body = ⟨RemoveForm.body given, true⟩

theorem Call.Removes.form_eq {call : Call} {now : Instant} {occurrence : Instance}
    (removes : call.Removes (cachedRow now occurrence)) :
    call.form RemoveForm.ofJson = .ok (RemoveForm.of occurrence) := by
  obtain ⟨given, same, written⟩ := removes.named
  rw [RemoveForm.texts_cachedRow] at same
  have read : RemoveForm.ofJson (RemoveForm.body given) = .ok (RemoveForm.of occurrence) :=
    RemoveForm.ofJson_of_perm _ same
  have decoded : (Json.ofBytes call.body).decode RemoveForm.ofJson =
      .ok (RemoveForm.of occurrence) := by
    rw [written, Json.Document.decode, read]
    rfl
  rw [Call.form, removes.announced, if_pos (by decide +kernel),
    if_neg (Nat.not_lt.mpr removes.small), decoded]

/-! ### Looking and removing -/

/-- The answer to a call that looks at the cache. -/
def listing (lifetime : Json) (rows : List Json) : Answer :=
  .ok (Json.ofFields [("ttl_secs", lifetime), ("instances", .array rows)])

/-- The answer to a call that removes, which says whether there was something to remove. -/
def removal (removed : Bool) : Answer :=
  .ok (Json.ofFields [("removed", .bool removed)])

theorem handle_look (context : Context) (node : Node) (outcome : Round.Outcome) {look : Call}
    (looking : look.method = "GET") (placed : look.path = "/api/cache") :
    handle context node outcome look =
      unchanged node (listing (Json.natural node.cache.lifetime.seconds)
        ((cachedInstances node.cache).map (cachedRow node.now))) := by
  unfold handle
  rw [looking, placed]
  rfl

theorem handle_remove (context : Context) (node : Node) (outcome : Round.Outcome) {call : Call}
    (posted : call.method = "POST") (placed : call.path = "/api/cache/remove") {form : RemoveForm}
    (read : call.form RemoveForm.ofJson = .ok form) :
    handle context node outcome call = remove node form := by
  unfold handle
  rw [posted, placed]
  show (withForm node call RemoveForm.ofJson (remove node)).forMethod "POST" = _
  rw [withForm, read]
  rfl

theorem remove_of_named (node : Node) {form : RemoveForm} {named : Instance}
    (found : form.occurrence node.now = .ok named) :
    remove node form =
      unchanged (node.withCache (node.cache.remove named).1)
        (removal (node.cache.remove named).2) := by
  rw [remove, found]
  rfl

/-- A form whose version or node does not read is refused. -/
theorem remove_of_unread (node : Node) {form : RemoveForm}
    (unread : (∀ version, Version.parse form.version ≠ .ok version) ∨
      ∀ id, Bytes32.parse form.node ≠ .ok id) :
    (remove node form).node = node ∧ (remove node form).answer.status = 400 := by
  have refused : ∃ answer, form.occurrence node.now = .error answer ∧ answer.status = 400 := by
    unfold RemoveForm.occurrence
    cases version : Version.parse form.version with
    | error error => exact ⟨_, rfl, rfl⟩
    | ok version =>
      cases id : Bytes32.parse form.node with
      | error error => exact ⟨_, rfl, rfl⟩
      | ok id =>
        rcases unread with unread | unread
        · exact absurd version (unread _)
        · exact absurd id (unread _)
  obtain ⟨answer, named, status⟩ := refused
  rw [remove, named]
  exact ⟨rfl, status⟩

/-- A call to remove what the row of an instance names removes an instance with its key. -/
theorem Call.Removes.exists_named {call : Call} {now : Instant} {occurrence : Instance}
    (removes : call.Removes (cachedRow now occurrence)) (remote : occurrence.isHere = false) :
    ∃ named, named.isHere = false ∧ named.key = occurrence.key ∧
      ∀ (context : Context) (node : Node) (outcome : Round.Outcome), node.now = now →
        handle context node outcome call =
          unchanged (node.withCache (node.cache.remove named).1)
            (removal (node.cache.remove named).2) := by
  obtain ⟨named, found, away, key⟩ := RemoveForm.occurrence_of remote now
  refine ⟨named, away, key, fun context node outcome clock => ?_⟩
  rw [handle_remove context node outcome removes.posted removes.placed removes.form_eq,
    remove_of_named node (clock ▸ found)]

/-- Without the key of one instance, just that instance is missing. -/
theorem filter_key_of_nodup {front back : List Instance} {occurrence : Instance}
    (distinct : ((front ++ occurrence :: back).map Instance.key).Nodup) :
    (front ++ occurrence :: back).filter (fun listed => decide (listed.key ≠ occurrence.key)) =
      front ++ back := by
  have distinct : ((occurrence :: (front ++ back)).map Instance.key).Nodup :=
    ((List.perm_middle.map Instance.key).nodup_iff).mp distinct
  have others : ∀ listed ∈ front ++ back, decide (listed.key ≠ occurrence.key) = true :=
    fun listed member => decide_eq_true fun same =>
      (List.nodup_cons.mp distinct).1 (List.mem_map.mpr ⟨listed, member, same⟩)
  obtain ⟨before, after⟩ := List.forall_mem_append.mp others
  rw [List.filter_append, List.filter_cons_of_neg (by simp), List.filter_eq_self.mpr before,
    List.filter_eq_self.mpr after]

theorem nodup_key_cachedInstances {cache : Cache} (wellFormed : cache.WellFormed) :
    ((cachedInstances cache).map Instance.key).Nodup :=
  (((List.mergeSort_perm _ _).map Instance.key).nodup_iff).mpr (Cache.nodup_key wellFormed)

/-- Dropping the key of one listed instance leaves the others, and can be done once. -/
theorem remove_of_split {cache : Cache} (wellFormed : cache.WellFormed)
    {front back : List Instance} {occurrence named : Instance}
    (split : cachedInstances cache = front ++ occurrence :: back)
    (away : named.isHere = false) (key : named.key = occurrence.key) :
    (cache.remove named).2 = true ∧ cachedInstances (cache.remove named).1 = front ++ back ∧
      (cache.remove named).1.remove named = ((cache.remove named).1, false) := by
  have listed : occurrence ∈ cache.snapshot :=
    List.mem_mergeSort.mp (split ▸ List.mem_append_right _ List.mem_cons_self)
  refine ⟨Cache.snd_remove_of_listed wellFormed away listed key.symm, ?_, ?_⟩
  · rw [cachedInstances_remove wellFormed away, key, split]
    exact filter_key_of_nodup (split ▸ nodup_key_cachedInstances wellFormed)
  · refine Cache.remove_of_unlisted (Cache.wellFormed_remove wellFormed named) away ?_
    rw [Cache.snapshot_remove wellFormed away]
    exact fun other member => of_decide_eq_true (List.mem_filter.mp member).2

/-- Every row that a look at the cache shows can be removed by what it says. A call whose body is
an object with the texts of the row, in any order, takes that row out: a look at the same time
shows the others, unchanged and in their order, and the same call once more finds nothing to
remove and changes nothing. Every row has all the texts, and writing them down gives such a body.
A well-formed call whose version or node does not read is refused and changes nothing. -/
theorem listing_removable {node : Node} (reachable : node.Reachable) (context : Context)
    (outcome : Round.Outcome) {look : Call} (looking : look.method = "GET")
    (placed : look.path = "/api/cache") :
    ∃ lifetime rows,
      (handle context node outcome look).answer = listing lifetime rows ∧
      (∀ before row after, rows = before ++ row :: after → ∀ call : Call, call.Removes row →
        (handle context node outcome call).answer = removal true ∧
        (handle context (handle context node outcome call).node outcome look).answer =
          listing lifetime (before ++ after) ∧
        handle context (handle context node outcome call).node outcome call =
          unchanged (handle context node outcome call).node (removal false)) ∧
      (∀ row ∈ rows, (RemoveForm.texts row).map Prod.fst = RemoveForm.keys ∧
        ∀ given, given.Perm (RemoveForm.texts row) →
          Json.ofBytes (RemoveForm.body given).toBytes = ⟨RemoveForm.body given, true⟩) ∧
      ∀ (call : Call) (form : RemoveForm), call.method = "POST" →
        call.path = "/api/cache/remove" → call.form RemoveForm.ofJson = .ok form →
        (∀ version, Version.parse form.version ≠ .ok version) ∨
          (∀ id, Bytes32.parse form.node ≠ .ok id) →
        (handle context node outcome call).answer.status = 400 ∧
          (handle context node outcome call).node = node := by
  have wellFormed : node.cache.WellFormed := reachable.wellFormed.cache
  refine ⟨_, _, congrArg Effect.answer (handle_look context node outcome looking placed),
    fun before row after shown call removes => ?_, fun row member => ?_,
    fun call form posted removing read unread => ?_⟩
  · -- The row is that of an instance, and no other one has its key.
    obtain ⟨front, rest, split, rfl, tail⟩ := List.map_eq_append_iff.mp shown
    obtain ⟨occurrence, back, rfl, rfl, rfl⟩ := List.map_eq_cons_iff.mp tail
    have listed : occurrence ∈ node.cache.snapshot :=
      List.mem_mergeSort.mp (split ▸ List.mem_append_right _ List.mem_cons_self)
    have remote : occurrence.isHere = false :=
      (wellFormed.placed _ _).remote occurrence ((Cache.mem_snapshot_iff wellFormed).mp listed)
    obtain ⟨named, away, key, done⟩ := removes.exists_named remote
    obtain ⟨removed, left, gone⟩ := remove_of_split wellFormed split away key
    rw [done context node outcome rfl]
    refine ⟨congrArg removal removed, ?_, ?_⟩
    · rw [handle_look _ _ _ looking placed]
      show listing (Json.natural (node.cache.remove named).1.lifetime.seconds)
        ((cachedInstances (node.cache.remove named).1).map (cachedRow node.now)) = _
      rw [Cache.lifetime_remove, left, List.map_append]
    · refine (done context (node.withCache (node.cache.remove named).1) outcome rfl).trans ?_
      show unchanged (node.withCache ((node.cache.remove named).1.remove named).1)
        (removal ((node.cache.remove named).1.remove named).2) = _
      rw [gone]
      rfl
  · obtain ⟨occurrence, _, rfl⟩ := List.mem_map.mp member
    refine ⟨?_, fun given _ => Json.ofBytes_toBytes (Json.isSimple_ofFields fun field known => ?_)⟩
    · rw [RemoveForm.texts_cachedRow]
      rfl
    · obtain ⟨_, _, rfl⟩ := List.mem_map.mp known
      rfl
  · rw [handle_remove context node outcome posted removing read]
    exact (remove_of_unread node unread).symm

/-- Two instances of one version, answered for by one agent on two nodes. -/
def twins : Node :=
  (Node.empty (Bytes32.filled 0) ⟨5⟩).after
    [.add (Moment.greetingFrom "first" 1 3), .add (Moment.greetingFrom "first" 2 3)]

/-- A call to remove the second of them, with the members in reverse. -/
def removeTwin : Call :=
  ⟨"POST", "/api/cache/remove", [("content-type", "application/json")],
    (RemoveForm.body (RemoveForm.texts
      (cachedRow Instant.zero (Moment.greetingFrom "first" 2 3))).reverse).toBytes⟩

theorem cachedInstances_twins : cachedInstances twins.cache =
    [Moment.greetingFrom "first" 1 3, Moment.greetingFrom "first" 2 3] := by
  have listed : twins.cache.snapshot =
      [Moment.greetingFrom "first" 1 3, Moment.greetingFrom "first" 2 3] := by decide
  rw [cachedInstances, listed]
  exact List.mergeSort_of_pairwise (by decide +kernel)

theorem listing_inj {lifetime other : Json} {rows others : List Json} :
    listing lifetime rows = listing other others ↔ lifetime = other ∧ rows = others := by
  simp [listing, Answer.ok, Json.ofFields]

/-- The second of the twins is removed, and the first is still shown. -/
theorem listing_removable_twins :
    removeTwin.Removes (cachedRow Instant.zero (Moment.greetingFrom "first" 2 3)) ∧
    (handle ⟨"api", ⟨0⟩, false⟩ twins Moment.noReplies removeTwin).answer = removal true ∧
    ∃ lifetime, (handle ⟨"api", ⟨0⟩, false⟩
        (handle ⟨"api", ⟨0⟩, false⟩ twins Moment.noReplies removeTwin).node
        Moment.noReplies cacheCall).answer =
      listing lifetime [cachedRow Instant.zero (Moment.greetingFrom "first" 1 3)] := by
  have reachable : twins.Reachable := (Node.Reachable.start _ _ (Nat.zero_le _)).after _
  obtain ⟨lifetime, rows, shown, removes, named, _⟩ :=
    listing_removable reachable ⟨"api", ⟨0⟩, false⟩ Moment.noReplies
      (rfl : cacheCall.method = "GET") rfl
  have split : rows = [cachedRow Instant.zero (Moment.greetingFrom "first" 1 3)] ++
      cachedRow Instant.zero (Moment.greetingFrom "first" 2 3) :: [] := by
    rw [handle_look _ _ _ rfl rfl, cachedInstances_twins] at shown
    exact (listing_inj.mp shown).2.symm
  have call : removeTwin.Removes (cachedRow Instant.zero (Moment.greetingFrom "first" 2 3)) :=
    ⟨rfl, rfl, rfl, by decide +kernel, _, List.reverse_perm _,
      (named _ (split ▸ List.mem_append_right _ List.mem_cons_self)).2 _ (List.reverse_perm _)⟩
  obtain ⟨removed, left, _⟩ := removes _ _ _ split removeTwin call
  exact ⟨call, removed, lifetime, left⟩

end Http

end ServiceDiscovery
