/-
This file proves what the answers of a round leave in the cache. Of each version the cached
instances stay in their places, those that an answer is for are seen now, and behind them come
the answers with new keys, each where and with the rank with which it arrived first. Whatever is
no well-formed answer might as well not have arrived.
-/

import ServiceDiscovery.Proofs.Lifetimes
import ServiceDiscovery.Proofs.Lookup
import ServiceDiscovery.Proofs.Overlap

namespace ServiceDiscovery

/-! ### One instance that comes -/

namespace Cache

variable {name : String} {version : Version} {instances : List Instance}

/-- An instance that comes among those of its version marks the one with its key as seen, and
comes last if there is none. -/
theorem fst_insert_eq (placed : Placed name version instances) {occurrence : Instance}
    (identity : occurrence.identity = ⟨name, version⟩) (remote : occurrence.isHere = false)
    (now : Instant) :
    (insert occurrence now instances).1 =
      (instances.map fun existing =>
        if existing.key = occurrence.key then existing.touch now else existing) ++
        if occurrence.key ∈ instances.map Instance.key then [] else [occurrence] := by
  have key {existing : Instance} (member : existing ∈ instances) :
      existing.key = occurrence.key ↔ existing.locality = occurrence.locality :=
    (placed.same_iff_key identity remote member).symm.trans (Instance.same_iff_of_remote remote)
  rw [Action.fst_insert placed remote identity ⟨0⟩ now, Action.change_of_kept fun _ => rfl]
  refine congrArg₂ (· ++ ·) (List.map_congr_left fun existing member => ?_) ?_
  · refine if_congr ?_ rfl rfl
    rw [key member, Action.adds, decide_eq_true_iff, placed.identity existing member, identity,
      and_iff_right rfl, eq_comm]
  · show (if _ then _ else _ : List Instance) = _
    rw [← ite_not]
    refine if_congr ?_ rfl rfl
    rw [and_iff_right remote, and_iff_right identity, List.mem_map]
    simp only [not_forall, not_not, exists_prop]
    exact exists_congr fun existing => and_congr_right fun member => (key member).symm

/-- A key is listed if and only if it is stored under its own identity. -/
theorem mem_keys_stored_iff {cache : Cache} (wellFormed : cache.WellFormed) {key : Instance.Key} :
    key ∈ (cache.stored key.1.name key.1.version).map Instance.key ↔
      key ∈ cache.snapshot.map Instance.key := by
  simp only [List.mem_map]
  constructor
  · rintro ⟨listed, stored, own⟩
    exact ⟨listed, ((mem_stored_iff wellFormed).mp stored).1, own⟩
  · rintro ⟨listed, member, rfl⟩
    exact ⟨listed, (mem_snapshot_iff wellFormed).mp member, rfl⟩

end Cache

/-! ### The offers of a round -/

namespace Round

theorem Offer.key_inj {first second : Offer} : first.key = second.key ↔ first = second := by
  obtain ⟨identity, agent, node⟩ := first
  obtain ⟨otherIdentity, otherAgent, otherNode⟩ := second
  simp only [key, Prod.mk.injEq, Option.some.injEq, Offer.mk.injEq]

theorem Offer.key_ranked (offer : Offer) (rank : Nat) (now : Instant) :
    (offer.ranked rank now).key = offer.key :=
  rfl

/-- A cached instance after a round: seen now, if one of the offers has its key. -/
def seen (offers : List Offer) (now : Instant) (existing : Instance) : Instance :=
  if existing.key ∈ offers.map Offer.key then existing.touch now else existing

/-- The offer is one of the identity, and none of the cached instances has its key. -/
def Offer.isNew (identity : Identity) (cached : List Instance) (offer : Offer) : Bool :=
  decide (offer.identity = identity ∧ offer.key ∉ cached.map Instance.key)

/-- The instances that the offers bring beside some that are cached of an identity: one for each
key that is new, in the order in which the keys came first and with that place as the rank. -/
def newcomers (identity : Identity) (cached : List Instance) (offers : List Offer)
    (now : Instant) : List Instance :=
  (offers.eraseDups.filter (Offer.isNew identity cached)).map
    fun offer => offer.ranked (offers.idxOf offer + 1) now

variable {identity : Identity} {cached : List Instance} {offers : List Offer} {now : Instant}

theorem Offer.isNew_iff {offer : Offer} :
    offer.isNew identity cached = true ↔
      offer.identity = identity ∧ offer.key ∉ cached.map Instance.key :=
  decide_eq_true_iff

theorem mem_newcomers {occurrence : Instance} :
    occurrence ∈ newcomers identity cached offers now ↔
      ∃ offer ∈ offers, offer.isNew identity cached = true ∧
        offer.ranked (offers.idxOf offer + 1) now = occurrence := by
  simp only [newcomers, List.mem_map, List.mem_filter, List.mem_eraseDups, and_assoc]

theorem key_seen (offers : List Offer) (now : Instant) (existing : Instance) :
    (seen offers now existing).key = existing.key := by
  unfold seen
  split <;> rfl

/-- One more offer at the end is a newcomer if it has a new key; the others keep their ranks. -/
theorem newcomers_concat (identity : Identity) (cached : List Instance) (offers : List Offer)
    (last : Offer) (now : Instant) :
    newcomers identity cached (offers ++ [last]) now =
      newcomers identity cached offers now ++
        if last ∉ offers ∧ last.isNew identity cached = true then
          [last.ranked (offers.length + 1) now] else [] := by
  unfold newcomers
  rw [List.eraseDups_append, List.filter_append, List.map_append]
  refine congrArg₂ (· ++ ·) (List.map_congr_left fun offer member => ?_) ?_
  · have known := List.mem_eraseDups.mp (List.mem_filter.mp member).1
    rw [List.idxOf_append, if_pos known]
  · by_cases known : last ∈ offers
    · rw [if_neg fun isNew => isNew.1 known, List.cons_removeAll,
        if_neg (by simp [known]), List.nil_removeAll]
      rfl
    · rw [List.cons_removeAll, if_pos (by simp [known]), List.nil_removeAll, List.eraseDups_cons,
        List.filter_nil, List.eraseDups_nil]
      by_cases isNew : last.isNew identity cached = true
      · rw [List.filter_cons_of_pos isNew, List.filter_nil, List.map_singleton,
          if_pos ⟨known, isNew⟩, List.idxOf_append, if_neg known, List.idxOf_cons_self,
          Nat.zero_add]
      · rw [List.filter_cons_of_neg isNew, List.filter_nil, if_neg fun both => isNew both.2]
        rfl

theorem seen_concat (offers : List Offer) (last : Offer) (now : Instant) (existing : Instance) :
    (if (seen offers now existing).key = last.key then (seen offers now existing).touch now
      else seen offers now existing) = seen (offers ++ [last]) now existing := by
  have offered : existing.key ∈ (offers ++ [last]).map Offer.key ↔
      existing.key ∈ offers.map Offer.key ∨ existing.key = last.key := by
    rw [List.map_append, List.map_singleton, List.mem_append, List.mem_singleton]
  rw [key_seen]
  unfold seen
  by_cases own : existing.key = last.key
  · rw [if_pos own, if_pos (offered.mpr (Or.inr own))]
    split <;> rfl
  · rw [if_neg own]
    exact if_congr (offered.trans (or_iff_left own)).symm rfl rfl

/-- What is cached of an identity after a round that finds some instances of it: these, in their
places, and the newcomers behind them. -/
def merged (identity : Identity) (cached : List Instance) (offers : List Offer) (now : Instant) :
    List Instance :=
  cached.map (seen offers now) ++ newcomers identity cached offers now

theorem merged_nil (identity : Identity) (cached : List Instance) (now : Instant) :
    merged identity cached [] now = cached := by
  have still (existing : Instance) : seen [] now existing = existing := if_neg List.not_mem_nil
  exact (List.append_nil _).trans (List.map_id'' still cached)

theorem mem_keys_merged {offer : Offer} (own : offer.identity = identity) :
    offer.key ∈ (merged identity cached offers now).map Instance.key ↔
      offer.key ∈ cached.map Instance.key ∨ offer ∈ offers := by
  have kept : (cached.map (seen offers now)).map Instance.key = cached.map Instance.key := by
    rw [List.map_map]
    exact List.map_congr_left fun existing _ => key_seen offers now existing
  rw [merged, List.map_append, List.mem_append, kept]
  constructor
  · rintro (known | isNew)
    · exact Or.inl known
    · obtain ⟨occurrence, member, same⟩ := List.mem_map.mp isNew
      obtain ⟨other, offered, _, rfl⟩ := mem_newcomers.mp member
      exact Or.inr (Offer.key_inj.mp same ▸ offered)
  · rintro (known | offered)
    · exact Or.inl known
    · by_cases known : offer.key ∈ cached.map Instance.key
      · exact Or.inl known
      · have isNew := Offer.isNew_iff.mpr ⟨own, known⟩
        exact Or.inr (List.mem_map.mpr
          ⟨_, mem_newcomers.mpr ⟨offer, offered, isNew, rfl⟩, offer.key_ranked _ now⟩)

/-- One more offer of the identity is one more instance that comes. -/
theorem merged_concat {last : Offer} (own : last.identity = identity)
    (placed : Cache.Placed identity.name identity.version (merged identity cached offers now)) :
    merged identity cached (offers ++ [last]) now =
      (Cache.insert (last.ranked (offers.length + 1) now) now
        (merged identity cached offers now)).1 := by
  have same : (last.ranked (offers.length + 1) now).identity =
      ⟨identity.name, identity.version⟩ :=
    own
  rw [Cache.fst_insert_eq placed same rfl, merged, newcomers_concat, ← List.append_assoc]
  refine congrArg₂ (· ++ ·) ?_ ?_
  · rw [merged, List.map_append, List.map_map]
    refine congrArg₂ (· ++ ·) (List.map_congr_left fun existing _ => ?_) ?_
    · exact (seen_concat offers last now existing).symm
    · -- A newcomer is seen now in any case.
      have still : ∀ occurrence ∈ newcomers identity cached offers now,
          (if occurrence.key = (last.ranked (offers.length + 1) now).key then
            occurrence.touch now else occurrence) = occurrence := by
        intro occurrence member
        obtain ⟨offer, _, _, rfl⟩ := mem_newcomers.mp member
        exact ite_self _
      exact ((List.map_congr_left still).trans (List.map_id' _)).symm
  · have known : last.key ∈ (merged identity cached offers now).map Instance.key ↔
        last.key ∈ cached.map Instance.key ∨ last ∈ offers := mem_keys_merged own
    have isNew : last.isNew identity cached = true ↔ last.key ∉ cached.map Instance.key :=
      Offer.isNew_iff.trans (and_iff_right own)
    rw [← ite_not]
    refine if_congr ?_ rfl rfl
    rw [Offer.key_ranked, known, isNew, not_and_or, not_not, not_not, or_comm]

/-- An offer of another identity brings nothing. -/
theorem merged_concat_of_other (placed : Cache.Placed identity.name identity.version cached)
    {last : Offer} (other : last.identity ≠ identity) :
    merged identity cached (offers ++ [last]) now = merged identity cached offers now := by
  rw [merged, newcomers_concat, if_neg fun isNew => other (Offer.isNew_iff.mp isNew.2).1,
    List.append_nil]
  refine congrArg (· ++ _) (List.map_congr_left fun existing member => ?_)
  rw [← seen_concat, key_seen]
  refine if_neg fun same => other ?_
  exact (congrArg Prod.fst same).symm.trans (placed.identity existing member)

/-! ### A whole round -/

/-- What is stored of an identity after a round. -/
theorem stored_addAll_ranking {cache : Cache} (wellFormed : cache.WellFormed)
    (identity : Identity) (offers : List Offer) (now : Instant) :
    (cache.addAll now (ranking now 0 offers)).stored identity.name identity.version =
      merged identity (cache.stored identity.name identity.version) offers now := by
  induction offers using List.reverseRecOn with
  | nil => exact (merged_nil _ _ _).symm
  | append_singleton offers last inductionHypothesis =>
    have placed := (Cache.wellFormed_addAll wellFormed now (ranking now 0 offers)).placed
      identity.name identity.version
    have appended : cache.addAll now (ranking now 0 (offers ++ [last])) =
        ((cache.addAll now (ranking now 0 offers)).add (last.ranked (offers.length + 1) now)
          now).1 := by
      rw [ranking_append, Cache.addAll, List.foldl_append, Nat.zero_add]
      rfl
    rw [inductionHypothesis] at placed
    rw [appended, Cache.stored_add rfl, inductionHypothesis]
    by_cases own : last.identity = identity
    · exact (if_pos own).trans (merged_concat own placed).symm
    · exact (if_neg own).trans (merged_concat_of_other (wellFormed.placed _ _) own).symm

/-- The datagram is a well-formed answer. -/
def isAnswer (datagram : Bytes) : Bool :=
  (offer? datagram).isSome

theorem offer_eq_some_iff {datagram : Bytes} {offer : Offer} :
    offer? datagram = some offer ↔
      ∃ envelope, Wire.decode datagram = .ok envelope ∧
        envelope.content = .reply offer.identity ∧ envelope.sender = offer.agent ∧
          envelope.node = offer.node := by
  unfold offer?
  cases Wire.decode datagram with
  | error error => exact iff_of_false nofun nofun
  | ok envelope =>
    obtain ⟨sender, node, topic, content⟩ := envelope
    obtain ⟨identity, agent, place⟩ := offer
    cases content with
    | request request =>
      refine iff_of_false nofun ?_
      rintro ⟨_, ⟨⟩, impossible, _⟩
      cases impossible
    | reply own =>
      constructor
      · rintro ⟨⟩
        exact ⟨_, rfl, rfl, rfl, rfl⟩
      · rintro ⟨_, ⟨⟩, ⟨⟩, ⟨⟩, ⟨⟩⟩
        rfl

theorem isAnswer_iff {datagram : Bytes} :
    isAnswer datagram = true ↔
      ∃ envelope identity, Wire.decode datagram = .ok envelope ∧
        envelope.content = .reply identity := by
  simp only [isAnswer, Option.isSome_iff_exists, offer_eq_some_iff]
  constructor
  · rintro ⟨offer, envelope, decoded, content, _⟩
    exact ⟨envelope, _, decoded, content⟩
  · rintro ⟨envelope, identity, decoded, content⟩
    exact ⟨⟨identity, envelope.sender, envelope.node⟩, envelope, decoded, content, rfl, rfl⟩

/-- Only the answers make offers. -/
theorem filterMap_filter_isAnswer (datagrams : List Bytes) :
    (datagrams.filter isAnswer).filterMap offer? = datagrams.filterMap offer? := by
  rw [List.filterMap_filter]
  refine List.filterMap_congr fun datagram _ => ?_
  unfold isAnswer
  cases offer? datagram <;> rfl

end Round

namespace Resolver

open Round

variable {resolver : Resolver}

theorem update_eq (resolver : Resolver) (datagrams : List Bytes) (now : Instant) :
    resolver.update (.ok datagrams) now =
      (⟨resolver.node, resolver.registry,
          resolver.cache.addAll now (ranking now 0 (offers (.ok datagrams)))⟩,
        .ok (decide (offers (.ok datagrams) ≠ []))) := by
  refine Prod.ext ?_ ?_
  · exact congrArg (Resolver.mk resolver.node resolver.registry)
      (fst_settle resolver.cache now (.ok datagrams))
  · rw [snd_update_of_ok]
    exact congrArg Except.ok (decide_eq_decide.mpr List.length_pos_iff)

/-- What is stored of an identity after a round. -/
theorem stored_update (wellFormed : resolver.cache.WellFormed) (datagrams : List Bytes)
    (now : Instant) (identity : Identity) :
    (resolver.update (.ok datagrams) now).1.cache.stored identity.name identity.version =
      merged identity (resolver.cache.stored identity.name identity.version)
        (offers (.ok datagrams)) now := by
  rw [update_eq]
  exact stored_addAll_ranking wellFormed identity _ now

theorem wellFormed_cache_update (wellFormed : resolver.cache.WellFormed) (datagrams : List Bytes)
    (now : Instant) : (resolver.update (.ok datagrams) now).1.cache.WellFormed := by
  rw [update_eq]
  exact Cache.wellFormed_addAll wellFormed now _

/-- What is listed after a round was listed before it, or is a newcomer. -/
theorem mem_snapshot_update (wellFormed : resolver.cache.WellFormed) {datagrams : List Bytes}
    {now : Instant} {listed : Instance} :
    listed ∈ (resolver.update (.ok datagrams) now).1.cache.snapshot ↔
      (∃ existing ∈ resolver.cache.snapshot,
        seen (offers (.ok datagrams)) now existing = listed) ∨
      ∃ offer ∈ offers (.ok datagrams),
        offer.key ∉ resolver.cache.snapshot.map Instance.key ∧
          offer.ranked ((offers (.ok datagrams)).idxOf offer + 1) now = listed := by
  rw [Cache.mem_snapshot_iff (wellFormed_cache_update wellFormed datagrams now),
    stored_update wellFormed, merged, List.mem_append, List.mem_map]
  refine or_congr ⟨?_, ?_⟩ ⟨?_, ?_⟩
  · rintro ⟨existing, stored, later⟩
    exact ⟨existing, ((Cache.mem_stored_iff wellFormed).mp stored).1, later⟩
  · rintro ⟨existing, known, rfl⟩
    have own : (seen (offers (.ok datagrams)) now existing).identity = existing.identity :=
      congrArg Prod.fst (key_seen _ now existing)
    rw [own]
    exact ⟨existing, (Cache.mem_snapshot_iff wellFormed).mp known, rfl⟩
  · intro isNew
    obtain ⟨offer, offered, unknown, rfl⟩ := mem_newcomers.mp isNew
    exact ⟨offer, offered,
      mt (Cache.mem_keys_stored_iff wellFormed).mpr (Offer.isNew_iff.mp unknown).2, rfl⟩
  · rintro ⟨offer, offered, unknown, rfl⟩
    exact mem_newcomers.mpr ⟨offer, offered,
      Offer.isNew_iff.mpr ⟨rfl, mt (Cache.mem_keys_stored_iff wellFormed).mp unknown⟩, rfl⟩

/-- What a round leaves, for whatever request, is decided by its answers: the datagrams in which
there is an answer, in their order, each with the service that it names, the agent that sent it and
the agent's node. The result says whether there are any. Each key that is answered for is listed once afterwards and seen now; if it was
cached, it keeps its rank, and if it is new, its rank is the place of its first answer among all
the answers. What no answer is for is listed if it was. Of every identity the cached instances
stay in their places, and the new ones come behind them in the order of their first answers. So
it does not matter what arrives besides the answers, and where; and without an answer, or if the
transport fails, nothing is changed. -/
theorem update_merges (arises : resolver.cache.Arises) (datagrams : List Bytes) (now : Instant) :
    offers (.ok datagrams) = datagrams.filterMap offer? ∧
    (∀ datagram offer, offer? datagram = some offer ↔
      ∃ envelope, Wire.decode datagram = .ok envelope ∧
        envelope.content = .reply offer.identity ∧ envelope.sender = offer.agent ∧
          envelope.node = offer.node) ∧
    (∀ datagram, isAnswer datagram = true ↔
      ∃ envelope identity, Wire.decode datagram = .ok envelope ∧
        envelope.content = .reply identity) ∧
    ((resolver.update (.ok datagrams) now).2 = .ok true ↔ offers (.ok datagrams) ≠ []) ∧
    (∀ offer ∈ offers (.ok datagrams),
      ((resolver.update (.ok datagrams) now).1.cache.snapshot.map Instance.key).count
        offer.key = 1 ∧
      ∀ listed ∈ (resolver.update (.ok datagrams) now).1.cache.snapshot,
        listed.key = offer.key → listed.lastSeen = now ∧
          (∀ existing ∈ resolver.cache.snapshot, existing.key = offer.key →
            listed.responseTime = existing.responseTime) ∧
          (offer.key ∉ resolver.cache.snapshot.map Instance.key →
            listed.responseTime = (offers (.ok datagrams)).idxOf offer + 1)) ∧
    (∀ listed : Instance, listed.key ∉ (offers (.ok datagrams)).map Offer.key →
      (listed ∈ (resolver.update (.ok datagrams) now).1.cache.snapshot ↔
        listed ∈ resolver.cache.snapshot)) ∧
    (∀ identity : Identity,
      (resolver.update (.ok datagrams) now).1.cache.stored identity.name identity.version =
        (resolver.cache.stored identity.name identity.version).map
            (seen (offers (.ok datagrams)) now) ++
          newcomers identity (resolver.cache.stored identity.name identity.version)
            (offers (.ok datagrams)) now) ∧
    (∀ others : List Bytes, others.filter isAnswer = datagrams.filter isAnswer →
      resolver.update (.ok others) now = resolver.update (.ok datagrams) now) ∧
    (offers (.ok datagrams) = [] →
      resolver.update (.ok datagrams) now = (resolver, .ok false)) ∧
    ∀ error, resolver.update (.error error) now = (resolver, .error (.ofTransport error)) := by
  have wellFormed := arises.wellFormed
  have after := wellFormed_cache_update wellFormed datagrams now
  refine ⟨rfl, fun _ _ => offer_eq_some_iff, fun _ => isAnswer_iff, ?_,
    fun offer offered => ⟨?_, fun listed member own => ?_⟩, fun listed other => ?_,
    stored_update wellFormed datagrams now, fun others same => ?_, fun nothing => ?_,
    fun error => rfl⟩
  · rw [update_eq, Except.ok.injEq, decide_eq_true_iff]
  · refine List.count_eq_one_of_mem (Cache.nodup_key after) (List.mem_map.mpr ?_)
    by_cases known : offer.key ∈ resolver.cache.snapshot.map Instance.key
    · obtain ⟨existing, member, own⟩ := List.mem_map.mp known
      exact ⟨_, (mem_snapshot_update wellFormed).mpr (Or.inl ⟨existing, member, rfl⟩),
        (key_seen _ now existing).trans own⟩
    · exact ⟨_, (mem_snapshot_update wellFormed).mpr (Or.inr ⟨offer, offered, known, rfl⟩),
        offer.key_ranked _ now⟩
  · rcases (mem_snapshot_update wellFormed).mp member with
      ⟨existing, known, rfl⟩ | ⟨other, _, unknown, rfl⟩
    · rw [key_seen] at own
      rw [seen, if_pos (List.mem_map.mpr ⟨offer, offered, own.symm⟩)]
      refine ⟨rfl, fun former formerly same => ?_,
        fun unknown => absurd (List.mem_map.mpr ⟨existing, known, own⟩) unknown⟩
      rw [List.inj_on_of_nodup_map (Cache.nodup_key wellFormed) formerly known
        (same.trans own.symm)]
      rfl
    · obtain rfl := Offer.key_inj.mp own
      exact ⟨rfl, fun former formerly same =>
        absurd (List.mem_map.mpr ⟨former, formerly, same⟩) unknown, fun _ => rfl⟩
  · have still {existing : Instance}
        (apart : existing.key ∉ (offers (.ok datagrams)).map Offer.key) :
        seen (offers (.ok datagrams)) now existing = existing := if_neg apart
    rw [mem_snapshot_update wellFormed]
    constructor
    · rintro (⟨existing, known, rfl⟩ | ⟨offer, offered, _, rfl⟩)
      · rw [key_seen] at other
        rwa [still other]
      · exact absurd (List.mem_map.mpr ⟨offer, offered, rfl⟩) other
    · intro known
      exact Or.inl ⟨listed, known, still other⟩
  · have offered : offers (.ok others) = offers (.ok datagrams) := by
      rw [offers, offers, ← filterMap_filter_isAnswer, same, filterMap_filter_isAnswer]
    rw [update_eq, update_eq, offered]
  · rw [update_eq, nothing]
    rfl

/-- A node that got two greetings, which are outdated by now. -/
def forgetful : Moment :=
  Moment.asker.after [.add (Moment.greetingFrom "first" 1 3),
    .add (Moment.greetingFrom "third" 3 2), .wait ⟨9⟩]

/-- Another node asks for greetings. -/
def greetingQuestion : Envelope :=
  ⟨"second", Bytes32.filled 2, Bytes32.filled 0, .request ⟨"greeting", .any, false⟩⟩

/-- The first greeting is seen again, with its old rank and before the other one. The new offers
have the first and the third rank, for neither what is unreadable nor a question takes one, but
the known greeting does. -/
theorem update_merges_forgetful :
    ∃ strange known new question, Wire.encode Moment.strangeAnswer = .ok strange ∧
      Wire.encode Moment.repeatedAnswer = .ok known ∧
      Wire.encode Moment.greetingAnswer = .ok new ∧
      Wire.encode greetingQuestion = .ok question ∧
      (forgetful.resolver.update (.ok [[], strange, known, question, new, strange]) ⟨12⟩).2 =
        .ok true ∧
      (forgetful.resolver.update (.ok [[], strange, known, question, new, strange])
        ⟨12⟩).1.cache.stored "greeting" ⟨1, 0, 0⟩ =
          [(Moment.greetingFrom "first" 1 3).touch ⟨12⟩, Moment.greetingFrom "third" 3 2] ∧
      (forgetful.resolver.update (.ok [[], strange, known, question, new, strange])
        ⟨12⟩).1.cache.stored "farewell" ⟨1, 0, 0⟩ =
          [.remote ⟨"farewell", ⟨1, 0, 0⟩⟩ "stranger" (Bytes32.filled 1) 1 ⟨12⟩] ∧
      (forgetful.resolver.update (.ok [[], strange, known, question, new, strange])
        ⟨12⟩).1.cache.stored "greeting" ⟨1, 10, 0⟩ =
          [.remote ⟨"greeting", ⟨1, 10, 0⟩⟩ "second" (Bytes32.filled 2) 3 ⟨12⟩] ∧
      forgetful.resolver.update (.ok [strange, known, new, strange]) ⟨12⟩ =
        forgetful.resolver.update (.ok [[], strange, known, question, new, strange]) ⟨12⟩ := by
  obtain ⟨strange, strangeSent⟩ :
      ∃ datagram, Wire.encode Moment.strangeAnswer = .ok datagram :=
    ⟨_, (Wire.encode_eq_ok_iff _ _).mpr ⟨by decide +kernel, rfl⟩⟩
  obtain ⟨known, knownSent⟩ : ∃ datagram, Wire.encode Moment.repeatedAnswer = .ok datagram :=
    ⟨_, (Wire.encode_eq_ok_iff _ _).mpr ⟨by decide +kernel, rfl⟩⟩
  obtain ⟨new, newSent⟩ : ∃ datagram, Wire.encode Moment.greetingAnswer = .ok datagram :=
    ⟨_, (Wire.encode_eq_ok_iff _ _).mpr ⟨by decide +kernel, rfl⟩⟩
  obtain ⟨question, questionSent⟩ : ∃ datagram, Wire.encode greetingQuestion = .ok datagram :=
    ⟨_, (Wire.encode_eq_ok_iff _ _).mpr ⟨by decide +kernel, rfl⟩⟩
  have asked : offer? question = none := by
    rw [offer?, Wire.decode_of_encode questionSent]
    rfl
  have received : offers (.ok [[], strange, known, question, new, strange]) =
      [⟨⟨"farewell", ⟨1, 0, 0⟩⟩, "stranger", Bytes32.filled 1⟩,
        ⟨⟨"greeting", ⟨1, 0, 0⟩⟩, "first", Bytes32.filled 1⟩,
        ⟨⟨"greeting", ⟨1, 10, 0⟩⟩, "second", Bytes32.filled 2⟩,
        ⟨⟨"farewell", ⟨1, 0, 0⟩⟩, "stranger", Bytes32.filled 1⟩] := by
    rw [offers, List.filterMap_cons_none rfl,
      List.filterMap_cons_some (offer_of_encode strangeSent rfl),
      List.filterMap_cons_some (offer_of_encode knownSent rfl), List.filterMap_cons_none asked,
      List.filterMap_cons_some (offer_of_encode newSent rfl),
      List.filterMap_cons_some (offer_of_encode strangeSent rfl)]
    rfl
  have arises : forgetful.resolver.cache.Arises :=
    ⟨forgetful, Moment.Reachable.after (.start _ _ (by decide)) _, rfl⟩
  obtain ⟨_, _, _, any, _, _, stored, answers, _⟩ := update_merges arises
    [[], strange, known, question, new, strange] ⟨12⟩
  rw [received] at any stored
  refine ⟨strange, known, new, question, strangeSent, knownSent, newSent, questionSent,
    any.mpr (List.cons_ne_nil _ _), (stored ⟨"greeting", ⟨1, 0, 0⟩⟩).trans (by decide),
    (stored ⟨"farewell", ⟨1, 0, 0⟩⟩).trans (by decide),
    (stored ⟨"greeting", ⟨1, 10, 0⟩⟩).trans (by decide), answers _ ?_⟩
  have questioned : isAnswer question = false := congrArg Option.isSome asked
  have unreadable : isAnswer [] = false := rfl
  simp only [List.filter_cons, questioned, unreadable, Bool.false_eq_true, if_false]

end Resolver

end ServiceDiscovery
