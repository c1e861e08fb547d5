/-
This file proves what a discovery round does to the cache. The datagrams matter only through
the offers among them, which are added one after the other, each with its rank. Every offer is
cached afterwards under the identity that it names, whatever the question was; offers from
different nodes, none of which was cached, stand in the order in which they came.
-/

import ServiceDiscovery.Proofs.Cache
import ServiceDiscovery.Proofs.Frame
import ServiceDiscovery.Round

namespace ServiceDiscovery

namespace Cache

/-! ### Adding several instances -/

/-- The cache after several instances were added at one moment. -/
def addAll (now : Instant) (cache : Cache) (occurrences : List Instance) : Cache :=
  occurrences.foldl (fun cache occurrence => (cache.add occurrence now).1) cache

theorem lifetime_add (cache : Cache) (occurrence : Instance) (now : Instant) :
    (cache.add occurrence now).1.lifetime = cache.lifetime := by
  unfold add
  split <;> rfl

theorem lifetime_addAll (now : Instant) (cache : Cache) (occurrences : List Instance) :
    (cache.addAll now occurrences).lifetime = cache.lifetime := by
  induction occurrences generalizing cache with
  | nil => rfl
  | cons occurrence others inductionHypothesis =>
    rw [addAll, List.foldl_cons, ← addAll, inductionHypothesis, lifetime_add]

theorem wellFormed_addAll {cache : Cache} (wellFormed : cache.WellFormed) (now : Instant)
    (occurrences : List Instance) : (cache.addAll now occurrences).WellFormed := by
  induction occurrences generalizing cache with
  | nil => exact wellFormed
  | cons occurrence others inductionHypothesis =>
    exact inductionHypothesis (wellFormed_add wellFormed occurrence now)

/-- Something is stored under an identity that is in a place. -/
def Knows (cache : Cache) (identity : Identity) (place : Locality) : Prop :=
  ∃ occurrence ∈ cache.stored identity.name identity.version, occurrence.locality = place

theorem knows_add_of_knows {cache : Cache} {identity : Identity} {place : Locality}
    (known : cache.Knows identity place) (occurrence : Instance) (now : Instant) :
    (cache.add occurrence now).1.Knows identity place := by
  cases here : occurrence.isHere with
  | true =>
    rw [add_of_here here]
    exact known
  | false =>
    obtain ⟨existing, member, rfl⟩ := known
    unfold Knows
    rw [stored_add here]
    split
    · exact exists_of_mem member now
    · exact ⟨existing, member, rfl⟩

theorem knows_add {occurrence : Instance} (remote : occurrence.isHere = false) (cache : Cache)
    (now : Instant) :
    (cache.add occurrence now).1.Knows occurrence.identity occurrence.locality := by
  unfold Knows
  rw [stored_add remote, if_pos rfl]
  exact exists_of_insert remote _ now

theorem knows_addAll_of_knows {cache : Cache} {identity : Identity} {place : Locality}
    (known : cache.Knows identity place) (now : Instant) (occurrences : List Instance) :
    (cache.addAll now occurrences).Knows identity place := by
  induction occurrences generalizing cache with
  | nil => exact known
  | cons occurrence others inductionHypothesis =>
    exact inductionHypothesis (knows_add_of_knows known occurrence now)

theorem knows_addAll {occurrence : Instance} {occurrences : List Instance}
    (member : occurrence ∈ occurrences) (remote : occurrence.isHere = false) (now : Instant)
    (cache : Cache) :
    (cache.addAll now occurrences).Knows occurrence.identity occurrence.locality := by
  induction occurrences generalizing cache with
  | nil => cases member
  | cons first others inductionHypothesis =>
    rcases List.mem_cons.mp member with rfl | member
    · exact knows_addAll_of_knows (knows_add remote cache now) now others
    · exact inductionHypothesis member _

/-- After an add, a cache knows what it knew and what was added. -/
theorem knows_of_add {cache : Cache} {occurrence : Instance} {now : Instant}
    {identity : Identity} {place : Locality}
    (known : (cache.add occurrence now).1.Knows identity place) :
    cache.Knows identity place ∨ occurrence.identity = identity ∧ occurrence.locality = place := by
  cases here : occurrence.isHere with
  | true =>
    rw [add_of_here here] at known
    exact Or.inl known
  | false =>
    obtain ⟨later, member, rfl⟩ := known
    rw [stored_add here] at member
    split at member
    · rename_i own
      rcases mem_insert member with rfl | ⟨existing, stored, rfl | rfl⟩
      · exact Or.inr ⟨own, rfl⟩
      · exact Or.inl ⟨_, stored, rfl⟩
      · exact Or.inl ⟨existing, stored, rfl⟩
    · exact Or.inl ⟨later, member, rfl⟩

theorem knows_of_addAll {cache : Cache} {occurrences : List Instance} {now : Instant}
    {identity : Identity} {place : Locality}
    (known : (cache.addAll now occurrences).Knows identity place) :
    cache.Knows identity place ∨
      ∃ occurrence ∈ occurrences, occurrence.identity = identity ∧ occurrence.locality = place := by
  induction occurrences generalizing cache with
  | nil => exact Or.inl known
  | cons occurrence others inductionHypothesis =>
    rcases inductionHypothesis known with known | ⟨other, member, same⟩
    · exact (knows_of_add known).imp_right fun same => ⟨occurrence, List.mem_cons_self, same⟩
    · exact Or.inr ⟨other, List.mem_cons_of_mem _ member, same⟩

/-- The instance is one of the given identity. -/
def carries (identity : Identity) (occurrence : Instance) : Bool :=
  occurrence.identity = identity

theorem carries_iff {identity : Identity} {occurrence : Instance} :
    carries identity occurrence = true ↔ occurrence.identity = identity :=
  decide_eq_true_iff

/-- Instances in places of their own, which nothing stored shares, are stored in their order. -/
theorem stored_addAll {occurrences : List Instance}
    (remote : ∀ occurrence ∈ occurrences, occurrence.isHere = false)
    (distinct : occurrences.Pairwise fun first second => first.same second = false)
    {cache : Cache} {name : String} {version : Version}
    (isNew : ∀ existing ∈ cache.stored name version, ∀ occurrence ∈ occurrences,
      existing.same occurrence = false) (now : Instant) :
    (cache.addAll now occurrences).stored name version =
      cache.stored name version ++
        occurrences.filter (carries ⟨name, version⟩) := by
  induction occurrences generalizing cache with
  | nil => exact (List.append_nil _).symm
  | cons occurrence others inductionHypothesis =>
    obtain ⟨away, othersAway⟩ := List.forall_mem_cons.mp remote
    obtain ⟨apart, othersApart⟩ := List.pairwise_cons.mp distinct
    have added : (cache.add occurrence now).1.stored name version =
        cache.stored name version ++ [occurrence].filter (carries ⟨name, version⟩) := by
      rw [stored_add away]
      by_cases same : occurrence.identity = ⟨name, version⟩
      · rw [if_pos same, List.filter_cons_of_pos (carries_iff.mpr same),
          insert_of_new fun existing member => isNew existing member occurrence List.mem_cons_self]
        rfl
      · rw [if_neg same, List.filter_cons_of_neg (mt carries_iff.mp same)]
        exact (List.append_nil _).symm
    rw [addAll, List.foldl_cons, ← addAll, inductionHypothesis othersAway othersApart, added,
      List.append_assoc, ← List.filter_append, List.singleton_append]
    intro existing member other otherMember
    rw [added] at member
    rcases List.mem_append.mp member with member | member
    · exact isNew existing member other (List.mem_cons_of_mem _ otherMember)
    · rw [List.mem_singleton.mp (List.mem_filter.mp member).1]
      exact apart other otherMember

end Cache

namespace Round

/-! ### The offers of a round -/

/-- An encoded answer is read as the offer that it makes. -/
theorem offer_of_encode {envelope : Envelope} {datagram : Bytes} {identity : Identity}
    (encoded : Wire.encode envelope = .ok datagram)
    (content : envelope.content = .reply identity) :
    offer? datagram = some ⟨identity, envelope.sender, envelope.node⟩ := by
  simp only [offer?, Wire.decode_of_encode encoded, content]

/-- The instances that offers are cached as, with the ranks after the given one. -/
def ranking (now : Instant) : Nat → List Offer → List Instance
  | _, [] => []
  | rank, offer :: others => offer.ranked (rank + 1) now :: ranking now (rank + 1) others

theorem fold_eq (now : Instant) (cache : Cache) (accepted : Nat) (datagrams : List Bytes) :
    fold now cache accepted datagrams =
      (cache.addAll now (ranking now accepted (datagrams.filterMap offer?)),
        accepted + (datagrams.filterMap offer?).length) := by
  induction datagrams generalizing cache accepted with
  | nil => rfl
  | cons datagram others inductionHypothesis =>
    rw [fold]
    cases read : offer? datagram with
    | none =>
      rw [List.filterMap_cons_none read]
      exact inductionHypothesis cache accepted
    | some offer =>
      rw [List.filterMap_cons_some read, ranking, Cache.addAll, List.foldl_cons, ← Cache.addAll,
        List.length_cons]
      refine (inductionHypothesis _ _).trans ?_
      rw [Nat.add_assoc, Nat.add_comm 1]

/-- The offers of an outcome, in the order in which they came. -/
def offers : Outcome → List Offer
  | .ok datagrams => datagrams.filterMap offer?
  | .error _ => []

/-- A round adds its offers to the cache and does nothing else to it. -/
theorem fst_settle (cache : Cache) (now : Instant) (outcome : Outcome) :
    (settle cache now outcome).1 = cache.addAll now (ranking now 0 (offers outcome)) := by
  cases outcome with
  | error error => rfl
  | ok datagrams =>
    rw [settle, fold_eq]
    rfl

theorem mem_ranking {now : Instant} {rank : Nat} {offers : List Offer} {occurrence : Instance}
    (member : occurrence ∈ ranking now rank offers) :
    ∃ offer ∈ offers, ∃ later, rank < later ∧ occurrence = offer.ranked later now := by
  induction offers generalizing rank with
  | nil => cases member
  | cons offer others inductionHypothesis =>
    rcases List.mem_cons.mp member with rfl | member
    · exact ⟨offer, List.mem_cons_self, rank + 1, Nat.lt_succ_self rank, rfl⟩
    · obtain ⟨other, known, later, less, rfl⟩ := inductionHypothesis member
      exact ⟨other, List.mem_cons_of_mem _ known, later, Nat.lt_of_succ_lt less, rfl⟩

theorem exists_of_mem_offers {offers : List Offer} {offer : Offer} (member : offer ∈ offers)
    (now : Instant) (rank : Nat) :
    ∃ later, offer.ranked later now ∈ ranking now rank offers := by
  induction offers generalizing rank with
  | nil => cases member
  | cons first others inductionHypothesis =>
    rcases List.mem_cons.mp member with rfl | member
    · exact ⟨rank + 1, List.mem_cons_self⟩
    · obtain ⟨later, found⟩ := inductionHypothesis member (rank + 1)
      exact ⟨later, List.mem_cons_of_mem _ found⟩

theorem ranking_append (now : Instant) (rank : Nat) (before after : List Offer) :
    ranking now rank (before ++ after) =
      ranking now rank before ++ ranking now (rank + before.length) after := by
  induction before generalizing rank with
  | nil => rfl
  | cons offer others inductionHypothesis =>
    rw [List.cons_append, ranking, ranking, inductionHypothesis, List.length_cons, Nat.add_assoc,
      Nat.add_comm 1, List.cons_append]

/-- Offers from different nodes are cached in different places. -/
theorem distinct_ranking {offers : List Offer}
    (distinct : offers.Pairwise fun first second => first.node ≠ second.node) (now : Instant)
    (rank : Nat) :
    (ranking now rank offers).Pairwise fun first second => first.same second = false := by
  induction offers generalizing rank with
  | nil => exact List.Pairwise.nil
  | cons offer others inductionHypothesis =>
    obtain ⟨apart, rest⟩ := List.pairwise_cons.mp distinct
    refine List.pairwise_cons.mpr ⟨fun other member => ?_, inductionHypothesis rest (rank + 1)⟩
    obtain ⟨second, known, later, _, rfl⟩ := mem_ranking member
    refine (Bool.not_eq_true _).mp fun same => ?_
    rw [Instance.same_iff] at same
    exact apart second known same.2

/-- Every offer is cached after its round, whatever was asked. -/
theorem knows_settle {outcome : Outcome} {offer : Offer} (member : offer ∈ offers outcome)
    (cache : Cache) (now : Instant) :
    (settle cache now outcome).1.Knows offer.identity (.remote offer.agent offer.node) := by
  rw [fst_settle]
  obtain ⟨rank, found⟩ := exists_of_mem_offers member now 0
  exact Cache.knows_addAll found rfl now cache

/-- After a round, a cache knows what it knew and what was offered. -/
theorem knows_of_settle {cache : Cache} {now : Instant} {outcome : Outcome}
    {identity : Identity} {place : Locality}
    (known : (settle cache now outcome).1.Knows identity place) :
    cache.Knows identity place ∨
      ∃ offer ∈ offers outcome, offer.identity = identity ∧
        place = .remote offer.agent offer.node := by
  rw [fst_settle] at known
  refine (Cache.knows_of_addAll known).imp_right ?_
  rintro ⟨occurrence, member, own, rfl⟩
  obtain ⟨offer, offered, rank, _, rfl⟩ := mem_ranking member
  exact ⟨offer, offered, own, rfl⟩

theorem wellFormed_settle {cache : Cache} (wellFormed : cache.WellFormed) (now : Instant)
    (outcome : Outcome) : (settle cache now outcome).1.WellFormed := by
  rw [fst_settle]
  exact Cache.wellFormed_addAll wellFormed now _

theorem lifetime_settle (cache : Cache) (now : Instant) (outcome : Outcome) :
    (settle cache now outcome).1.lifetime = cache.lifetime := by
  rw [fst_settle, Cache.lifetime_addAll]

/-! ### The newest offer -/

/-- Among offers there is a first one of the newest version. -/
theorem exists_newest {offers : List Offer} (some : offers ≠ []) :
    ∃ before best after, offers = before ++ best :: after ∧
      (∀ offer ∈ before, offer.identity.version.place < best.identity.version.place) ∧
      ∀ offer ∈ after, offer.identity.version.place ≤ best.identity.version.place := by
  induction offers with
  | nil => exact absurd rfl some
  | cons offer others inductionHypothesis =>
    by_cases last : others = []
    · subst last
      exact ⟨[], offer, [], rfl, List.forall_mem_nil _, List.forall_mem_nil _⟩
    · obtain ⟨before, best, after, rfl, older, notNewer⟩ := inductionHypothesis last
      by_cases newer : offer.identity.version.place < best.identity.version.place
      · exact ⟨offer :: before, best, after, rfl, List.forall_mem_cons.mpr ⟨newer, older⟩, notNewer⟩
      · have atMost := Nat.not_lt.mp newer
        refine ⟨[], offer, before ++ best :: after, rfl, List.forall_mem_nil _, ?_⟩
        refine List.forall_mem_append.mpr ⟨fun other member => ?_, List.forall_mem_cons.mpr
          ⟨atMost, fun other member => ?_⟩⟩
        · exact Nat.le_trans (Nat.le_of_lt (older other member)) atMost
        · exact Nat.le_trans (notNewer other member) atMost

/-- Offers of other identities are not cached under this one. -/
theorem filter_ranking_eq_nil {offers : List Offer} {identity : Identity}
    (other : ∀ offer ∈ offers, offer.identity ≠ identity) (now : Instant) (rank : Nat) :
    (ranking now rank offers).filter (Cache.carries identity) = [] := by
  refine List.filter_eq_nil_iff.mpr fun occurrence member carried => ?_
  obtain ⟨offer, known, later, _, rfl⟩ := mem_ranking member
  exact other offer known (Cache.carries_iff.mp carried)

/-- Of the offers of one identity the first is the fastest. -/
theorem fastest_ranking {before after : List Offer} {best : Offer}
    (other : ∀ offer ∈ before, offer.identity ≠ best.identity) (now : Instant) :
    Cache.fastest? ((ranking now 0 (before ++ best :: after)).filter
      (Cache.carries best.identity)) = some (best.ranked (before.length + 1) now) := by
  have own : Cache.carries best.identity (best.ranked (before.length + 1) now) = true :=
    Cache.carries_iff.mpr rfl
  rw [ranking_append, List.filter_append, filter_ranking_eq_nil other, List.nil_append, ranking,
    Nat.zero_add, List.filter_cons_of_pos own]
  refine Cache.fastest_eq_some_iff.mpr ⟨[], _, rfl, List.forall_mem_nil _,
    fun occurrence member => ?_⟩
  obtain ⟨offer, _, later, less, rfl⟩ := mem_ranking (List.mem_filter.mp member).1
  exact Nat.le_of_lt less

end Round

end ServiceDiscovery
