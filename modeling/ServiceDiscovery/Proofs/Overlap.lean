/-
This file proves what rounds do to one cache that they share. Each reads its own answers in
their order and counts the ranks by itself, but between two of them others may read theirs. The
cache is followed key by key: a turn reads one answer, and either it is for the key, which is
seen then, or the key stays as it is. What is cached in the end is then a matter of who read
what; only the ranks of new keys are a matter of who read first.
-/

import Mathlib.Data.List.Nodup
import Mathlib.Logic.Function.Basic
import ServiceDiscovery.Proofs.Contents

namespace ServiceDiscovery

/-! ### What is cached under a key -/

namespace Cache

variable {cache : Cache}

/-- The instance that is cached with a key. -/
def cached? (cache : Cache) (key : Instance.Key) : Option Instance :=
  (cache.stored key.1.name key.1.version).find? fun listed => listed.key = key

theorem cached_eq_some_iff (wellFormed : cache.WellFormed) {key : Instance.Key}
    {occurrence : Instance} :
    cache.cached? key = some occurrence ↔ occurrence ∈ cache.snapshot ∧ occurrence.key = key := by
  have listed {other : Instance} (found : cache.cached? key = some other) :
      other ∈ cache.snapshot ∧ other.key = key := by
    have own := List.find?_some found
    rw [decide_eq_true_eq] at own
    exact ⟨((mem_stored_iff wellFormed).mp (List.mem_of_find?_eq_some found)).1, own⟩
  refine ⟨listed, ?_⟩
  rintro ⟨member, rfl⟩
  have stored := (mem_snapshot_iff wellFormed).mp member
  obtain ⟨other, found⟩ : ∃ other, cache.cached? occurrence.key = some other :=
    Option.isSome_iff_exists.mp (List.find?_isSome.mpr ⟨occurrence, stored, decide_eq_true rfl⟩)
  obtain ⟨otherMember, same⟩ := listed found
  rw [found, List.inj_on_of_nodup_map (nodup_key wellFormed) otherMember member same]

theorem cached_isSome_iff (wellFormed : cache.WellFormed) {key : Instance.Key} :
    (∃ occurrence, cache.cached? key = some occurrence) ↔
      key ∈ cache.snapshot.map Instance.key := by
  simp only [cached_eq_some_iff wellFormed, List.mem_map]

theorem key_touch (occurrence : Instance) (now : Instant) :
    (occurrence.touch now).key = occurrence.key :=
  rfl

/-- What is found among the instances of one version after another one came. -/
theorem find_insert {instances : List Instance} {name : String} {version : Version}
    (placed : Placed name version instances) {occurrence : Instance}
    (identity : occurrence.identity = ⟨name, version⟩) (remote : occurrence.isHere = false)
    (key : Instance.Key) :
    ((insert occurrence occurrence.lastSeen instances).1.find? fun listed => listed.key = key) =
      if occurrence.key = key then
        some (((instances.find? fun listed => listed.key = key).getD occurrence).touch
          occurrence.lastSeen)
      else instances.find? fun listed => listed.key = key := by
  induction instances with
  | nil =>
    rw [insert, List.find?_cons, List.find?_nil]
    by_cases own : occurrence.key = key
    · rw [if_pos own, decide_eq_true own]
      rfl
    · rw [if_neg own, decide_eq_false own]
  | cons existing others inductionHypothesis =>
    have same : existing.same occurrence = true ↔ existing.key = occurrence.key :=
      placed.same_iff_key identity remote List.mem_cons_self
    rw [insert]
    by_cases known : existing.key = occurrence.key
    · rw [if_pos (same.mpr known), List.find?_cons, List.find?_cons, key_touch, known]
      by_cases own : occurrence.key = key
      · rw [if_pos own, decide_eq_true own]
        rfl
      · rw [if_neg own, decide_eq_false own]
    · rw [if_neg (mt same.mp known)]
      show (existing :: (insert occurrence occurrence.lastSeen others).1).find? _ = _
      rw [List.find?_cons, List.find?_cons]
      by_cases own : existing.key = key
      · rw [decide_eq_true own, if_neg fun other => known (own.trans other.symm)]
      · rw [decide_eq_false own]
        exact inductionHypothesis placed.tail

/-- An instance that is added is cached if its key is new, and marks the one with its key as seen
otherwise. Nothing else changes. -/
theorem cached_add (wellFormed : cache.WellFormed) {occurrence : Instance}
    (remote : occurrence.isHere = false) (key : Instance.Key) :
    (cache.add occurrence occurrence.lastSeen).1.cached? key =
      if occurrence.key = key then
        some (((cache.cached? key).getD occurrence).touch occurrence.lastSeen)
      else cache.cached? key := by
  unfold cached?
  rw [stored_add remote]
  by_cases identity : occurrence.identity = key.1
  · rw [if_pos identity]
    exact find_insert (wellFormed.placed _ _) identity remote key
  · rw [if_neg identity, if_neg fun same => identity (congrArg Prod.fst same)]

end Cache

/-! ### Rounds that take turns -/

namespace Round

/-- The key that an offer is cached with. -/
def Offer.key (offer : Offer) : Instance.Key :=
  (offer.identity, offer.agent, some offer.node)

/-- A round reads its next datagram at a moment. -/
structure Turn (Index : Type) where
  round : Index
  datagram : Bytes
  moment : Instant

/-- A cache that several rounds share, with the number of offers that each has counted. -/
structure Shared (Index : Type) where
  cache : Cache
  accepted : Index → Nat

namespace Turn

variable {Index : Type}

/-- The offer that is read. -/
def offer? (turn : Turn Index) : Option Offer :=
  Round.offer? turn.datagram

/-- The key of the offer that is read. -/
def key? (turn : Turn Index) : Option Instance.Key :=
  turn.offer?.map Offer.key

variable [DecidableEq Index]

/-- The turns of one round. -/
def ofRound (turns : List (Turn Index)) (index : Index) : List (Turn Index) :=
  turns.filter fun turn => turn.round = index

/-- The offers that one round reads. -/
def offersOf (turns : List (Turn Index)) (index : Index) : List Offer :=
  (ofRound turns index).filterMap offer?

/-- Every round reads what it was given, in its order. -/
def Interleave (turns : List (Turn Index)) (replies : Index → List Bytes) : Prop :=
  ∀ index, (ofRound turns index).map Turn.datagram = replies index

end Turn

/-- A round goes on with its other datagrams where the first one left it. -/
theorem fold_cons (now : Instant) (cache : Cache) (accepted : Nat) (datagram : Bytes)
    (others : List Bytes) :
    fold now cache accepted (datagram :: others) =
      fold now (fold now cache accepted [datagram]).1 (fold now cache accepted [datagram]).2
        others := by
  simp only [fold]
  cases Round.offer? datagram <;> rfl

namespace Shared

variable {Index : Type} [DecidableEq Index]

/-- No round has counted anything. -/
def start (cache : Cache) : Shared Index :=
  ⟨cache, fun _ => 0⟩

/-- One turn: the round goes on from its own count, with the cache that all share. -/
def take (shared : Shared Index) (turn : Turn Index) : Shared Index :=
  match fold turn.moment shared.cache (shared.accepted turn.round) [turn.datagram] with
  | (cache, accepted) => ⟨cache, Function.update shared.accepted turn.round accepted⟩

def takeAll (shared : Shared Index) (turns : List (Turn Index)) : Shared Index :=
  turns.foldl take shared

variable {shared : Shared Index} {turn : Turn Index}

/-! ### What a turn does -/

theorem take_of_none (nothing : turn.offer? = none) : shared.take turn = shared := by
  unfold take fold
  rw [show Round.offer? turn.datagram = none from nothing]
  show (⟨shared.cache, Function.update _ _ _⟩ : Shared Index) = shared
  rw [Function.update_eq_self]

theorem take_of_offer {offer : Offer} (read : turn.offer? = some offer) :
    shared.take turn =
      ⟨(shared.cache.add (offer.ranked (shared.accepted turn.round + 1) turn.moment)
          turn.moment).1,
        Function.update shared.accepted turn.round (shared.accepted turn.round + 1)⟩ := by
  unfold take fold
  rw [show Round.offer? turn.datagram = some offer from read]
  rfl

theorem wellFormed_take (wellFormed : shared.cache.WellFormed) (turn : Turn Index) :
    (shared.take turn).cache.WellFormed := by
  cases read : turn.offer? with
  | none =>
    rw [take_of_none read]
    exact wellFormed
  | some offer =>
    rw [take_of_offer read]
    exact Cache.wellFormed_add wellFormed _ _

/-- The key of an offer is seen, with the rank that it has or gets now. -/
theorem cached_take_of_offer (wellFormed : shared.cache.WellFormed) {offer : Offer}
    (read : turn.offer? = some offer) :
    (shared.take turn).cache.cached? offer.key =
      some (((shared.cache.cached? offer.key).getD
        (offer.ranked (shared.accepted turn.round + 1) turn.moment)).touch turn.moment) := by
  rw [take_of_offer read]
  exact (Cache.cached_add wellFormed rfl offer.key).trans (if_pos rfl)

/-- A turn for another key, or for none, changes nothing about a key. -/
theorem cached_take_of_other (wellFormed : shared.cache.WellFormed) {key : Instance.Key}
    (other : turn.key? ≠ some key) :
    (shared.take turn).cache.cached? key = shared.cache.cached? key := by
  cases read : turn.offer? with
  | none => rw [take_of_none read]
  | some offer =>
    rw [take_of_offer read]
    refine (Cache.cached_add wellFormed rfl key).trans (if_neg fun same => other ?_)
    rw [Turn.key?, read]
    exact congrArg some same

/-- A key that is cached stays cached with its rank. -/
theorem cached_take_of_known (wellFormed : shared.cache.WellFormed) (turn : Turn Index)
    {key : Instance.Key} {existing : Instance}
    (known : shared.cache.cached? key = some existing) :
    ∃ kept, (shared.take turn).cache.cached? key = some kept ∧
      kept.responseTime = existing.responseTime := by
  by_cases own : turn.key? = some key
  · obtain ⟨offer, read, rfl⟩ := Option.map_eq_some_iff.mp own
    rw [cached_take_of_offer wellFormed read, known]
    exact ⟨_, rfl, rfl⟩
  · rw [cached_take_of_other wellFormed own]
    exact ⟨existing, known, rfl⟩

/-! ### What several turns do -/

theorem takeAll_cons (shared : Shared Index) (turn : Turn Index) (others : List (Turn Index)) :
    shared.takeAll (turn :: others) = (shared.take turn).takeAll others :=
  rfl

theorem takeAll_append (shared : Shared Index) (before after : List (Turn Index)) :
    shared.takeAll (before ++ after) = (shared.takeAll before).takeAll after :=
  List.foldl_append

theorem wellFormed_takeAll (wellFormed : shared.cache.WellFormed) (turns : List (Turn Index)) :
    (shared.takeAll turns).cache.WellFormed := by
  induction turns generalizing shared with
  | nil => exact wellFormed
  | cons turn others inductionHypothesis =>
    exact inductionHypothesis (wellFormed_take wellFormed turn)

theorem cached_takeAll_of_other (wellFormed : shared.cache.WellFormed) {turns : List (Turn Index)}
    {key : Instance.Key} (other : ∀ turn ∈ turns, turn.key? ≠ some key) :
    (shared.takeAll turns).cache.cached? key = shared.cache.cached? key := by
  induction turns generalizing shared with
  | nil => rfl
  | cons turn others inductionHypothesis =>
    obtain ⟨first, rest⟩ := List.forall_mem_cons.mp other
    rw [takeAll_cons, inductionHypothesis (wellFormed_take wellFormed turn) rest,
      cached_take_of_other wellFormed first]

theorem cached_takeAll_of_known (wellFormed : shared.cache.WellFormed) (turns : List (Turn Index))
    {key : Instance.Key} {existing : Instance}
    (known : shared.cache.cached? key = some existing) :
    ∃ kept, (shared.takeAll turns).cache.cached? key = some kept ∧
      kept.responseTime = existing.responseTime := by
  induction turns generalizing shared existing with
  | nil => exact ⟨existing, known, rfl⟩
  | cons turn others inductionHypothesis =>
    obtain ⟨next, taken, rank⟩ := cached_take_of_known wellFormed turn known
    obtain ⟨kept, found, same⟩ := inductionHypothesis (wellFormed_take wellFormed turn) taken
    exact ⟨kept, found, same.trans rank⟩

theorem accepted_take (shared : Shared Index) (turn : Turn Index) (index : Index) :
    (shared.take turn).accepted index =
      shared.accepted index + (Turn.offersOf [turn] index).length := by
  unfold Turn.offersOf Turn.ofRound
  by_cases own : turn.round = index
  · subst own
    rw [List.filter_cons_of_pos (by simp), List.filter_nil]
    cases read : turn.offer? with
    | none =>
      rw [take_of_none read, List.filterMap_cons_none read]
      rfl
    | some offer =>
      rw [take_of_offer read, List.filterMap_cons_some read]
      exact Function.update_self ..
  · rw [List.filter_cons_of_neg (by simp [own])]
    cases read : turn.offer? with
    | none =>
      rw [take_of_none read]
      rfl
    | some offer =>
      rw [take_of_offer read]
      exact Function.update_of_ne (Ne.symm own) ..

/-- Every round counts the offers among its own datagrams. -/
theorem accepted_takeAll (shared : Shared Index) (turns : List (Turn Index)) (index : Index) :
    (shared.takeAll turns).accepted index =
      shared.accepted index + (Turn.offersOf turns index).length := by
  induction turns generalizing shared with
  | nil => rfl
  | cons turn others inductionHypothesis =>
    have split : Turn.offersOf (turn :: others) index =
        Turn.offersOf [turn] index ++ Turn.offersOf others index := by
      unfold Turn.offersOf Turn.ofRound
      rw [← List.filterMap_append, ← List.filter_append, List.singleton_append]
    rw [takeAll_cons, inductionHypothesis, accepted_take, split, List.length_append, Nat.add_assoc]

theorem cache_takeAll_alone (shared : Shared Index) (index : Index) (now : Instant)
    (datagrams : List Bytes) :
    (shared.takeAll (datagrams.map fun datagram => ⟨index, datagram, now⟩)).cache =
      (fold now shared.cache (shared.accepted index) datagrams).1 := by
  induction datagrams generalizing shared with
  | nil => rfl
  | cons datagram others inductionHypothesis =>
    have counted : (shared.take ⟨index, datagram, now⟩).accepted index =
        (fold now shared.cache (shared.accepted index) [datagram]).2 :=
      Function.update_self ..
    rw [List.map_cons, takeAll_cons, inductionHypothesis, counted]
    exact congrArg Prod.fst (fold_cons ..).symm

/-- One round that nothing comes between is the round as it is settled. -/
theorem takeAll_alone (cache : Cache) (index : Index) (now : Instant) (datagrams : List Bytes) :
    ((start cache).takeAll (datagrams.map fun datagram => ⟨index, datagram, now⟩)).cache =
      (settle cache now (.ok datagrams)).1 :=
  cache_takeAll_alone (start cache) index now datagrams

/-! ### What is cached after several turns -/

theorem known_takeAll_iff (wellFormed : shared.cache.WellFormed) (turns : List (Turn Index))
    (key : Instance.Key) :
    key ∈ (shared.takeAll turns).cache.snapshot.map Instance.key ↔
      key ∈ shared.cache.snapshot.map Instance.key ∨ ∃ turn ∈ turns, turn.key? = some key := by
  rw [← Cache.cached_isSome_iff (wellFormed_takeAll wellFormed turns),
    ← Cache.cached_isSome_iff wellFormed]
  constructor
  · rintro ⟨occurrence, found⟩
    by_cases offered : ∃ turn ∈ turns, turn.key? = some key
    · exact Or.inr offered
    · have other : ∀ turn ∈ turns, turn.key? ≠ some key := fun turn member same =>
        offered ⟨turn, member, same⟩
      rw [cached_takeAll_of_other wellFormed other] at found
      exact Or.inl ⟨occurrence, found⟩
  · rintro (⟨existing, known⟩ | ⟨turn, member, own⟩)
    · obtain ⟨kept, found, _⟩ := cached_takeAll_of_known wellFormed turns known
      exact ⟨kept, found⟩
    · obtain ⟨before, after, rfl⟩ := List.append_of_mem member
      obtain ⟨offer, read, rfl⟩ := Option.map_eq_some_iff.mp own
      have earlier := wellFormed_takeAll wellFormed before
      obtain ⟨kept, found, _⟩ := cached_takeAll_of_known (wellFormed_take earlier turn) after
        (cached_take_of_offer earlier read)
      rw [takeAll_append, takeAll_cons]
      exact ⟨kept, found⟩

/-- A new key gets the rank that its first offer has in its own round. -/
theorem responseTime_takeAll (wellFormed : shared.cache.WellFormed)
    (before after : List (Turn Index)) {key : Instance.Key}
    (unknown : key ∉ shared.cache.snapshot.map Instance.key) (own : turn.key? = some key)
    (first : ∀ earlier ∈ before, earlier.key? ≠ some key) :
    ∃ kept, (shared.takeAll (before ++ turn :: after)).cache.cached? key = some kept ∧
      kept.responseTime =
        shared.accepted turn.round + (Turn.offersOf before turn.round).length + 1 := by
  obtain ⟨offer, read, rfl⟩ := Option.map_eq_some_iff.mp own
  have earlier := wellFormed_takeAll wellFormed before
  have missing : (shared.takeAll before).cache.cached? offer.key = none := by
    rw [cached_takeAll_of_other wellFormed first]
    refine Option.eq_none_iff_forall_ne_some.mpr fun occurrence found => unknown ?_
    exact (Cache.cached_isSome_iff wellFormed).mp ⟨occurrence, found⟩
  have taken := cached_take_of_offer earlier read
  rw [missing, accepted_takeAll] at taken
  rw [takeAll_append, takeAll_cons]
  exact cached_takeAll_of_known (wellFormed_take earlier turn) after taken

/-- A key was last seen at its last turn. -/
theorem lastSeen_takeAll (wellFormed : shared.cache.WellFormed)
    (before after : List (Turn Index)) {key : Instance.Key}
    (own : turn.key? = some key) (last : ∀ later ∈ after, later.key? ≠ some key) :
    ∃ kept, (shared.takeAll (before ++ turn :: after)).cache.cached? key = some kept ∧
      kept.lastSeen = turn.moment := by
  obtain ⟨offer, read, rfl⟩ := Option.map_eq_some_iff.mp own
  have earlier := wellFormed_takeAll wellFormed before
  rw [takeAll_append, takeAll_cons, cached_takeAll_of_other (wellFormed_take earlier turn) last,
    cached_take_of_offer earlier read]
  exact ⟨_, rfl, rfl⟩

end Shared

/-- What several rounds read is what they were given. -/
theorem Turn.Interleave.exists_key_iff {Index : Type} [DecidableEq Index]
    {turns : List (Turn Index)} {replies : Index → List Bytes}
    (interleave : Interleave turns replies) {key : Instance.Key} :
    (∃ turn ∈ turns, turn.key? = some key) ↔
      ∃ index, ∃ datagram ∈ replies index, ∃ offer,
        Round.offer? datagram = some offer ∧ offer.key = key := by
  constructor
  · rintro ⟨turn, member, own⟩
    have given : turn.datagram ∈ replies turn.round := by
      rw [← interleave turn.round]
      exact List.mem_map.mpr ⟨turn, List.mem_filter.mpr ⟨member, decide_eq_true rfl⟩, rfl⟩
    exact ⟨turn.round, turn.datagram, given, Option.map_eq_some_iff.mp own⟩
  · rintro ⟨index, datagram, given, own⟩
    rw [← interleave index] at given
    obtain ⟨turn, member, rfl⟩ := List.mem_map.mp given
    exact ⟨turn, (List.mem_filter.mp member).1, Option.map_eq_some_iff.mpr own⟩

/-- The cache after several rounds took these turns. -/
def overlapped {Index : Type} [DecidableEq Index] (cache : Cache) (turns : List (Turn Index)) :
    Cache :=
  ((Shared.start cache).takeAll turns).cache

end Round

/-! ### Rounds of a node -/

namespace Moment

open Round

/-- Rounds that overlap neither lose nor double what they bring. Whatever a node has cached, and
however the turns of its rounds are mixed, the keys that are cached in the end are those that
were and those of all well-formed answers of all rounds, each once; so every other mixture of
the same rounds leads to the same keys. A key that was cached keeps its rank. A new one has the
rank that its first answer had in its own round, and was last seen when its last answer was read.
What no answer is for stays as it is. A round that nothing comes between leaves what it leaves by
itself. -/
theorem overlap_merges {moment : Moment} (reachable : moment.Reachable) {Index : Type}
    [DecidableEq Index] (replies : Index → List Bytes) {turns : List (Turn Index)}
    (interleave : Turn.Interleave turns replies) :
    (∀ key, key ∈ (overlapped moment.resolver.cache turns).snapshot.map Instance.key ↔
      key ∈ moment.resolver.cache.snapshot.map Instance.key ∨
        ∃ index, ∃ datagram ∈ replies index, ∃ offer,
          Round.offer? datagram = some offer ∧ offer.key = key) ∧
    ((overlapped moment.resolver.cache turns).snapshot.map Instance.key).Nodup ∧
    (∀ others : List (Turn Index), Turn.Interleave others replies →
      ((overlapped moment.resolver.cache turns).snapshot.map Instance.key).Perm
        ((overlapped moment.resolver.cache others).snapshot.map Instance.key)) ∧
    (∀ listed ∈ (overlapped moment.resolver.cache turns).snapshot,
      (∀ existing ∈ moment.resolver.cache.snapshot, existing.key = listed.key →
        listed.responseTime = existing.responseTime) ∧
      (listed.key ∉ moment.resolver.cache.snapshot.map Instance.key →
        ∀ before turn after, turns = before ++ turn :: after → turn.key? = some listed.key →
          (∀ earlier ∈ before, earlier.key? ≠ some listed.key) →
            listed.responseTime = (Turn.offersOf before turn.round).length + 1) ∧
      (∀ before turn after, turns = before ++ turn :: after → turn.key? = some listed.key →
        (∀ later ∈ after, later.key? ≠ some listed.key) → listed.lastSeen = turn.moment) ∧
      ((∀ turn ∈ turns, turn.key? ≠ some listed.key) →
        listed ∈ moment.resolver.cache.snapshot)) ∧
    ∀ (index : Index) (now : Instant) (datagrams : List Bytes),
      overlapped moment.resolver.cache
          (datagrams.map fun datagram => (⟨index, datagram, now⟩ : Turn Index)) =
        (settle moment.resolver.cache now (.ok datagrams)).1 := by
  have wellFormed : (Shared.start moment.resolver.cache : Shared Index).cache.WellFormed :=
    reachable.wellFormed.resolver.cache
  have later : (overlapped moment.resolver.cache turns).WellFormed :=
    Shared.wellFormed_takeAll wellFormed turns
  have keys {mixed : List (Turn Index)} (interleave : Turn.Interleave mixed replies)
      (key : Instance.Key) :
      key ∈ (overlapped moment.resolver.cache mixed).snapshot.map Instance.key ↔
        key ∈ moment.resolver.cache.snapshot.map Instance.key ∨
          ∃ index, ∃ datagram ∈ replies index, ∃ offer,
            Round.offer? datagram = some offer ∧ offer.key = key :=
    (Shared.known_takeAll_iff wellFormed mixed key).trans
      (or_congr Iff.rfl interleave.exists_key_iff)
  have unique {listed kept : Instance}
      (member : listed ∈ (overlapped moment.resolver.cache turns).snapshot)
      (found : (overlapped moment.resolver.cache turns).cached? listed.key = some kept) :
      listed = kept :=
    Option.some.inj (((Cache.cached_eq_some_iff later).mpr ⟨member, rfl⟩).symm.trans found)
  refine ⟨keys interleave, Cache.nodup_key later, fun others mixed => ?_, fun listed member =>
    ⟨fun existing known same => ?_, fun unknown before turn after split own first => ?_,
      fun before turn after split own last => ?_, fun other => ?_⟩,
    fun index now datagrams => Shared.takeAll_alone _ index now datagrams⟩
  · have otherwise : (overlapped moment.resolver.cache others).WellFormed :=
      Shared.wellFormed_takeAll wellFormed others
    exact (List.perm_ext_iff_of_nodup (Cache.nodup_key later) (Cache.nodup_key otherwise)).mpr
      fun key => (keys interleave key).trans (keys mixed key).symm
  · obtain ⟨kept, found, rank⟩ := Shared.cached_takeAll_of_known wellFormed turns
      ((Cache.cached_eq_some_iff wellFormed).mpr ⟨known, same⟩)
    rw [unique member found, rank]
  · subst split
    obtain ⟨kept, found, rank⟩ :=
      Shared.responseTime_takeAll wellFormed before after unknown own first
    rw [unique member found, rank]
    exact congrArg (· + 1) (Nat.zero_add _)
  · subst split
    obtain ⟨kept, found, seen⟩ := Shared.lastSeen_takeAll wellFormed before after own last
    rw [unique member found, seen]
  · have found := (Cache.cached_eq_some_iff later).mpr ⟨member, rfl⟩
    exact ((Cache.cached_eq_some_iff wellFormed).mp
      ((Shared.cached_takeAll_of_other wellFormed other).symm.trans found)).1

/-- A node that knows one greeting, and an answer that it gets again from there. -/
def greeted : Moment :=
  asker.after [.add (greetingFrom "first" 1 3)]

def repeatedAnswer : Envelope :=
  ⟨"first", Bytes32.filled 1, Bytes32.filled 0, .reply ⟨"greeting", ⟨1, 0, 0⟩⟩⟩

/-- Two rounds that both get the known greeting and a new one, in different orders. The second
one gets nothing readable at first. -/
def crossed (known new : Bytes) : List (Turn Bool) :=
  [⟨true, [], ⟨4⟩⟩, ⟨false, known, ⟨5⟩⟩, ⟨true, new, ⟨6⟩⟩, ⟨false, new, ⟨7⟩⟩, ⟨true, known, ⟨8⟩⟩]

theorem interleave_crossed (known new : Bytes) :
    Turn.Interleave (crossed known new) fun index =>
      if index then [[], new, known] else [known, new] := by
  intro index
  cases index <;> rfl

/-- The known greeting keeps its rank. The new one gets the first rank of the round that reads it
first; both are seen again in the other round. -/
theorem overlap_merges_crossed :
    ∃ known new, Wire.encode repeatedAnswer = .ok known ∧ Wire.encode greetingAnswer = .ok new ∧
      (⟨"greeting", ⟨1, 10, 0⟩⟩, "second", some (Bytes32.filled 2)) ∈
        (overlapped greeted.resolver.cache (crossed known new)).snapshot.map Instance.key ∧
      ∀ listed ∈ (overlapped greeted.resolver.cache (crossed known new)).snapshot,
        (listed.key = (greetingFrom "first" 1 3).key →
          listed.responseTime = 3 ∧ listed.lastSeen = ⟨8⟩) ∧
        (listed.key = (⟨"greeting", ⟨1, 10, 0⟩⟩, "second", some (Bytes32.filled 2)) →
          listed.responseTime = 1 ∧ listed.lastSeen = ⟨7⟩) := by
  obtain ⟨known, knownSent⟩ : ∃ datagram, Wire.encode repeatedAnswer = .ok datagram :=
    ⟨_, (Wire.encode_eq_ok_iff _ _).mpr ⟨by decide +kernel, rfl⟩⟩
  obtain ⟨new, newSent⟩ : ∃ datagram, Wire.encode greetingAnswer = .ok datagram :=
    ⟨_, (Wire.encode_eq_ok_iff _ _).mpr ⟨by decide +kernel, rfl⟩⟩
  have knownKey (index : Bool) (now : Instant) : (⟨index, known, now⟩ : Turn Bool).key? =
      some (greetingFrom "first" 1 3).key :=
    congrArg (Option.map Offer.key) (offer_of_encode knownSent rfl)
  have newRead : Round.offer? new = some ⟨⟨"greeting", ⟨1, 10, 0⟩⟩, "second", Bytes32.filled 2⟩ :=
    offer_of_encode newSent rfl
  have newKey (index : Bool) (now : Instant) : (⟨index, new, now⟩ : Turn Bool).key? =
      some (⟨"greeting", ⟨1, 10, 0⟩⟩, "second", some (Bytes32.filled 2)) :=
    congrArg (Option.map Offer.key) newRead
  have reachable : greeted.Reachable := Reachable.after (.start _ _ (by decide)) _
  obtain ⟨keys, _, _, each, _⟩ := overlap_merges reachable _ (interleave_crossed known new)
  refine ⟨known, new, knownSent, newSent,
    (keys _).mpr (Or.inr ⟨false, new, by simp, _, newRead, rfl⟩), fun listed member => ?_⟩
  obtain ⟨old, first, last, _⟩ := each listed member
  refine ⟨fun own => ⟨old (greetingFrom "first" 1 3) (by decide) own.symm, ?_⟩, fun own => ?_⟩
  · exact last ((crossed known new).take 4) ⟨true, known, ⟨8⟩⟩ [] rfl (own ▸ knownKey _ _)
      (List.forall_mem_nil _)
  · rw [own] at first last
    refine ⟨first (by decide) ((crossed known new).take 2) ⟨true, new, ⟨6⟩⟩
        ((crossed known new).drop 3) rfl (newKey _ _) ?_,
      last ((crossed known new).take 3) ⟨false, new, ⟨7⟩⟩ ((crossed known new).drop 4) rfl
        (newKey _ _) ?_⟩
    · refine List.forall_mem_cons.mpr ⟨nofun, List.forall_mem_cons.mpr ⟨?_, List.forall_mem_nil _⟩⟩
      rw [knownKey]
      decide
    · refine List.forall_mem_cons.mpr ⟨?_, List.forall_mem_nil _⟩
      rw [knownKey]
      decide

end Moment

end ServiceDiscovery
