/-
This file proves what a cache lists after an instance was dropped. The containers are rewritten
from the name and the version down, and may disappear on the way; but seen as one list, a cache
loses exactly the instance with the key of the one that was dropped, and everything else keeps
its order. Dropping what is not listed rewrites the containers with what they hold, which leaves
the very same cache.
-/

import Mathlib.Data.List.Basic
import ServiceDiscovery.Proofs.Contents

namespace ServiceDiscovery

/-! ### Putting an entry in the place of another -/

namespace Slots

variable {Key Entry Item : Type} [DecidableEq Key]

/-- The slots with another entry for the key, in the same place. -/
def replace (key : Key) (entry : Entry) (slots : List (Key × Entry)) : List (Key × Entry) :=
  slots.map fun slot => if slot.1 = key then (key, entry) else slot

theorem replace_of_absent {key : Key} {slots : List (Key × Entry)}
    (absent : ∀ slot ∈ slots, slot.1 ≠ key) (entry : Entry) : replace key entry slots = slots := by
  refine (List.map_congr_left fun slot member => ?_).trans (List.map_id slots)
  exact if_neg (absent slot member)

theorem replace_self {key : Key} {entry : Entry} {slots : List (Key × Entry)}
    (own : ∀ slot ∈ slots, slot.1 = key → slot.2 = entry) : replace key entry slots = slots := by
  refine (List.map_congr_left fun slot member => ?_).trans (List.map_id slots)
  split
  · rename_i same
    rw [← own slot member same, ← same]
    rfl
  · rfl

/-- What is collected from slots with another entry. -/
theorem flatMap_replace (key : Key) (entry : Entry) (slots : List (Key × Entry))
    (collect : Entry → List Item) :
    ((replace key entry slots).flatMap fun slot => collect slot.2) =
      slots.flatMap fun slot => collect (if slot.1 = key then entry else slot.2) := by
  unfold replace
  rw [List.flatMap_map]
  refine List.flatMap_congr fun slot _ => ?_
  split <;> rfl

/-- Nothing is collected from what is gone. -/
theorem flatMap_filter (key : Key) {entry : Entry} (slots : List (Key × Entry))
    {collect : Entry → List Item} (nothing : collect entry = []) :
    ((slots.filter fun slot => slot.1 != key).flatMap fun slot => collect slot.2) =
      slots.flatMap fun slot => collect (if slot.1 = key then entry else slot.2) := by
  induction slots with
  | nil => rfl
  | cons slot others inductionHypothesis =>
    rw [List.flatMap_cons, ← inductionHypothesis]
    by_cases gone : slot.1 = key
    · rw [List.filter_cons_of_neg (by simp [gone]), if_pos gone, nothing, List.nil_append]
    · rw [List.filter_cons_of_pos (by simp [gone]), if_neg gone, List.flatMap_cons]

end Slots

namespace Shelf

variable {Entry : Type}

theorem put_of_known {shelf : Shelf Entry} (ascending : Ascending shelf) {version : Version}
    {entry : Entry} (known : (version, entry) ∈ shelf) (next : Entry) :
    put version next shelf = Slots.replace version next shelf := by
  induction shelf with
  | nil => cases known
  | cons slot others inductionHypothesis =>
    obtain ⟨below, rest⟩ := List.pairwise_cons.mp ascending
    rcases List.mem_cons.mp known with rfl | known
    · have absent : ∀ other ∈ others, other.1 ≠ version := by
        rintro other member rfl
        exact absurd (below other member) (Nat.lt_irrefl _)
      rw [put, Version.compare_eq_eq_iff.mpr rfl, Slots.replace, List.map_cons, if_pos rfl]
      exact congrArg _ (Slots.replace_of_absent absent next).symm
    · have less := below _ known
      have different : slot.1 ≠ version := by
        rintro rfl
        exact absurd less (Nat.lt_irrefl _)
      rw [put, Version.compare_eq_gt_iff.mpr less, Slots.replace, List.map_cons, if_neg different]
      exact congrArg _ (inductionHypothesis rest known)

/-- Putting an entry where it is already changes nothing. -/
theorem put_self {shelf : Shelf Entry} (ascending : Ascending shelf) {version : Version}
    {entry : Entry} (known : (version, entry) ∈ shelf) : put version entry shelf = shelf := by
  rw [put_of_known ascending known]
  refine Slots.replace_self fun slot member same => entry_eq ascending ?_ member
  rw [same]
  exact known

end Shelf

namespace Catalog

variable {Entry : Type}

theorem put_of_known {catalog : Catalog Entry} (distinct : (catalog.map Prod.fst).Nodup)
    {name : String} {entry : Entry} (known : (name, entry) ∈ catalog) (next : Entry) :
    put name next catalog = Slots.replace name next catalog := by
  induction catalog with
  | nil => cases known
  | cons slot others inductionHypothesis =>
    obtain ⟨apart, rest⟩ := List.nodup_cons.mp distinct
    rcases List.mem_cons.mp known with rfl | known
    · have absent : ∀ other ∈ others, other.1 ≠ name := by
        rintro other member rfl
        exact apart (List.mem_map.mpr ⟨other, member, rfl⟩)
      rw [put, if_pos rfl, Slots.replace, List.map_cons, if_pos rfl]
      exact congrArg _ (Slots.replace_of_absent absent next).symm
    · have different : slot.1 ≠ name := by
        rintro rfl
        exact apart (List.mem_map.mpr ⟨_, known, rfl⟩)
      rw [put, if_neg different, Slots.replace, List.map_cons, if_neg different]
      exact congrArg _ (inductionHypothesis rest known)

theorem put_self {catalog : Catalog (Shelf Entry)} (distinct : (catalog.map Prod.fst).Nodup)
    {name : String} {entry : Shelf Entry} (known : (name, entry) ∈ catalog) :
    put name entry catalog = catalog := by
  rw [put_of_known distinct known]
  refine Slots.replace_self fun slot member same => ?_
  refine Option.some.inj ((get_of_mem distinct member).symm.trans ?_)
  rw [same]
  exact get_of_mem distinct known

/-- Settling the shelf that a name has changes nothing. -/
theorem WellFormed.settle_self {holds : String → Version → Entry → Prop}
    {catalog : Catalog (Shelf Entry)} (wellFormed : WellFormed holds catalog) (name : String) :
    catalog.settle name (catalog.shelf name) = catalog := by
  unfold Catalog.settle
  split
  · rename_i empty
    refine List.filter_eq_self.mpr fun slot member => bne_iff_ne.mpr ?_
    rintro rfl
    have missing := (wellFormed.shelf_eq_nil_iff slot.1).mp (List.isEmpty_iff.mp empty)
    rw [get_of_mem wellFormed.nodup member] at missing
    cases missing
  · rename_i filled
    exact put_self wellFormed.nodup (mem_of_shelf (mt List.isEmpty_iff.mpr filled))

/-- What is collected from a catalog after the shelf of a known name was settled. -/
theorem flatMap_settle {Item : Type} {catalog : Catalog (Shelf Entry)}
    (distinct : (catalog.map Prod.fst).Nodup) {name : String} {shelf : Shelf Entry}
    (known : (name, shelf) ∈ catalog) (content : Shelf Entry)
    {collect : Shelf Entry → List Item} (nothing : collect [] = []) :
    ((settle catalog name content).flatMap fun slot => collect slot.2) =
      catalog.flatMap fun slot => collect (if slot.1 = name then content else slot.2) := by
  unfold settle
  split
  · rename_i empty
    rw [List.isEmpty_iff.mp empty]
    exact Slots.flatMap_filter name catalog nothing
  · rw [put_of_known distinct known]
    exact Slots.flatMap_replace name content catalog collect

end Catalog

/-! ### Dropping an instance -/

namespace Cache

variable {cache : Cache} {name : String} {version : Version} {instances : List Instance}

/-- Keeping the instances that are there changes nothing. -/
theorem keeping_self (wellFormed : cache.WellFormed) (name : String) (version : Version) :
    cache.keeping name version (cache.stored name version) = cache := by
  have shelf : settleVersion (cache.catalog.shelf name) version (cache.stored name version) =
      cache.catalog.shelf name := by
    unfold settleVersion
    cases found : (cache.catalog.shelf name).get? version with
    | none =>
      rw [stored_of_get_none found]
      exact (if_pos rfl).trans (Shelf.erase_of_absent found)
    | some instances =>
      rw [stored_of_get found, if_neg (mt List.isEmpty_iff.mp (wellFormed.entry_of_get found).1)]
      exact Shelf.put_self (wellFormed.ascending_shelf name) (Shelf.mem_of_get found)
  rw [keeping, shelf, wellFormed.settle_self]

theorem flatMap_settleVersion {shelf : Shelf (List Instance)} (ascending : shelf.Ascending)
    (known : (version, instances) ∈ shelf) (kept : List Instance) :
    (settleVersion shelf version kept).flatMap Prod.snd =
      shelf.flatMap fun place => if place.1 = version then kept else place.2 := by
  unfold settleVersion
  split
  · rename_i empty
    exact Slots.flatMap_filter version shelf (List.isEmpty_iff.mp empty : id kept = [])
  · rw [Shelf.put_of_known ascending known]
    exact Slots.flatMap_replace version kept shelf id

/-- What is listed of a cache that keeps only some instances of a version. -/
theorem snapshot_keeping (wellFormed : cache.WellFormed)
    (found : (cache.catalog.shelf name).get? version = some instances) (kept : List Instance) :
    (cache.keeping name version kept).snapshot =
      cache.catalog.flatMap fun slot => slot.2.flatMap fun place =>
        if slot.1 = name ∧ place.1 = version then kept else place.2 := by
  obtain ⟨slot, member, rfl, placed⟩ := wellFormed.get_eq_some_iff.mp found
  have shelf := wellFormed.shelf_of_mem member
  rw [snapshot_eq, keeping, shelf]
  refine (Catalog.flatMap_settle wellFormed.nodup member _ List.flatMap_nil).trans ?_
  refine List.flatMap_congr fun other otherMember => ?_
  by_cases same : other.1 = slot.1
  · have own : other.2 = slot.2 := by
      rw [← wellFormed.shelf_of_mem otherMember, same, shelf]
    rw [if_pos same, own, flatMap_settleVersion (wellFormed.ascending slot member) placed]
    exact List.flatMap_congr fun place _ => if_congr (and_iff_right same).symm rfl rfl
  · rw [if_neg same]
    exact List.flatMap_congr fun place _ => (if_neg fun both => same both.1).symm

/-- Of the instances of one version, those other than one are those with another key. -/
theorem without_eq (placed : Placed name version instances) {occurrence : Instance}
    (remote : occurrence.isHere = false) (identity : occurrence.identity = ⟨name, version⟩) :
    without occurrence instances =
      instances.filter fun listed => decide (listed.key ≠ occurrence.key) := by
  refine List.filter_congr fun listed member => ?_
  rw [Bool.eq_iff_iff, Bool.not_eq_true', decide_eq_true_iff, ← Bool.not_eq_true]
  exact not_congr (placed.same_iff_key identity remote member)

/-- A cache lists what it listed before, without the key that was dropped. -/
theorem snapshot_remove (wellFormed : cache.WellFormed) {occurrence : Instance}
    (remote : occurrence.isHere = false) :
    (cache.remove occurrence).1.snapshot =
      cache.snapshot.filter fun listed => decide (listed.key ≠ occurrence.key) := by
  have apart {listed : Instance} (different : listed.identity ≠ occurrence.identity) :
      decide (listed.key ≠ occurrence.key) = true :=
    decide_eq_true fun same => different (congrArg Prod.fst same)
  cases found : (cache.catalog.shelf occurrence.identity.name).get? occurrence.identity.version with
  | none =>
    have kept : (cache.remove occurrence).1 = cache := by
      rw [remove, found]
    rw [kept]
    refine (List.filter_eq_self.mpr fun listed member => apart fun same => ?_).symm
    rw [mem_snapshot_iff wellFormed, same, stored_of_get_none found] at member
    cases member
  | some instances =>
    have dropped : (cache.remove occurrence).1 = cache.keeping occurrence.identity.name
        occurrence.identity.version (without occurrence instances) := by
      rw [remove, found]
    have placed : Placed _ _ instances := (wellFormed.entry_of_get found).2
    rw [dropped, snapshot_keeping wellFormed found, snapshot_eq, List.filter_flatMap]
    refine List.flatMap_congr fun slot member => ?_
    rw [List.filter_flatMap]
    refine List.flatMap_congr fun place stored => ?_
    by_cases here : slot.1 = occurrence.identity.name ∧ place.1 = occurrence.identity.version
    · have own : place.2 = instances := by
        rw [← here.1, ← here.2, wellFormed.shelf_of_mem member,
          Shelf.get_of_mem (wellFormed.ascending slot member) stored] at found
        exact Option.some.inj found
      rw [if_pos here, own, without_eq placed remote rfl]
    · rw [if_neg here]
      refine (List.filter_eq_self.mpr fun listed known => apart fun same => here ?_).symm
      have identity := (wellFormed.entries slot member place stored).2.identity listed known
      rw [same] at identity
      rw [identity]
      exact ⟨rfl, rfl⟩

/-- What is listed is said to be dropped. -/
theorem snd_remove_of_listed (wellFormed : cache.WellFormed) {occurrence listed : Instance}
    (remote : occurrence.isHere = false) (member : listed ∈ cache.snapshot)
    (same : listed.key = occurrence.key) : (cache.remove occurrence).2 = true := by
  have identity : listed.identity = occurrence.identity := congrArg Prod.fst same
  rw [mem_snapshot_iff wellFormed, identity] at member
  cases found : (cache.catalog.shelf occurrence.identity.name).get? occurrence.identity.version with
  | none =>
    rw [stored_of_get_none found] at member
    cases member
  | some instances =>
    rw [stored_of_get found] at member
    rw [remove, found]
    refine decide_eq_true ?_
    rw [without_eq (wellFormed.entry_of_get found).2 remote rfl]
    refine List.length_filter_lt_length_iff_exists.mpr ⟨listed, member, fun different => ?_⟩
    exact of_decide_eq_true different same

/-- Dropping what is not listed changes nothing, and says so. -/
theorem remove_of_unlisted (wellFormed : cache.WellFormed) {occurrence : Instance}
    (remote : occurrence.isHere = false)
    (unlisted : ∀ listed ∈ cache.snapshot, listed.key ≠ occurrence.key) :
    cache.remove occurrence = (cache, false) := by
  cases found : (cache.catalog.shelf occurrence.identity.name).get? occurrence.identity.version with
  | none => rw [remove, found]
  | some instances =>
    have placed := (wellFormed.entry_of_get found).2
    have all : without occurrence instances = instances := by
      rw [without_eq placed remote rfl]
      refine List.filter_eq_self.mpr fun listed member => decide_eq_true (unlisted listed ?_)
      rw [mem_snapshot_iff wellFormed, placed.identity listed member, stored_of_get found]
      exact member
    have kept := keeping_self wellFormed occurrence.identity.name occurrence.identity.version
    rw [stored_of_get found] at kept
    rw [remove, found]
    show (cache.keeping _ _ (without occurrence instances), _) = _
    rw [all, kept, decide_eq_false (Nat.lt_irrefl _)]

end Cache

end ServiceDiscovery
