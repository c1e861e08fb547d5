/-
This file proves what the two containers hold after each operation. A catalog is read through
the shelf of a name and a shelf through the entry of a version, and every operation has one
equation for that view. A well-formed catalog has every name once and no empty shelf, and its
shelves are in the order of their versions; the operations keep it so.
-/

import ServiceDiscovery.Shelf
import ServiceDiscovery.Proofs.VersionOrder

namespace ServiceDiscovery

/-! ### Slots by key, which is what both containers are made of -/

namespace Slots

variable {Key Entry : Type} [BEq Key] [LawfulBEq Key]

theorem mem_of_find {slots : List (Key × Entry)} {key : Key} {entry : Entry}
    (found : (slots.find? fun slot => slot.1 == key).map Prod.snd = some entry) :
    (key, entry) ∈ slots := by
  obtain ⟨slot, first, rfl⟩ := Option.map_eq_some_iff.mp found
  have same := List.find?_some first
  rw [beq_iff_eq] at same
  rw [← same]
  exact List.mem_of_find?_eq_some first

variable [DecidableEq Key]

theorem find_cons (slot : Key × Entry) (others : List (Key × Entry)) (key : Key) :
    ((slot :: others).find? fun slot => slot.1 == key).map Prod.snd =
      if slot.1 = key then some slot.2
      else (others.find? fun slot => slot.1 == key).map Prod.snd := by
  rw [List.find?_cons]
  by_cases same : slot.1 = key
  · rw [if_pos same, beq_iff_eq.mpr same]
    rfl
  · rw [if_neg same, beq_eq_false_iff_ne.mpr same]

theorem find_filter (slots : List (Key × Entry)) (key other : Key) :
    ((slots.filter fun slot => slot.1 != key).find? fun slot => slot.1 == other).map Prod.snd =
      if key = other then none else (slots.find? fun slot => slot.1 == other).map Prod.snd := by
  induction slots with
  | nil => simp
  | cons slot others inductionHypothesis =>
    by_cases gone : slot.1 = key
    · rw [List.filter_cons_of_neg (by simp [gone]), inductionHypothesis, find_cons, gone]
      by_cases same : key = other
      · rw [if_pos same, if_pos same]
      · rw [if_neg same, if_neg same, if_neg same]
    · rw [List.filter_cons_of_pos (by simp [gone]), find_cons, inductionHypothesis, find_cons]
      by_cases same : key = other
      · rw [if_pos same, if_pos same, if_neg]
        rintro rfl
        exact gone same.symm
      · rw [if_neg same, if_neg same]

end Slots

namespace Shelf

variable {Entry : Type}

/-! ### Entries by version -/

theorem get_cons (slot : Version × Entry) (others : Shelf Entry) (version : Version) :
    get? (slot :: others) version =
      if slot.1 = version then some slot.2 else get? others version :=
  Slots.find_cons slot others version

theorem get_put (version : Version) (entry : Entry) (shelf : Shelf Entry) (other : Version) :
    get? (put version entry shelf) other =
      if version = other then some entry else get? shelf other := by
  induction shelf with
  | nil => rw [put, get_cons]
  | cons slot others inductionHypothesis =>
    rw [put]
    split
    · rw [get_cons]
    · rename_i equal
      rw [get_cons, get_cons, ← Version.compare_eq_eq_iff.mp equal]
      by_cases same : version = other
      · rw [if_pos same, if_pos same]
      · rw [if_neg same, if_neg same, if_neg same]
    · rename_i greater
      have different : slot.1 ≠ version := by
        rintro rfl
        exact absurd (Version.compare_eq_gt_iff.mp greater) (Nat.lt_irrefl _)
      rw [get_cons, get_cons, inductionHypothesis]
      by_cases same : version = other
      · rw [if_pos same, if_pos same, if_neg]
        rintro rfl
        exact different same.symm
      · rw [if_neg same, if_neg same]

theorem get_erase (shelf : Shelf Entry) (version other : Version) :
    get? (erase shelf version) other = if version = other then none else get? shelf other :=
  Slots.find_filter shelf version other

theorem mem_of_get {shelf : Shelf Entry} {version : Version} {entry : Entry}
    (found : get? shelf version = some entry) : (version, entry) ∈ shelf :=
  Slots.mem_of_find found

theorem put_put (shelf : Shelf Entry) (version : Version) (first second : Entry) :
    put version second (put version first shelf) = put version second shelf := by
  have here {entry : Entry} {others : Shelf Entry} :
      put version second ((version, entry) :: others) = (version, second) :: others := by
    rw [put, Version.compare_eq_eq_iff.mpr rfl]
  induction shelf with
  | nil => exact here
  | cons slot others inductionHypothesis =>
    cases order : version.compare slot.1 with
    | lt => simp only [put, order, here]
    | eq => simp only [put, order, here]
    | gt => simp only [put, order, inductionHypothesis]

theorem erase_put (shelf : Shelf Entry) (version : Version) (entry : Entry) :
    erase (put version entry shelf) version = erase shelf version := by
  have here {others : Shelf Entry} : erase ((version, entry) :: others) version =
      erase others version :=
    List.filter_cons_of_neg (by simp)
  induction shelf with
  | nil => exact here
  | cons slot others inductionHypothesis =>
    cases order : version.compare slot.1 with
    | lt => simp only [put, order, here]
    | eq =>
      simp only [put, order, here]
      exact (List.filter_cons_of_neg (by simp [Version.compare_eq_eq_iff.mp order])).symm
    | gt =>
      have different : slot.1 ≠ version := by
        rintro rfl
        exact absurd (Version.compare_eq_gt_iff.mp order) (Nat.lt_irrefl _)
      simp only [put, order]
      unfold erase at inductionHypothesis ⊢
      rw [List.filter_cons_of_pos (by simp [different]), inductionHypothesis,
        List.filter_cons_of_pos (by simp [different])]

theorem erase_of_absent {shelf : Shelf Entry} {version : Version}
    (absent : get? shelf version = none) : erase shelf version = shelf := by
  refine List.filter_eq_self.mpr fun slot member => bne_iff_ne.mpr fun same => ?_
  have missing := List.find?_eq_none.mp (Option.map_eq_none_iff.mp absent) slot member
  exact missing (beq_iff_eq.mpr same)

/-! ### The order of versions -/

/-- The versions are in ascending order, each one once. -/
def Ascending (shelf : Shelf Entry) : Prop :=
  shelf.Pairwise fun first second => first.1.place < second.1.place

theorem get_of_mem {shelf : Shelf Entry} (ascending : Ascending shelf) {version : Version}
    {entry : Entry} (member : (version, entry) ∈ shelf) : get? shelf version = some entry := by
  induction shelf with
  | nil => cases member
  | cons slot others inductionHypothesis =>
    obtain ⟨below, rest⟩ := List.pairwise_cons.mp ascending
    rw [get_cons]
    rcases List.mem_cons.mp member with rfl | member
    · rw [if_pos rfl]
    · rw [if_neg, inductionHypothesis rest member]
      intro same
      have less := below _ member
      rw [same] at less
      exact absurd less (Nat.lt_irrefl _)

theorem entry_eq {shelf : Shelf Entry} (ascending : Ascending shelf) {slot : Version × Entry}
    {entry : Entry} (known : (slot.1, entry) ∈ shelf) (member : slot ∈ shelf) : slot.2 = entry :=
  Option.some.inj ((get_of_mem ascending member).symm.trans (get_of_mem ascending known))

/-- A version older than all others has no entry. -/
theorem get_eq_none_of_below {shelf : Shelf Entry} {version : Version}
    (below : ∀ slot ∈ shelf, version.place < slot.1.place) : get? shelf version = none := by
  cases found : get? shelf version with
  | none => rfl
  | some entry => exact absurd (below _ (mem_of_get found)) (Nat.lt_irrefl _)

theorem mem_put {version : Version} {entry : Entry} {shelf : Shelf Entry}
    {slot : Version × Entry} (member : slot ∈ put version entry shelf) :
    slot = (version, entry) ∨ slot ∈ shelf := by
  induction shelf with
  | nil => exact Or.inl (List.mem_singleton.mp member)
  | cons first others inductionHypothesis =>
    rw [put] at member
    split at member
    · exact List.mem_cons.mp member
    · rcases List.mem_cons.mp member with rfl | member
      · exact Or.inl rfl
      · exact Or.inr (List.mem_cons_of_mem _ member)
    · rcases List.mem_cons.mp member with rfl | member
      · exact Or.inr List.mem_cons_self
      · rcases inductionHypothesis member with same | member
        · exact Or.inl same
        · exact Or.inr (List.mem_cons_of_mem _ member)

theorem put_ne_nil (version : Version) (entry : Entry) (shelf : Shelf Entry) :
    put version entry shelf ≠ [] := by
  cases shelf with
  | nil => exact List.cons_ne_nil _ _
  | cons slot others =>
    rw [put]
    split <;> exact List.cons_ne_nil _ _

theorem ascending_put {shelf : Shelf Entry} (ascending : Ascending shelf) (version : Version)
    (entry : Entry) : Ascending (put version entry shelf) := by
  induction shelf with
  | nil => exact List.pairwise_singleton _ _
  | cons slot others inductionHypothesis =>
    obtain ⟨below, rest⟩ := List.pairwise_cons.mp ascending
    rw [put]
    split
    · rename_i older
      have less := Version.compare_eq_lt_iff.mp older
      refine List.pairwise_cons.mpr ⟨fun other member => ?_, ascending⟩
      rcases List.mem_cons.mp member with rfl | member
      · exact less
      · exact Nat.lt_trans less (below other member)
    · rename_i equal
      rw [← Version.compare_eq_eq_iff.mp equal] at below
      exact List.pairwise_cons.mpr ⟨below, rest⟩
    · rename_i newer
      refine List.pairwise_cons.mpr ⟨fun other member => ?_, inductionHypothesis rest⟩
      rcases mem_put member with rfl | member
      · exact Version.compare_eq_gt_iff.mp newer
      · exact below other member

theorem ascending_erase {shelf : Shelf Entry} (ascending : Ascending shelf) (version : Version) :
    Ascending (erase shelf version) :=
  List.Pairwise.filter _ ascending

end Shelf

namespace Catalog

variable {Entry : Type}

/-! ### Entries by name -/

theorem get_cons (slot : String × Entry) (others : Catalog Entry) (name : String) :
    get? (slot :: others) name = if slot.1 = name then some slot.2 else get? others name :=
  Slots.find_cons slot others name

theorem get_put (name : String) (entry : Entry) (catalog : Catalog Entry) (other : String) :
    get? (put name entry catalog) other =
      if name = other then some entry else get? catalog other := by
  induction catalog with
  | nil => rw [put, get_cons]
  | cons slot others inductionHypothesis =>
    rw [put]
    by_cases here : slot.1 = name
    · rw [if_pos here, get_cons, get_cons, here]
      by_cases same : name = other
      · rw [if_pos same, if_pos same]
      · rw [if_neg same, if_neg same, if_neg same]
    · rw [if_neg here, get_cons, get_cons, inductionHypothesis]
      by_cases same : name = other
      · rw [if_pos same, if_pos same, if_neg]
        rintro rfl
        exact here same.symm
      · rw [if_neg same, if_neg same]

theorem get_erase (catalog : Catalog Entry) (name other : String) :
    get? (erase catalog name) other = if name = other then none else get? catalog other :=
  Slots.find_filter catalog name other

theorem mem_of_get {catalog : Catalog Entry} {name : String} {entry : Entry}
    (found : get? catalog name = some entry) : (name, entry) ∈ catalog :=
  Slots.mem_of_find found

theorem mem_put {name : String} {entry : Entry} {catalog : Catalog Entry}
    {slot : String × Entry} (member : slot ∈ put name entry catalog) :
    slot = (name, entry) ∨ slot ∈ catalog := by
  induction catalog with
  | nil => exact Or.inl (List.mem_singleton.mp member)
  | cons first others inductionHypothesis =>
    rw [put] at member
    split at member
    · rcases List.mem_cons.mp member with rfl | member
      · exact Or.inl rfl
      · exact Or.inr (List.mem_cons_of_mem _ member)
    · rcases List.mem_cons.mp member with rfl | member
      · exact Or.inr List.mem_cons_self
      · rcases inductionHypothesis member with same | member
        · exact Or.inl same
        · exact Or.inr (List.mem_cons_of_mem _ member)

/-- A new name comes last; a known one keeps its place. -/
theorem names_put (name : String) (entry : Entry) (catalog : Catalog Entry) :
    (put name entry catalog).map Prod.fst =
      if name ∈ catalog.map Prod.fst then catalog.map Prod.fst
      else catalog.map Prod.fst ++ [name] := by
  induction catalog with
  | nil => simp [put]
  | cons slot others inductionHypothesis =>
    rw [put]
    by_cases here : slot.1 = name
    · rw [if_pos here, List.map_cons, List.map_cons, here, if_pos List.mem_cons_self]
    · rw [if_neg here, List.map_cons, List.map_cons, inductionHypothesis]
      have same : name ∈ slot.1 :: others.map Prod.fst ↔ name ∈ others.map Prod.fst := by
        rw [List.mem_cons]
        exact or_iff_right (Ne.symm here)
      by_cases known : name ∈ others.map Prod.fst
      · rw [if_pos known, if_pos (same.mpr known)]
      · rw [if_neg known, if_neg (mt same.mp known), List.cons_append]

theorem put_put (catalog : Catalog Entry) (name : String) (first second : Entry) :
    put name second (put name first catalog) = put name second catalog := by
  induction catalog with
  | nil => exact if_pos rfl
  | cons slot others inductionHypothesis =>
    by_cases here : slot.1 = name
    · rw [put, if_pos here, put, if_pos rfl, put, if_pos here]
    · rw [put, if_neg here, put, if_neg here, inductionHypothesis, put, if_neg here]

theorem erase_put (catalog : Catalog Entry) (name : String) (entry : Entry) :
    erase (put name entry catalog) name = erase catalog name := by
  induction catalog with
  | nil => exact List.filter_cons_of_neg (by simp)
  | cons slot others inductionHypothesis =>
    unfold erase at inductionHypothesis ⊢
    by_cases here : slot.1 = name
    · rw [put, if_pos here, List.filter_cons_of_neg (by simp),
        List.filter_cons_of_neg (by simp [here])]
    · rw [put, if_neg here, List.filter_cons_of_pos (by simp [here]), inductionHypothesis,
        List.filter_cons_of_pos (by simp [here])]

theorem erase_erase (catalog : Catalog Entry) (name : String) :
    erase (erase catalog name) name = erase catalog name := by
  unfold erase
  rw [List.filter_filter]
  exact List.filter_congr fun slot _ => Bool.and_self _

/-! ### Shelves by name -/

theorem shelf_put (catalog : Catalog (Shelf Entry)) (name : String) (content : Shelf Entry)
    (other : String) :
    shelf (put name content catalog) other =
      if name = other then content else shelf catalog other := by
  unfold shelf
  rw [get_put]
  split <;> rfl

theorem shelf_settle (catalog : Catalog (Shelf Entry)) (name : String) (content : Shelf Entry)
    (other : String) :
    shelf (settle catalog name content) other =
      if name = other then content else shelf catalog other := by
  unfold settle
  split
  · rename_i empty
    unfold shelf
    rw [get_erase, List.isEmpty_iff.mp empty]
    split <;> rfl
  · exact shelf_put catalog name content other

theorem settle_put (catalog : Catalog (Shelf Entry)) (name : String) (first second : Shelf Entry) :
    settle (put name first catalog) name second = settle catalog name second := by
  unfold settle
  rw [erase_put, put_put]

/-- A shelf is settled as if the one before it, which was no emptier, had never been. -/
theorem settle_settle (catalog : Catalog (Shelf Entry)) (name : String)
    {first second : Shelf Entry} (emptier : first = [] → second = []) :
    settle (settle catalog name first) name second = settle catalog name second := by
  by_cases gone : first = []
  · rw [emptier gone, gone]
    exact erase_erase catalog name
  · have stays : settle catalog name first = put name first catalog :=
      if_neg (mt List.isEmpty_iff.mp gone)
    rw [stays, settle_put]

theorem get_settle_of_ne (catalog : Catalog (Shelf Entry)) {name other : String}
    (different : other ≠ name) (content : Shelf Entry) :
    (settle catalog name content).get? other = catalog.get? other := by
  unfold settle
  split
  · rw [get_erase, if_neg (Ne.symm different)]
  · rw [get_put, if_neg (Ne.symm different)]

theorem mem_of_shelf {catalog : Catalog (Shelf Entry)} {name : String}
    (known : shelf catalog name ≠ []) : (name, shelf catalog name) ∈ catalog := by
  unfold shelf at known ⊢
  cases found : get? catalog name with
  | none =>
    rw [found] at known
    exact absurd rfl known
  | some content => exact mem_of_get found

/-- A catalog as the operations leave it, with a property of every entry at its place. -/
structure WellFormed (holds : String → Version → Entry → Prop)
    (catalog : Catalog (Shelf Entry)) : Prop where
  nodup : (catalog.map Prod.fst).Nodup
  nonempty : ∀ slot ∈ catalog, slot.2 ≠ []
  ascending : ∀ slot ∈ catalog, Shelf.Ascending slot.2
  entries : ∀ slot ∈ catalog, ∀ place ∈ slot.2, holds slot.1 place.1 place.2

namespace WellFormed

variable {holds : String → Version → Entry → Prop} {catalog : Catalog (Shelf Entry)}

theorem empty : WellFormed holds [] :=
  ⟨List.nodup_nil, List.forall_mem_nil _, List.forall_mem_nil _, List.forall_mem_nil _⟩

theorem ascending_shelf (wellFormed : WellFormed holds catalog) (name : String) :
    Shelf.Ascending (catalog.shelf name) := by
  unfold shelf
  cases found : catalog.get? name with
  | none => exact List.Pairwise.nil
  | some content => exact wellFormed.ascending _ (mem_of_get found)

theorem entries_shelf (wellFormed : WellFormed holds catalog) (name : String) :
    ∀ place ∈ catalog.shelf name, holds name place.1 place.2 := by
  unfold shelf
  cases found : catalog.get? name with
  | none => exact List.forall_mem_nil _
  | some content => exact wellFormed.entries _ (mem_of_get found)

theorem entry_of_get (wellFormed : WellFormed holds catalog) {name : String} {version : Version}
    {entry : Entry} (found : (catalog.shelf name).get? version = some entry) :
    holds name version entry :=
  wellFormed.entries_shelf name _ (Shelf.mem_of_get found)

theorem put (wellFormed : WellFormed holds catalog) {name : String} {content : Shelf Entry}
    (nonempty : content ≠ []) (ascending : Shelf.Ascending content)
    (entries : ∀ place ∈ content, holds name place.1 place.2) :
    WellFormed holds (catalog.put name content) := by
  refine ⟨?_, fun slot member => ?_, fun slot member => ?_, fun slot member => ?_⟩
  · rw [names_put]
    split
    · exact wellFormed.nodup
    · rename_i unknown
      refine List.nodup_append.mpr ⟨wellFormed.nodup, List.pairwise_singleton _ _, ?_⟩
      rintro other known last member rfl
      exact unknown (List.mem_singleton.mp member ▸ known)
  · rcases mem_put member with rfl | member
    · exact nonempty
    · exact wellFormed.nonempty slot member
  · rcases mem_put member with rfl | member
    · exact ascending
    · exact wellFormed.ascending slot member
  · rcases mem_put member with rfl | member
    · exact entries
    · exact wellFormed.entries slot member

theorem erase (wellFormed : WellFormed holds catalog) (name : String) :
    WellFormed holds (catalog.erase name) := by
  have kept : ∀ {slot}, slot ∈ catalog.erase name → slot ∈ catalog := fun member =>
    (List.mem_filter.mp member).1
  refine ⟨?_, fun slot member => wellFormed.nonempty slot (kept member),
    fun slot member => wellFormed.ascending slot (kept member),
    fun slot member => wellFormed.entries slot (kept member)⟩
  exact wellFormed.nodup.sublist (List.filter_sublist.map _)

theorem settle (wellFormed : WellFormed holds catalog) {name : String} {content : Shelf Entry}
    (ascending : Shelf.Ascending content)
    (entries : ∀ place ∈ content, holds name place.1 place.2) :
    WellFormed holds (catalog.settle name content) := by
  unfold Catalog.settle
  split
  · exact wellFormed.erase name
  · rename_i filled
    exact wellFormed.put (fun empty => filled (List.isEmpty_iff.mpr empty)) ascending entries

theorem shelf_eq_nil_iff (wellFormed : WellFormed holds catalog) (name : String) :
    catalog.shelf name = [] ↔ catalog.get? name = none := by
  unfold shelf
  cases found : catalog.get? name with
  | none => exact iff_of_true rfl rfl
  | some content => exact iff_of_false (wellFormed.nonempty _ (mem_of_get found)) nofun

end WellFormed

end Catalog

end ServiceDiscovery
