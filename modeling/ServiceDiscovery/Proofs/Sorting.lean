/-
This file proves what sorting keeps. Items that the order does not tell apart stay as they came,
and two sorted lists with the same items of every rank in the same order are the same. Identities
are put in the order of the bytes of their names, then in that of their versions as numbers, which
tells all of them apart.
-/

import ServiceDiscovery.Proofs.Listing

namespace ServiceDiscovery

/-! ### Sorting items that can be alike -/

/-- Items that sorting does not tell apart keep their order. -/
theorem filter_mergeSort_of_tied {Item : Type} {atMost : Item → Item → Bool}
    (transitive : ∀ first second third, atMost first second = true →
      atMost second third = true → atMost first third = true)
    (total : ∀ first second, (atMost first second || atMost second first) = true)
    {keep : Item → Bool} {items : List Item}
    (tied : ∀ first ∈ items.filter keep, ∀ second ∈ items.filter keep,
      atMost first second = true) :
    (items.mergeSort atMost).filter keep = items.filter keep := by
  rw [← mergeSort_filter transitive total]
  exact List.mergeSort_of_pairwise (List.pairwise_of_forall_mem_list tied)

/-- Sorted lists are the same if they have the same items of every rank in the same order. -/
theorem eq_of_sorted {Item Rank : Type} [DecidableEq Rank] {rank : Item → Rank}
    {atMost : Item → Item → Prop}
    (tied : ∀ first second, atMost first second → atMost second first → rank first = rank second)
    {items others : List Item} (sorted : items.Pairwise atMost) (alsoSorted : others.Pairwise atMost)
    (same : ∀ key, (items.filter fun item => rank item = key) =
      others.filter fun item => rank item = key) : items = others := by
  induction items generalizing others with
  | nil =>
    cases others with
    | nil => rfl
    | cons other more =>
      have impossible := same (rank other)
      rw [List.filter_cons_of_pos (by simp)] at impossible
      cases impossible
  | cons item rest inductionHypothesis =>
    have shared {key : Rank} {candidate : Item} :
        candidate ∈ item :: rest ∧ rank candidate = key ↔
          candidate ∈ others ∧ rank candidate = key := by
      have members := congrArg (candidate ∈ ·) (same key)
      simpa only [List.mem_filter, decide_eq_true_eq, eq_iff_iff] using members
    obtain ⟨below, rest⟩ := List.pairwise_cons.mp sorted
    cases others with
    | nil => cases (shared.mp ⟨List.mem_cons_self, rfl⟩).1
    | cons other more =>
      obtain ⟨alsoBelow, more⟩ := List.pairwise_cons.mp alsoSorted
      -- Each of the two first items is in the other list, so that they are alike.
      have alike : rank item = rank other := by
        rcases List.mem_cons.mp (shared.mp ⟨List.mem_cons_self, rfl⟩).1 with rfl | later
        · rfl
        · rcases List.mem_cons.mp (shared.mpr ⟨List.mem_cons_self, rfl⟩).1 with rfl | alsoLater
          · rfl
          · exact tied _ _ (below _ alsoLater) (alsoBelow _ later)
      have first := same (rank item)
      rw [List.filter_cons_of_pos (by simp), List.filter_cons_of_pos (by simp [alike])] at first
      obtain ⟨rfl, ofFirst⟩ := List.cons.inj first
      refine congrArg (item :: ·) (inductionHypothesis rest more fun key => ?_)
      by_cases own : rank item = key
      · exact own ▸ ofFirst
      · have remaining := same key
        rwa [List.filter_cons_of_neg (by simp [own]), List.filter_cons_of_neg (by simp [own])]
          at remaining

/-! ### The order of identities -/

namespace Identity

/-- The order of identities: by the bytes of the name, then by version as numbers. -/
def Precedes (first second : Identity) : Prop :=
  Utf8.encode first.name < Utf8.encode second.name ∨
    first.name = second.name ∧ first.version.place < second.version.place

theorem compareBytes_eq_lt_iff {first second : Bytes} :
    compareBytes first second = .lt ↔ first < second := by
  induction first generalizing second with
  | nil => cases second <;> simp [compareBytes]
  | cons byte others inductionHypothesis =>
    cases second with
    | nil => simp [compareBytes]
    | cons other rest =>
      rw [compareBytes, Ordering.then_eq_lt, inductionHypothesis, List.cons_lt_cons_iff,
        Std.compare_eq_lt, Std.compare_eq_iff_eq]

theorem compareNames_eq_eq_iff {first second : String} :
    compareNames first second = .eq ↔ first = second := by
  rw [compareNames, Http.compareBytes_eq, Std.compare_eq_iff_eq]
  exact Utf8.encode_injective.eq_iff

theorem compare_eq_lt_iff {first second : Identity} :
    first.compare second = .lt ↔ first.Precedes second := by
  rw [compare, Ordering.then_eq_lt, compareNames_eq_eq_iff, Version.compare_eq_lt_iff,
    compareNames, compareBytes_eq_lt_iff]
  rfl

theorem compare_eq_eq_iff {first second : Identity} :
    first.compare second = .eq ↔ first = second := by
  rw [compare, Ordering.then_eq_eq, compareNames_eq_eq_iff, Version.compare_eq_eq_iff, mk.injEq]

theorem atMost_iff {first second : Identity} :
    first.atMost second = true ↔ first.Precedes second ∨ first = second := by
  rw [atMost, Ordering.isLE_iff_eq_lt_or_eq_eq, compare_eq_lt_iff, compare_eq_eq_iff]

instance : Std.TransCmp compareNames := by
  have same : compareNames = compareOn Utf8.encode :=
    funext₂ fun first second => Http.compareBytes_eq _ _
  rw [same]
  infer_instance

/-- The comparison by bytes, then by a place. -/
def compareKeys (bytes : Identity → Bytes) (place : Identity → Nat) (first second : Identity) :
    Ordering :=
  (Ord.compare (bytes first) (bytes second)).then (Ord.compare (place first) (place second))

instance (bytes : Identity → Bytes) (place : Identity → Nat) :
    Std.TransCmp (compareKeys bytes place) := by
  show Std.TransCmp (compareLex (compareOn bytes) (compareOn place))
  infer_instance

theorem compare_eq : compare = compareKeys (fun identity => Utf8.encode identity.name)
    fun identity => identity.version.place := by
  funext first second
  rw [compare, compareNames, Http.compareBytes_eq, Version.compare_eq, compareKeys]

instance : Std.TransCmp compare :=
  compare_eq ▸ inferInstance

theorem Precedes.asymm {first second : Identity} (before : first.Precedes second) :
    ¬ second.Precedes first := by
  rw [← compare_eq_lt_iff] at before ⊢
  rw [Std.OrientedCmp.gt_of_lt before]
  exact fun impossible => nomatch impossible

/-- The name and the version as they are written. -/
def texts (identity : Identity) : String × String :=
  (identity.name, identity.version.display)

theorem texts_injective : Function.Injective texts := by
  intro first second same
  obtain ⟨name, version⟩ := Prod.mk.inj same
  have read := Version.parse_display first.version
  rw [version, Version.parse_display] at read
  rw [mk.injEq]
  exact ⟨name, (Except.ok.inj read).symm⟩

end Identity

end ServiceDiscovery
