/-
This file proves what happens among the instances of one version. Two instances are one if they
are in one place. Adding touches the instance that is there already or puts a new one at the
end; the fastest instance is faster than those before it and no slower than those after it; and
an instance is fresh until more than the lifetime has passed since it was last seen.
-/

import ServiceDiscovery.Cache

namespace ServiceDiscovery

/-- Only a moment past the end of the clock is none. -/
theorem Instant.add_eq_none_iff {start : Instant} {span : Duration} :
    start.add? span = none ↔ last.nanoseconds < start.nanoseconds + span.nanoseconds := by
  unfold add? reached? later
  split <;> rename_i within
  · exact iff_of_false nofun (Nat.not_lt.mpr within)
  · exact iff_of_true rfl (Nat.not_le.mp within)

namespace Instance

theorem same_iff (first second : Instance) :
    first.same second = true ↔
      match first.locality, second.locality with
      | .here handle, .here other => handle.key = other.key
      | .remote agent node, .remote other otherNode => agent = other ∧ node = otherNode
      | _, _ => False := by
  unfold same Locality.same Handle.same
  split <;> simp_all

theorem same_comm (first second : Instance) : first.same second = second.same first := by
  rw [Bool.eq_iff_iff, same_iff, same_iff]
  cases first.locality <;> cases second.locality
  case remote.remote => exact and_congr eq_comm eq_comm
  case here.here => exact eq_comm
  all_goals exact Iff.rfl

/-- Of instances on other nodes, those with one place are the same. -/
theorem same_iff_of_remote {first second : Instance} (remote : second.isHere = false) :
    first.same second = true ↔ first.locality = second.locality := by
  unfold isHere at remote
  rw [same_iff]
  cases place : second.locality with
  | here handle => simp [place] at remote
  | remote agent node => cases first.locality <;> simp

/-- An instance is outdated if the clock reaches the end of its lifetime, and that has passed. -/
theorem isOutdated_iff_ended (occurrence : Instance) (lifetime : Duration) (now : Instant) :
    occurrence.isOutdated lifetime now = true ↔
      occurrence.lastSeen.nanoseconds + lifetime.nanoseconds ≤ Instant.last.nanoseconds ∧
        occurrence.lastSeen.nanoseconds + lifetime.nanoseconds < now.nanoseconds := by
  unfold isOutdated Instant.add? Instant.reached? Instant.later
  by_cases ends : occurrence.lastSeen.nanoseconds + lifetime.nanoseconds ≤
      Instant.last.nanoseconds
  · rw [if_pos ends, and_iff_right ends]
    exact decide_eq_true_iff
  · rw [if_neg ends]
    exact iff_of_false Bool.false_ne_true fun ended => ends ended.1

/-- An instance is outdated once more than the lifetime has passed since it was last seen. -/
theorem isOutdated_iff (occurrence : Instance) (lifetime : Duration) {now : Instant}
    (reached : now.nanoseconds ≤ Instant.last.nanoseconds) :
    occurrence.isOutdated lifetime now = true ↔
      occurrence.lastSeen.nanoseconds + lifetime.nanoseconds < now.nanoseconds := by
  rw [isOutdated_iff_ended]
  exact and_iff_right_of_imp fun ended => Nat.le_trans (Nat.le_of_lt ended) reached

theorem isOutdated_eq_false_iff (occurrence : Instance) (lifetime : Duration) {now : Instant}
    (reached : now.nanoseconds ≤ Instant.last.nanoseconds) :
    occurrence.isOutdated lifetime now = false ↔
      now.nanoseconds ≤ occurrence.lastSeen.nanoseconds + lifetime.nanoseconds := by
  rw [← Bool.not_eq_true, occurrence.isOutdated_iff lifetime reached, Nat.not_lt]

/-- An instance is not outdated before its lifetime is over, on a clock with or without an end. -/
theorem isOutdated_of_inTime {occurrence : Instance} {lifetime : Duration} {now : Instant}
    (inTime : now.nanoseconds ≤ occurrence.lastSeen.nanoseconds + lifetime.nanoseconds) :
    occurrence.isOutdated lifetime now = false := by
  rw [← Bool.not_eq_true, isOutdated_iff_ended]
  exact fun ended => Nat.not_lt.mpr inTime ended.2

/-- An instance that is seen now is not outdated. -/
theorem isOutdated_of_seen {occurrence : Instance} {now : Instant}
    (seen : occurrence.lastSeen = now) (lifetime : Duration) :
    occurrence.isOutdated lifetime now = false := by
  rw [← seen]
  exact isOutdated_of_inTime (Nat.le_add_right _ _)

end Instance

namespace Cache

/-! ### Adding to the instances of one version -/

theorem insert_of_new {occurrence : Instance} {instances : List Instance}
    (isNew : ∀ existing ∈ instances, existing.same occurrence = false) (now : Instant) :
    insert occurrence now instances = (instances ++ [occurrence], true) := by
  induction instances with
  | nil => rfl
  | cons existing others inductionHypothesis =>
    rw [insert, isNew existing List.mem_cons_self, inductionHypothesis fun other member =>
      isNew other (List.mem_cons_of_mem _ member)]
    rfl

theorem insert_of_known {occurrence existing : Instance} {before : List Instance}
    (others : ∀ other ∈ before, other.same occurrence = false)
    (known : existing.same occurrence = true) (after : List Instance) (now : Instant) :
    insert occurrence now (before ++ existing :: after) =
      (before ++ existing.touch now :: after, false) := by
  induction before with
  | nil =>
    rw [List.nil_append, insert, if_pos known]
    rfl
  | cons other before inductionHypothesis =>
    rw [List.cons_append, insert, others other List.mem_cons_self,
      inductionHypothesis fun other member => others other (List.mem_cons_of_mem _ member)]
    rfl

/-- Either nothing is the same as the instance, or there is a first one that is. -/
theorem known_cases (occurrence : Instance) (instances : List Instance) :
    (∀ existing ∈ instances, existing.same occurrence = false) ∨
      ∃ before existing after, instances = before ++ existing :: after ∧
        (∀ other ∈ before, other.same occurrence = false) ∧
        existing.same occurrence = true := by
  induction instances with
  | nil => exact Or.inl (List.forall_mem_nil _)
  | cons first others inductionHypothesis =>
    cases known : first.same occurrence with
    | true =>
      exact Or.inr ⟨[], first, others, rfl, List.forall_mem_nil _, known⟩
    | false =>
      rcases inductionHypothesis with isNew | ⟨before, existing, after, rfl, different, same⟩
      · exact Or.inl (List.forall_mem_cons.mpr ⟨known, isNew⟩)
      · exact Or.inr ⟨first :: before, existing, after, rfl,
          List.forall_mem_cons.mpr ⟨known, different⟩, same⟩

/-- No place is lost when an instance is put in. -/
theorem exists_of_mem {occurrence other : Instance} {instances : List Instance}
    (member : other ∈ instances) (now : Instant) :
    ∃ kept ∈ (insert occurrence now instances).1, kept.locality = other.locality := by
  rcases known_cases occurrence instances with isNew | ⟨before, existing, after, rfl, others, known⟩
  · rw [insert_of_new isNew]
    exact ⟨other, List.mem_append_left _ member, rfl⟩
  · rw [insert_of_known others known]
    rcases List.mem_append.mp member with member | member
    · exact ⟨other, List.mem_append_left _ member, rfl⟩
    · rcases List.mem_cons.mp member with rfl | member
      · exact ⟨_, List.mem_append_right _ List.mem_cons_self, rfl⟩
      · exact ⟨other, List.mem_append_right _ (List.mem_cons_of_mem _ member), rfl⟩

/-- The place of an instance on another node is there after it was put in. -/
theorem exists_of_insert {occurrence : Instance} (remote : occurrence.isHere = false)
    (instances : List Instance) (now : Instant) :
    ∃ kept ∈ (insert occurrence now instances).1, kept.locality = occurrence.locality := by
  rcases known_cases occurrence instances with isNew | ⟨before, existing, after, rfl, others, known⟩
  · rw [insert_of_new isNew]
    exact ⟨occurrence, List.mem_append_right _ (List.mem_singleton.mpr rfl), rfl⟩
  · rw [insert_of_known others known]
    exact ⟨_, List.mem_append_right _ List.mem_cons_self,
      (Instance.same_iff_of_remote remote).mp known⟩

/-! ### The fastest of several instances -/

theorem fastest_eq_none_iff {instances : List Instance} :
    fastest? instances = none ↔ instances = [] := by
  cases instances with
  | nil => exact iff_of_true rfl rfl
  | cons occurrence others =>
    refine iff_of_false (fun impossible => ?_) (List.cons_ne_nil _ _)
    rw [fastest?] at impossible
    split at impossible
    · cases impossible
    · split at impossible <;> cases impossible

/-- The fastest instance is one of them, and none is faster. -/
theorem fastest_least {instances : List Instance} {best : Instance}
    (found : fastest? instances = some best) :
    best ∈ instances ∧ ∀ other ∈ instances, best.responseTime ≤ other.responseTime := by
  induction instances generalizing best with
  | nil => cases found
  | cons occurrence others inductionHypothesis =>
    rw [fastest?] at found
    split at found
    · rename_i none
      rw [fastest_eq_none_iff.mp none]
      cases found
      refine ⟨List.mem_cons_self, fun other member => Nat.le_of_eq ?_⟩
      rw [List.mem_singleton.mp member]
    · rename_i other some
      obtain ⟨member, least⟩ := inductionHypothesis some
      split at found
      · rename_i faster
        cases found
        exact ⟨List.mem_cons_of_mem _ member,
          List.forall_mem_cons.mpr ⟨Nat.le_of_lt faster, least⟩⟩
      · rename_i notFaster
        cases found
        have atMost := Nat.not_lt.mp notFaster
        exact ⟨List.mem_cons_self, List.forall_mem_cons.mpr
          ⟨Nat.le_refl _, fun third thirdMember => Nat.le_trans atMost (least third thirdMember)⟩⟩

/-- The fastest instance is faster than those before it and no slower than those after it. -/
theorem fastest_eq_some_iff {instances : List Instance} {best : Instance} :
    fastest? instances = some best ↔ ∃ before after, instances = before ++ best :: after ∧
      (∀ other ∈ before, best.responseTime < other.responseTime) ∧
      ∀ other ∈ after, best.responseTime ≤ other.responseTime := by
  constructor
  · intro found
    induction instances with
    | nil => cases found
    | cons occurrence others inductionHypothesis =>
      have least := (fastest_least found).2
      rw [fastest?] at found
      split at found
      · rename_i none
        rw [fastest_eq_none_iff.mp none]
        cases found
        exact ⟨[], [], rfl, List.forall_mem_nil _, List.forall_mem_nil _⟩
      · rename_i other some
        split at found
        · rename_i faster
          cases found
          obtain ⟨before, after, rfl, slower, notFaster⟩ := inductionHypothesis some
          exact ⟨occurrence :: before, after, rfl, List.forall_mem_cons.mpr ⟨faster, slower⟩,
            notFaster⟩
        · cases found
          exact ⟨[], others, rfl, List.forall_mem_nil _,
            fun other member => least other (List.mem_cons_of_mem _ member)⟩
  · rintro ⟨before, after, rfl, slower, notFaster⟩
    induction before with
    | nil =>
      rw [List.nil_append, fastest?]
      split
      · rfl
      · rename_i other found
        rw [if_neg (Nat.not_lt.mpr (notFaster other (fastest_least found).1))]
    | cons occurrence before inductionHypothesis =>
      rw [List.cons_append, fastest?, inductionHypothesis fun other member =>
        slower other (List.mem_cons_of_mem _ member)]
      simp only
      rw [if_pos (slower occurrence List.mem_cons_self)]

/-- The fastest instance is still the fastest when others are gone. -/
theorem fastest_filter {instances : List Instance} {best : Instance}
    (found : fastest? instances = some best) {keep : Instance → Bool} (kept : keep best = true) :
    fastest? (instances.filter keep) = some best := by
  obtain ⟨before, after, rfl, slower, notFaster⟩ := fastest_eq_some_iff.mp found
  rw [List.filter_append, List.filter_cons_of_pos kept]
  exact fastest_eq_some_iff.mpr ⟨_, _, rfl,
    fun other member => slower other (List.mem_filter.mp member).1,
    fun other member => notFaster other (List.mem_filter.mp member).1⟩

/-! ### Fresh instances -/

theorem mem_fresh {lifetime : Duration} {now : Instant} {instances : List Instance}
    {occurrence : Instance} :
    occurrence ∈ fresh lifetime now instances ↔
      occurrence ∈ instances ∧ occurrence.isOutdated lifetime now = false := by
  rw [fresh, List.mem_filter, Bool.not_eq_true']

theorem fresh_of_seen {now : Instant} {instances : List Instance}
    (seen : ∀ occurrence ∈ instances, occurrence.lastSeen = now) (lifetime : Duration) :
    fresh lifetime now instances = instances :=
  List.filter_eq_self.mpr fun occurrence member => by
    rw [Instance.isOutdated_of_seen (seen occurrence member)]
    rfl

end Cache

end ServiceDiscovery
