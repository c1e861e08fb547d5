/-
This file proves how a tree of files grows. Whatever can be reached stays within reach while
directories are made, and a path that could not be followed before ends at an old file only if
it leads up again from where nothing was. Making directories is done once: to ask for them again
changes nothing, whether they could be made or not.
-/

import Mathlib.Data.List.Induction
import ServiceDiscovery.Files.Tree
import ServiceDiscovery.Proofs.Attempts

namespace ServiceDiscovery

namespace FileTree

variable {tree next last : FileTree} {path : Path} {place begun final : Place}
  {pieces front : List String} {piece name : String} {isAbsolute : Bool}

/-! ### Places -/

theorem at?_put (named : place ≠ []) (entry : Entry) (other : Place) :
    (tree.put place entry).at? other = if other = place then some entry else tree.at? other := by
  have notRoot (same : place.isEmpty = true) : False := named (List.isEmpty_iff.mp same)
  unfold at? put
  rw [List.find?_append, List.find?_filter]
  by_cases same : other = place
  · subst same
    have gone : (tree.entries.find? fun existing =>
        decide ((existing.1 != other) = true ∧ (existing.1 == other) = true)) = none := by
      refine List.find?_eq_none.mpr fun existing _ => ?_
      simp
    rw [if_neg notRoot, if_pos rfl, gone]
    simp
  · have kept : (fun existing : Place × Entry =>
        decide ((existing.1 != place) = true ∧ (existing.1 == other) = true)) =
          fun existing => existing.1 == other := by
      funext existing
      by_cases here : existing.1 = other
      · simp [here, same]
      · simp [here]
    have absent : ([(place, entry)].find? fun existing => existing.1 == other) = none := by
      simp [Ne.symm same]
    rw [if_neg same, kept, absent, Option.or_none]

/-- The next tree has the directories of a tree, and names mean the same in it. -/
structure Keeps (tree next : FileTree) : Prop where
  workingDirectory : next.workingDirectory = tree.workingDirectory
  directories : ∀ place, tree.at? place = some .directory → next.at? place = some .directory

/-- The next tree has nothing new but directories, where nothing stood. -/
structure Gains (tree next : FileTree) : Prop where
  workingDirectory : next.workingDirectory = tree.workingDirectory
  entries : ∀ place, next.at? place = tree.at? place ∨
    tree.at? place = none ∧ next.at? place = some .directory

/-- Whatever stands somewhere stands in a directory. -/
def WellFormed (tree : FileTree) : Prop :=
  ∀ place name, tree.at? (place ++ [name]) ≠ none → tree.at? place = some .directory

theorem wellFormed_of_entries
    (placed : ∀ slot ∈ tree.entries, tree.at? slot.1.dropLast = some .directory) :
    tree.WellFormed := by
  intro place name stands
  have found : (tree.entries.find? fun slot => slot.1 == place ++ [name]).isSome := by
    refine Option.isSome_iff_ne_none.mpr fun absent => stands ?_
    unfold at?
    rw [if_neg, absent]
    · rfl
    · simp
  obtain ⟨slot, member, same⟩ := List.find?_isSome.mp found
  have inside := placed slot member
  rwa [beq_iff_eq.mp same, List.dropLast_concat] at inside

namespace Gains

theorem refl (tree : FileTree) : tree.Gains tree :=
  ⟨rfl, fun _ => Or.inl rfl⟩

theorem at?_of_some (gains : tree.Gains next) {entry : Entry}
    (stands : tree.at? place = some entry) : next.at? place = some entry := by
  rcases gains.entries place with same | ⟨absent, _⟩
  · exact same.trans stands
  · rw [stands] at absent
    cases absent

theorem keeps (gains : tree.Gains next) : tree.Keeps next :=
  ⟨gains.workingDirectory, fun _ => gains.at?_of_some⟩

theorem trans (gains : tree.Gains next) (more : next.Gains last) : tree.Gains last := by
  refine ⟨more.workingDirectory.trans gains.workingDirectory, fun place => ?_⟩
  rcases more.entries place with same | ⟨absent, made⟩
  · rw [same]
    exact gains.entries place
  · rcases gains.entries place with same | ⟨alsoAbsent, _⟩
    · exact Or.inr ⟨same ▸ absent, made⟩
    · exact Or.inr ⟨alsoAbsent, made⟩

theorem put (named : place ≠ []) (free : tree.at? place = none) :
    tree.Gains (tree.put place .directory) := by
  refine ⟨rfl, fun other => ?_⟩
  rw [at?_put named]
  split
  · rename_i same
    exact Or.inr ⟨same ▸ free, rfl⟩
  · exact Or.inl rfl

end Gains

theorem keeps_put (named : place ≠ []) (other : tree.at? place ≠ some .directory) (entry : Entry) :
    tree.Keeps (tree.put place entry) := by
  refine ⟨rfl, fun directory stands => ?_⟩
  rw [at?_put named, if_neg, stands]
  rintro rfl
  exact other stands

/-- Below a place where nothing stands there is nothing. -/
theorem WellFormed.absent_below (wellFormed : tree.WellFormed) (absent : tree.at? place = none)
    (below : place <+: final) : tree.at? final = none := by
  obtain ⟨names, rfl⟩ := below
  induction names using List.reverseRecOn with
  | nil => rwa [List.append_nil]
  | append_singleton names name inductionHypothesis =>
    refine Classical.byContradiction fun stands => ?_
    rw [← List.append_assoc] at stands
    rw [wellFormed _ _ stands] at inductionHypothesis
    cases inductionHypothesis

/-! ### Walks -/

/-- Where a piece leads from a directory. -/
def along (place : Place) (piece : String) : Except FileFault Place :=
  if Path.isIdle piece then .ok place
  else if piece = ".." then .ok place.dropLast
  else if longestName < (Utf8.encode piece).length then .error .tooLong
  else .ok (place ++ [piece])

theorem walk_cons_eq_ok_iff : tree.walk place (piece :: pieces) = .ok final ↔
    tree.at? place = some .directory ∧
      ∃ middle, along place piece = .ok middle ∧ tree.walk middle pieces = .ok final := by
  rw [walk, along]
  cases tree.at? place with
  | none => simp
  | some entry =>
    cases entry with
    | file content => simp
    | directory =>
      simp only [true_and]
      split
      · simp
      · split
        · simp
        · split <;> simp

theorem walk_append_eq_ok_iff {more : List String} : tree.walk place (pieces ++ more) = .ok final ↔
    ∃ middle, tree.walk place pieces = .ok middle ∧ tree.walk middle more = .ok final := by
  induction pieces generalizing place with
  | nil => simp [walk]
  | cons piece others inductionHypothesis =>
    rw [List.cons_append, walk_cons_eq_ok_iff]
    simp only [walk_cons_eq_ok_iff, inductionHypothesis]
    constructor
    · rintro ⟨stands, next, leads, middle, walked, further⟩
      exact ⟨middle, ⟨stands, next, leads, walked⟩, further⟩
    · rintro ⟨middle, ⟨stands, next, leads, walked⟩, further⟩
      exact ⟨stands, next, leads, middle, walked, further⟩

theorem walk_singleton_eq_ok_iff : tree.walk place [piece] = .ok final ↔
    tree.at? place = some .directory ∧ along place piece = .ok final := by
  rw [walk_cons_eq_ok_iff]
  simp [walk]

theorem Keeps.start_eq (keeps : tree.Keeps next) (path : Path) :
    next.start path = tree.start path := by
  unfold start
  rw [keeps.workingDirectory]

/-- A walk goes the same way as long as the directories are there. -/
theorem Keeps.walk (keeps : tree.Keeps next) (leads : tree.walk place pieces = .ok final) :
    next.walk place pieces = .ok final := by
  induction pieces generalizing place with
  | nil => exact leads
  | cons piece others inductionHypothesis =>
    obtain ⟨stands, middle, along, further⟩ := walk_cons_eq_ok_iff.mp leads
    exact walk_cons_eq_ok_iff.mpr ⟨keeps.directories _ stands, middle, along,
      inductionHypothesis further⟩

/-- A walk that directories have made possible was stopped before where nothing stood. -/
theorem Gains.walk_or_stopped (gains : tree.Gains next)
    (leads : next.walk place pieces = .ok final) :
    tree.walk place pieces = .ok final ∨
      ∃ before after missing, pieces = before ++ after ∧ tree.walk place before = .ok missing ∧
        tree.at? missing = none ∧ next.walk missing after = .ok final := by
  induction pieces generalizing place with
  | nil => exact Or.inl leads
  | cons piece others inductionHypothesis =>
    obtain ⟨stands, middle, along, further⟩ := walk_cons_eq_ok_iff.mp leads
    rcases gains.entries place with same | ⟨absent, _⟩
    · have stood := same.symm.trans stands
      rcases inductionHypothesis further with walked | ⟨before, after, missing, rfl, walked, rest⟩
      · exact Or.inl (walk_cons_eq_ok_iff.mpr ⟨stood, middle, along, walked⟩)
      · exact Or.inr ⟨piece :: before, after, missing, rfl,
          walk_cons_eq_ok_iff.mpr ⟨stood, middle, along, walked⟩, rest⟩
    · exact Or.inr ⟨[], piece :: others, place, rfl, rfl, absent, leads⟩

theorem prefix_of_along (down : piece ≠ "..") (leads : along place piece = .ok final) :
    place <+: final := by
  unfold along at leads
  rw [if_neg down] at leads
  split at leads
  · cases leads
    exact List.prefix_rfl
  · split at leads
    · cases leads
    · cases leads
      exact List.prefix_append _ _

/-- A walk that never leads up stays below its start. -/
theorem prefix_of_walk (down : ".." ∉ pieces) (leads : tree.walk place pieces = .ok final) :
    place <+: final := by
  induction pieces generalizing place with
  | nil =>
    cases leads
    exact List.prefix_rfl
  | cons piece others inductionHypothesis =>
    obtain ⟨_, middle, along, further⟩ := walk_cons_eq_ok_iff.mp leads
    obtain ⟨here, later⟩ := List.ne_and_not_mem_of_not_mem_cons down
    exact (prefix_of_along (Ne.symm here) along).trans (inductionHypothesis later further)

/-! ### What stands at a path -/

/-- The path leads to a place. -/
def Leads (tree : FileTree) (path : Path) (place : Place) : Prop :=
  ∃ begun, tree.start path = .ok begun ∧ tree.walk begun path.pieces = .ok place

theorem Leads.unique {other : Place} (leads : tree.Leads path place)
    (alsoLeads : tree.Leads path other) : place = other := by
  obtain ⟨begun, starts, walked⟩ := leads
  obtain ⟨_, alsoStarts, alsoWalked⟩ := alsoLeads
  cases starts.symm.trans alsoStarts
  exact Except.ok.inj (walked.symm.trans alsoWalked)

theorem Keeps.leads (keeps : tree.Keeps next) (leads : tree.Leads path place) :
    next.Leads path place := by
  obtain ⟨begun, starts, walked⟩ := leads
  exact ⟨begun, (keeps.start_eq path).trans starts, keeps.walk walked⟩

theorem entry_eq_ok_iff {entry : Entry} :
    tree.entry path = .ok entry ↔ ∃ place, tree.Leads path place ∧ tree.at? place = some entry := by
  unfold FileTree.entry
  simp only [Except.bind_eq_ok_iff]
  constructor
  · rintro ⟨begun, starts, place, walked, found⟩
    refine ⟨place, ⟨begun, starts, walked⟩, ?_⟩
    split at found
    · cases found
      assumption
    · cases found
  · rintro ⟨place, ⟨begun, starts, walked⟩, stands⟩
    refine ⟨begun, starts, place, walked, ?_⟩
    rw [stands]

theorem contains_iff :
    tree.contains path = true ↔
      ∃ place entry, tree.Leads path place ∧ tree.at? place = some entry := by
  have found : tree.contains path = true ↔ ∃ entry, tree.entry path = .ok entry := by
    unfold contains
    cases tree.entry path <;> simp
  rw [found]
  simp only [entry_eq_ok_iff]
  exact exists_comm

theorem isDirectory_iff :
    tree.isDirectory path = true ↔
      ∃ place, tree.Leads path place ∧ tree.at? place = some .directory := by
  rw [← entry_eq_ok_iff]
  unfold isDirectory
  cases tree.entry path with
  | error fault => simp
  | ok entry => cases entry <;> simp

theorem read_of_leads {content : Bytes} (leads : tree.Leads path place)
    (stands : tree.at? place = some (.file content)) : tree.read path = .ok content := by
  have found := entry_eq_ok_iff.mpr ⟨place, leads, stands⟩
  rw [read, found]
  rfl

theorem along_nowhere (place : Place) : along place "" = .ok place :=
  if_pos rfl

theorem directoryAt_eq_ok_iff : tree.directoryAt path pieces = .ok place ↔
    ∃ begun, tree.start path = .ok begun ∧ tree.walk begun pieces = .ok place ∧
      tree.at? place = some .directory := by
  unfold directoryAt
  simp only [Except.bind_eq_ok_iff, walk_append_eq_ok_iff, walk_singleton_eq_ok_iff,
    along_nowhere, Except.ok.injEq]
  constructor
  · rintro ⟨begun, starts, _, walked, stands, rfl⟩
    exact ⟨begun, starts, walked, stands⟩
  · rintro ⟨begun, starts, walked, stands⟩
    exact ⟨begun, starts, place, walked, stands, rfl⟩

/-- A name has a place in its directory, and that is where its path leads. -/
theorem leads_of_slot {existing : Option Entry} (named : isNameless name = false)
    (split : path.pieces = front ++ [name])
    (found : tree.slot path front name = .ok (place, existing)) :
    tree.Leads path place ∧ place ≠ [] ∧ existing = tree.at? place := by
  unfold slot at found
  obtain ⟨directory, reached, found⟩ := Except.bind_eq_ok_iff.mp found
  obtain ⟨begun, starts, walked, stands⟩ := directoryAt_eq_ok_iff.mp reached
  obtain ⟨idle, up⟩ := Bool.or_eq_false_iff.mp named
  split at found
  · cases found
  · rename_i short
    cases found
    refine ⟨⟨begun, starts, ?_⟩, List.append_ne_nil_of_right_ne_nil _ (List.cons_ne_nil _ _), rfl⟩
    rw [split, walk_append_eq_ok_iff]
    refine ⟨directory, walked, walk_singleton_eq_ok_iff.mpr ⟨stands, ?_⟩⟩
    rw [along, idle, if_neg Bool.false_ne_true, if_neg, if_neg short]
    exact beq_eq_false_iff_ne.mp up

/-- The path leads up again from a place where nothing stands. -/
def LeadsBack (tree : FileTree) (path : Path) : Prop :=
  ∃ begun before after missing, tree.start path = .ok begun ∧ path.pieces = before ++ after ∧
    tree.walk begun before = .ok missing ∧ tree.at? missing = none ∧ ".." ∈ after

theorem not_leadsBack (down : ".." ∉ path.pieces) : ¬ tree.LeadsBack path := by
  rintro ⟨_, before, after, _, _, split, _, _, up⟩
  exact down (split ▸ List.mem_append_right before up)

/-- Where a path leads once directories are made, nothing stood if nothing was found at the path
before, unless the path leads back. -/
theorem Gains.absent_or_leadsBack (gains : tree.Gains next) (wellFormed : tree.WellFormed)
    (leads : next.Leads path place) (lost : tree.contains path = false) :
    tree.at? place = none ∨ tree.LeadsBack path := by
  obtain ⟨begun, starts, walked⟩ := leads
  rw [gains.keeps.start_eq] at starts
  rcases gains.walk_or_stopped walked with
    walked | ⟨before, after, missing, split, walked, absent, rest⟩
  · refine Or.inl (Option.eq_none_iff_forall_ne_some.mpr fun entry stands => ?_)
    rw [contains_iff.mpr ⟨place, entry, ⟨begun, starts, walked⟩, stands⟩] at lost
    cases lost
  · by_cases up : ".." ∈ after
    · exact Or.inr ⟨begun, before, after, missing, starts, split, walked, absent, up⟩
    · exact Or.inl (wellFormed.absent_below absent (prefix_of_walk up rest))

/-! ### Changing a tree -/

/-- A file is put where its path leads, unless a directory is there. -/
theorem write_eq_ok {content : Bytes} (written : tree.write path content = .ok next) :
    ∃ place, tree.Leads path place ∧ place ≠ [] ∧ tree.at? place ≠ some .directory ∧
      next = tree.put place (.file content) := by
  unfold write at written
  split at written
  · cases written
  · rename_i name front reversed
    have split : path.pieces = front.reverse ++ [name] := List.reverse_eq_cons_iff.mp reversed
    split at written
    · obtain ⟨_, _, impossible⟩ := Except.bind_eq_ok_iff.mp written
      cases impossible
    · rename_i named
      obtain ⟨⟨place, existing⟩, found, written⟩ := Except.bind_eq_ok_iff.mp written
      obtain ⟨leads, notRoot, rfl⟩ := leads_of_slot (Bool.eq_false_iff.mpr named) split found
      refine ⟨place, leads, notRoot, ?_⟩
      cases stands : tree.at? place with
      | none =>
        rw [stands] at written
        cases written
        exact ⟨(fun impossible => nomatch impossible), rfl⟩
      | some entry =>
        rw [stands] at written
        cases entry with
        | directory => cases written
        | file content =>
          cases written
          exact ⟨(fun impossible => nomatch impossible), rfl⟩

/-- A directory is made where its path leads, if nothing is there. -/
theorem makeDirectory_eq_ok (named : name ≠ "")
    (made : tree.makeDirectory ⟨isAbsolute, (name :: front).reverse⟩ = .ok next) :
    ∃ place, tree.Leads ⟨isAbsolute, (name :: front).reverse⟩ place ∧ place ≠ [] ∧
      tree.at? place = none ∧ next = tree.put place .directory := by
  have last : (name :: front).reverse.reverse.dropWhile (fun piece => piece == "") =
      name :: front := by
    rw [List.reverse_reverse, List.dropWhile_cons_of_neg]
    exact fun nameless => named (beq_iff_eq.mp nameless)
  unfold makeDirectory at made
  rw [last] at made
  change (if isNameless name then _ else _) = _ at made
  split at made
  · obtain ⟨_, _, impossible⟩ := Except.bind_eq_ok_iff.mp made
    cases impossible
  · rename_i proper
    obtain ⟨⟨place, existing⟩, found, made⟩ := Except.bind_eq_ok_iff.mp made
    obtain ⟨leads, notRoot, rfl⟩ := leads_of_slot (Bool.eq_false_iff.mpr proper)
      List.reverse_cons found
    cases stands : tree.at? place with
    | some entry =>
      rw [stands] at made
      cases made
    | none =>
      rw [stands] at made
      cases made
      exact ⟨place, leads, notRoot, stands, rfl⟩

/-- A directory that is there is left as it is. -/
theorem ensureDirectory_of_isDirectory (named : name ≠ "")
    (there : tree.isDirectory ⟨isAbsolute, (name :: front).reverse⟩ = true) :
    tree.ensureDirectory ⟨isAbsolute, (name :: front).reverse⟩ = .ok tree := by
  obtain ⟨place, leads, stands⟩ := isDirectory_iff.mp there
  unfold ensureDirectory
  cases made : tree.makeDirectory ⟨isAbsolute, (name :: front).reverse⟩ with
  | ok next =>
    obtain ⟨other, alsoLeads, _, free, _⟩ := makeDirectory_eq_ok named made
    rw [← leads.unique alsoLeads, stands] at free
    cases free
  | error fault => exact if_pos there

theorem ensureDirectory_eq_ok (named : name ≠ "")
    (ensured : tree.ensureDirectory ⟨isAbsolute, (name :: front).reverse⟩ = .ok next) :
    tree.Gains next ∧ next.isDirectory ⟨isAbsolute, (name :: front).reverse⟩ = true ∧
      ∃ place, tree.Leads ⟨isAbsolute, (name :: front).reverse⟩ place := by
  unfold ensureDirectory at ensured
  cases made : tree.makeDirectory ⟨isAbsolute, (name :: front).reverse⟩ with
  | ok _ =>
    rw [made] at ensured
    cases ensured
    obtain ⟨place, leads, notRoot, free, rfl⟩ := makeDirectory_eq_ok named made
    have gains := Gains.put notRoot free
    refine ⟨gains, isDirectory_iff.mpr ⟨place, gains.keeps.leads leads, ?_⟩, place, leads⟩
    rw [at?_put notRoot, if_pos rfl]
  | error fault =>
    rw [made] at ensured
    change (if _ then _ else _) = _ at ensured
    split at ensured
    · rename_i there
      cases ensured
      obtain ⟨place, leads, _⟩ := isDirectory_iff.mp there
      exact ⟨.refl _, there, place, leads⟩
    · cases ensured

theorem isDirectory_of_refused {fault : FileFault} (named : name ≠ "")
    (refused : tree.ensureDirectory ⟨isAbsolute, (name :: front).reverse⟩ = .error fault) :
    tree.isDirectory ⟨isAbsolute, (name :: front).reverse⟩ = false := by
  refine Bool.eq_false_iff.mpr fun there => ?_
  rw [ensureDirectory_of_isDirectory named there] at refused
  cases refused

/-! ### Making all directories of a path -/

theorem size_concat (pieces : List String) (name : String) (isAbsolute : Bool) :
    (Path.mk isAbsolute pieces).size ≤ (Path.mk isAbsolute (pieces ++ [name])).size := by
  have more (start : Nat) :
      pieces.foldr (fun piece count => (Utf8.encode piece).length + 1 + count) 0 ≤
        pieces.foldr (fun piece count => (Utf8.encode piece).length + 1 + count) start := by
    induction pieces with
    | nil => exact Nat.zero_le _
    | cons piece others inductionHypothesis => exact Nat.add_le_add_left inductionHypothesis _
  unfold Path.size
  rw [List.foldr_append]
  exact Nat.sub_le_sub_right (Nat.add_le_add_right (more _) _) _

/-- A path starts where a longer one does. -/
theorem start_front (below : front ≠ []) (named : "" ∉ front)
    (starts : tree.start ⟨isAbsolute, (name :: front).reverse⟩ = .ok begun) :
    tree.start ⟨isAbsolute, front.reverse⟩ = .ok begun := by
  have somewhere : (Path.mk isAbsolute front.reverse).isEmpty = false := by
    have notNowhere : front.reverse ≠ [""] := fun same => by
      rw [List.reverse_eq_cons_iff] at same
      exact named (same ▸ List.mem_singleton_self _)
    simp [Path.isEmpty, notNowhere, below]
  unfold start at starts ⊢
  rw [somewhere, if_neg Bool.false_ne_true]
  split at starts
  · cases starts
  · split at starts
    · cases starts
    · rename_i short
      cases starts
      rw [if_neg]
      rw [List.reverse_cons] at short
      exact fun long => short (Nat.lt_of_lt_of_le long (size_concat _ _ _))

/-- What a path leads to stands in a directory. -/
theorem isDirectory_front (below : front ≠ []) (named : "" ∉ front)
    (leads : tree.Leads ⟨isAbsolute, (name :: front).reverse⟩ place) :
    tree.isDirectory ⟨isAbsolute, front.reverse⟩ = true := by
  obtain ⟨begun, starts, walked⟩ := leads
  rw [List.reverse_cons, walk_append_eq_ok_iff] at walked
  obtain ⟨middle, walked, further⟩ := walked
  exact isDirectory_iff.mpr ⟨middle, ⟨begun, start_front below named starts, walked⟩,
    (walk_singleton_eq_ok_iff.mp further).1⟩

/-- A directory that cannot be made stays missing if those above it are as they will be. -/
theorem makeAll_of_refused {fault : FileFault}
    (refused : tree.ensureDirectory ⟨isAbsolute, (name :: front).reverse⟩ = .error fault)
    (above : fault = .notFound → ∃ later, makeAll isAbsolute front tree = (tree, later)) :
    ∃ later, makeAll isAbsolute (name :: front) tree = (tree, .error later) := by
  rw [makeAll, refused]
  by_cases lost : fault = .notFound
  · obtain ⟨later, made⟩ := above lost
    rw [lost, made]
    cases later with
    | error other => exact ⟨other, rfl⟩
    | ok =>
      refine ⟨fault, ?_⟩
      dsimp only
      rw [refused]
  · refine ⟨fault, ?_⟩
    split
    · rename_i impossible
      cases impossible
    · rename_i same
      exact absurd (Except.error.inj same) lost
    · rename_i same
      cases same
      rfl

/-- To make directories again leaves the tree as it is and has the same success. If there is none,
the last of them is missing. -/
structure Settled (isAbsolute : Bool) (steps : List String) (tree : FileTree)
    (result : Except FileFault Unit) : Prop where
  again : ∃ later, makeAll isAbsolute steps tree = (tree, later) ∧ later.isOk = result.isOk
  missing : result.isOk = false → tree.isDirectory ⟨isAbsolute, steps.reverse⟩ = false

theorem settled_of_refused {fault reported : FileFault} (named : name ≠ "")
    (refused : tree.ensureDirectory ⟨isAbsolute, (name :: front).reverse⟩ = .error fault)
    (above : fault = .notFound → ∃ later, makeAll isAbsolute front tree = (tree, later)) :
    Settled isAbsolute (name :: front) tree (.error reported) := by
  obtain ⟨later, same⟩ := makeAll_of_refused refused above
  exact ⟨⟨_, same, rfl⟩, fun _ => isDirectory_of_refused named refused⟩

/-- How directories are made: the last one at once if that goes, else those above it first. -/
inductive Building (isAbsolute : Bool) :
    List String → FileTree → FileTree → Except FileFault Unit → Prop where
  | top (tree : FileTree) : Building isAbsolute [] tree tree (.ok ())
  | ensured {name : String} {front : List String} {tree next : FileTree}
      (ensured : tree.ensureDirectory ⟨isAbsolute, (name :: front).reverse⟩ = .ok next) :
      Building isAbsolute (name :: front) tree next (.ok ())
  | refused {name : String} {front : List String} {tree : FileTree} {fault : FileFault}
      (refused : tree.ensureDirectory ⟨isAbsolute, (name :: front).reverse⟩ = .error fault)
      (other : fault ≠ .notFound) : Building isAbsolute (name :: front) tree tree (.error fault)
  | stuck {name : String} {front : List String} {tree next : FileTree} {fault : FileFault}
      (above : Building isAbsolute front tree next (.error fault)) :
      Building isAbsolute (name :: front) tree next (.error fault)
  | finished {name : String} {front : List String} {tree middle next : FileTree}
      (above : Building isAbsolute front tree middle (.ok ()))
      (ensured : middle.ensureDirectory ⟨isAbsolute, (name :: front).reverse⟩ = .ok next) :
      Building isAbsolute (name :: front) tree next (.ok ())
  | failed {name : String} {front : List String} {tree next : FileTree} {fault : FileFault}
      (above : Building isAbsolute front tree next (.ok ()))
      (failed : next.ensureDirectory ⟨isAbsolute, (name :: front).reverse⟩ = .error fault) :
      Building isAbsolute (name :: front) tree next (.error fault)

theorem makeAll_building (isAbsolute : Bool) (steps : List String) (tree : FileTree) :
    Building isAbsolute steps tree (makeAll isAbsolute steps tree).1
      (makeAll isAbsolute steps tree).2 := by
  induction steps with
  | nil => exact .top tree
  | cons name front inductionHypothesis =>
    unfold makeAll
    split
    · rename_i ensured
      exact .ensured ensured
    · split
      · rename_i stopped
        rw [stopped] at inductionHypothesis
        exact .stuck inductionHypothesis
      · rename_i made
        rw [made] at inductionHypothesis
        split
        · rename_i ensured
          exact .finished inductionHypothesis ensured
        · rename_i failed
          exact .failed inductionHypothesis failed
    · rename_i other refused
      exact .refused refused other

namespace Building

variable {steps : List String} {result : Except FileFault Unit}

theorem gains (building : Building isAbsolute steps tree next result) (named : "" ∉ steps) :
    tree.Gains next := by
  induction building with
  | top tree => exact .refl tree
  | ensured ensured =>
    exact (ensureDirectory_eq_ok (List.ne_of_not_mem_cons named).symm ensured).1
  | refused => exact .refl _
  | stuck above inductionHypothesis | failed above failed inductionHypothesis =>
    exact inductionHypothesis (List.not_mem_of_not_mem_cons named)
  | finished above ensured inductionHypothesis =>
    exact (inductionHypothesis (List.not_mem_of_not_mem_cons named)).trans
      (ensureDirectory_eq_ok (List.ne_of_not_mem_cons named).symm ensured).1

/-- Directories that were made are there when they are asked for again, and those that could not
be made still cannot. -/
theorem settled (building : Building isAbsolute steps tree next result) (named : "" ∉ steps) :
    Settled isAbsolute steps next result := by
  induction building with
  | top tree => exact ⟨⟨.ok (), rfl, rfl⟩, fun impossible => nomatch impossible⟩
  | ensured ensured | finished above ensured inductionHypothesis =>
    have nameless := (List.ne_of_not_mem_cons named).symm
    obtain ⟨_, there, _⟩ := ensureDirectory_eq_ok nameless ensured
    refine ⟨⟨.ok (), ?_, rfl⟩, fun impossible => nomatch impossible⟩
    rw [makeAll, ensureDirectory_of_isDirectory nameless there]
  | refused refused other =>
    exact settled_of_refused (List.ne_of_not_mem_cons named).symm refused fun lost =>
      absurd lost other
  | @stuck name front tree next fault above inductionHypothesis =>
    have nameless := (List.ne_of_not_mem_cons named).symm
    have others := List.not_mem_of_not_mem_cons named
    obtain ⟨⟨later, made, _⟩, missing⟩ := inductionHypothesis others
    have below : front ≠ [] := by
      rintro rfl
      cases above
    cases ensured : next.ensureDirectory ⟨isAbsolute, (name :: front).reverse⟩ with
    | ok last =>
      -- The directory could only be had if the one above it were there.
      obtain ⟨_, _, place, leads⟩ := ensureDirectory_eq_ok nameless ensured
      rw [isDirectory_front below others leads] at missing
      cases missing rfl
    | error fault => exact settled_of_refused nameless ensured fun _ => ⟨_, made⟩
  | failed above failed inductionHypothesis =>
    obtain ⟨⟨_, made, _⟩, _⟩ := inductionHypothesis (List.not_mem_of_not_mem_cons named)
    exact settled_of_refused (List.ne_of_not_mem_cons named).symm failed fun _ => ⟨_, made⟩

end Building

end FileTree

end ServiceDiscovery
