/-
This file proves what writing the file with the defaults does. It makes what settings would apply
anyway visible in a file, and to do it again changes nothing. Files that are there stay as they
are, but for one case: whether there is a file is asked before the directories above it are made,
and a path that leads up again from a directory that is missing then leads to another file than
it seemed to.
-/

import ServiceDiscovery.Config.Loading
import ServiceDiscovery.Proofs.Files
import ServiceDiscovery.Proofs.Utf8

namespace ServiceDiscovery

/-- The text of the defaults states the defaults. -/
theorem Settings.ofText?_standardText : ofText? standardText = some standard := by
  decide +kernel

theorem Path.nameless_not_mem_steps (path : Path) : "" ∉ path.steps := by
  unfold steps
  split
  · intro member
    rcases List.mem_cons.mp member with impossible | member
    · exact absurd impossible (by decide)
    · exact absurd (List.mem_filter.mp member).2 (by decide)
  · exact fun member => absurd (List.mem_filter.mp member).2 (by decide)

namespace Config

/-- The file with the defaults. -/
def standardFile : Bytes :=
  Utf8.encode Settings.standardText

theorem makeParents_gains (files : FileTree) (path : Path) :
    files.Gains (makeParents files path).1 := by
  unfold makeParents
  split
  · rename_i parent _
    exact (FileTree.makeAll_building _ _ _).gains fun member =>
      parent.nameless_not_mem_steps (List.mem_reverse.mp member)
  · exact .refl files

/-- To make the directories above a path again changes nothing and has the same success. -/
theorem makeParents_again (files : FileTree) (path : Path) :
    ∃ later, makeParents (makeParents files path).1 path = ((makeParents files path).1, later) ∧
      later.isOk = (makeParents files path).2.isOk := by
  unfold makeParents
  split
  · rename_i parent _
    exact ((FileTree.makeAll_building _ _ _).settled fun member =>
      parent.nameless_not_mem_steps (List.mem_reverse.mp member)).again
  · exact ⟨_, rfl, rfl⟩

/-- The defaults are put where the path leads once the directories above it are there; or they
cannot be written, and then they still cannot the next time. -/
theorem writeStandard_cases (files : FileTree) (path : Path) :
    (∃ next, writeStandard files path = (next, .error .writeFailed) ∧ files.Gains next ∧
      writeStandard next path = (next, .error .writeFailed)) ∨
    ∃ middle place, files.Gains middle ∧ middle.Leads path place ∧ place ≠ [] ∧
      middle.at? place ≠ some .directory ∧
      writeStandard files path = (middle.put place (.file standardFile), .ok ()) := by
  have gains := makeParents_gains files path
  obtain ⟨later, again, success⟩ := makeParents_again files path
  unfold writeStandard
  generalize makeParents files path = parents at gains again success ⊢
  obtain ⟨middle, result⟩ := parents
  cases result with
  | error fault =>
    refine Or.inl ⟨middle, rfl, gains, ?_⟩
    cases later with
    | ok => cases success
    | error other =>
      rw [again]
  | ok made =>
    cases later with
    | error => cases success
    | ok =>
      cases written : middle.write path (Utf8.encode Settings.standardText) with
      | ok next =>
        obtain ⟨place, leads, notRoot, other, rfl⟩ := FileTree.write_eq_ok written
        refine Or.inr ⟨middle, place, gains, leads, notRoot, other, ?_⟩
        dsimp only
        rw [written]
        rfl
      | error fault =>
        refine Or.inl ⟨middle, ?_, gains, ?_⟩
        · dsimp only
          rw [written]
        · rw [again]
          dsimp only
          rw [written]

/-! ### Before and after -/

variable {files : FileTree} {environment : Environment} {path : String}

theorem writeIfMissing_of_contains
    (there : files.contains (Path.ofText (filePath environment)) = true) :
    writeIfMissing environment files = (files, .ok (filePath environment)) :=
  if_pos there

theorem writeIfMissing_of_missing
    (missing : files.contains (Path.ofText (filePath environment)) = false) :
    writeIfMissing environment files =
      ((writeStandard files (Path.ofText (filePath environment))).1,
        (writeStandard files (Path.ofText (filePath environment))).2.map fun _ =>
          filePath environment) := by
  unfold writeIfMissing
  rw [missing, if_neg Bool.false_ne_true]
  obtain ⟨after, result⟩ := writeStandard files (Path.ofText (filePath environment))
  cases result <;> rfl

theorem fromFile_of_read {text : String} {settings : Settings}
    (read : files.read (Path.ofText path) = .ok (Utf8.encode text))
    (states : Settings.ofText? text = some settings) : fromFile files path = .ok settings := by
  have decoded : (Except.toOption (.ok (Utf8.encode text) : Except FileFault Bytes)).bind
      Utf8.decode? = some text := Utf8.decode_encode text
  unfold fromFile
  rw [read, decoded]
  dsimp only
  rw [states]

/-- A file with the defaults is as good as none. -/
theorem load_eq_load {after : FileTree}
    (missing : files.contains (Path.ofText (filePath environment)) = false)
    (there : after.contains (Path.ofText (filePath environment)) = true)
    (written : after.read (Path.ofText (filePath environment)) = .ok standardFile) :
    load environment after = load environment files := by
  unfold load stated
  rw [if_pos there, missing, if_neg Bool.false_ne_true,
    fromFile_of_read written Settings.ofText?_standardText]

/-- What comes of writing the file with the defaults if there is none. If something stands at its
path, nothing happens. Every directory stays where it is, and every file keeps its content, unless
the path could not be followed because it leads up again from where nothing stood; then the file
that it leads to afterwards is replaced. After success there is a file, new with the defaults or
as it was, and the same settings apply as before. After a failure there are more directories, but
nothing else. A second time nothing changes. -/
structure Effect (environment : Environment) (files after : FileTree)
    (result : Except Error String) : Prop where
  unchanged : files.contains (Path.ofText (filePath environment)) = true →
    after = files ∧ result = .ok (filePath environment)
  directories : ∀ place, files.at? place = some .directory → after.at? place = some .directory
  kept : ∀ place content, files.at? place = some (.file content) →
    after.at? place = some (.file content) ∨
      files.LeadsBack (Path.ofText (filePath environment)) ∧
      files.contains (Path.ofText (filePath environment)) = false ∧
      after.Leads (Path.ofText (filePath environment)) place ∧
      after.at? place = some (.file standardFile)
  found : ∀ path, result = .ok path →
    path = filePath environment ∧ after.contains (Path.ofText path) = true ∧
      (files.contains (Path.ofText path) = false →
        after.read (Path.ofText path) = .ok standardFile) ∧
      load environment after = load environment files ∧
      writeIfMissing environment after = (after, .ok path)
  failed : ∀ error, result = .error error →
    error = .writeFailed ∧ files.contains (Path.ofText (filePath environment)) = false ∧
      files.Gains after
  again : (writeIfMissing environment after).1 = after

theorem effect_of_contains
    (there : files.contains (Path.ofText (filePath environment)) = true) :
    Effect environment files files (.ok (filePath environment)) where
  unchanged _ := ⟨rfl, rfl⟩
  directories _ stands := stands
  kept _ _ stands := Or.inl stands
  found := by
    rintro _ ⟨⟩
    refine ⟨rfl, there, fun missing => ?_, rfl, writeIfMissing_of_contains there⟩
    rw [there] at missing
    cases missing
  failed _ impossible := nomatch impossible
  again := congrArg Prod.fst (writeIfMissing_of_contains there)

/-- Directories that were made for a file that then could not be written are all that changes. -/
theorem effect_of_failed
    (missing : files.contains (Path.ofText (filePath environment)) = false) {next : FileTree}
    (gains : files.Gains next)
    (again : writeStandard next (Path.ofText (filePath environment)) =
      (next, .error .writeFailed)) :
    Effect environment files next (.error .writeFailed) where
  unchanged there := nomatch there.symm.trans missing
  directories _ stands := gains.at?_of_some stands
  kept _ _ stands := Or.inl (gains.at?_of_some stands)
  found _ impossible := nomatch impossible
  failed := by
    rintro _ ⟨⟩
    exact ⟨rfl, missing, gains⟩
  again := by
    cases there : next.contains (Path.ofText (filePath environment)) with
    | true => rw [writeIfMissing_of_contains there]
    | false => rw [writeIfMissing_of_missing there, again]

theorem effect_of_written (wellFormed : files.WellFormed)
    (missing : files.contains (Path.ofText (filePath environment)) = false) {middle : FileTree}
    {place : Place} (gains : files.Gains middle)
    (leads : middle.Leads (Path.ofText (filePath environment)) place) (notRoot : place ≠ [])
    (other : middle.at? place ≠ some .directory) :
    Effect environment files (middle.put place (.file standardFile))
      (.ok (filePath environment)) := by
  have keeps := FileTree.keeps_put notRoot other (.file standardFile)
  have leadsThere := keeps.leads leads
  have stands : (middle.put place (.file standardFile)).at? place = some (.file standardFile) := by
    rw [FileTree.at?_put notRoot, if_pos rfl]
  have there := FileTree.contains_iff.mpr ⟨place, _, leadsThere, stands⟩
  have written := FileTree.read_of_leads leadsThere stands
  refine ⟨fun found => ?_, fun directory stood => keeps.directories _ (gains.at?_of_some stood),
    fun file content stood => ?_, ?_, fun _ impossible => (nomatch impossible),
    congrArg Prod.fst (writeIfMissing_of_contains there)⟩
  · rw [missing] at found
    cases found
  · by_cases same : file = place
    · subst same
      refine Or.inr ⟨?_, missing, leadsThere, stands⟩
      refine (gains.absent_or_leadsBack wellFormed leads missing).resolve_left fun absent => ?_
      rw [stood] at absent
      cases absent
    · refine Or.inl ?_
      rw [FileTree.at?_put notRoot, if_neg same]
      exact gains.at?_of_some stood
  · rintro _ ⟨⟩
    exact ⟨rfl, there, fun _ => written, load_eq_load missing there written,
      writeIfMissing_of_contains there⟩

/-- Writing the file with the defaults is harmless, but for a path that leads up again from a
directory that is missing. -/
theorem writeIfMissing_effect (wellFormed : files.WellFormed) (environment : Environment) :
    Effect environment files (writeIfMissing environment files).1
      (writeIfMissing environment files).2 := by
  cases there : files.contains (Path.ofText (filePath environment)) with
  | true =>
    rw [writeIfMissing_of_contains there]
    exact effect_of_contains there
  | false =>
    rw [writeIfMissing_of_missing there]
    rcases writeStandard_cases files (Path.ofText (filePath environment)) with
      ⟨next, failed, gains, again⟩ | ⟨middle, place, gains, leads, notRoot, other, written⟩
    · rw [failed]
      exact effect_of_failed there gains again
    · rw [written]
      exact effect_of_written wellFormed there gains leads notRoot other

/-- A home directory with a note in it. -/
def household : FileTree :=
  ⟨[(["home"], .directory), (["home", "note"], .file (Utf8.encode "milk"))], []⟩

def atHome : Environment := fun name =>
  if name = "HOME" then some "/home" else none

theorem wellFormed_household : household.WellFormed :=
  FileTree.wellFormed_of_entries (by decide)

/-- The file is made, the note is still there, and the same settings apply. -/
theorem writeIfMissing_effect_household :
    household.WellFormed ∧ household.contains (Path.ofText (filePath atHome)) = false ∧
      (writeIfMissing atHome household).1.read (Path.ofText "/home/.config/cairn/config.toml") =
        .ok standardFile ∧
      (writeIfMissing atHome household).1.at? ["home", "note"] =
        some (.file (Utf8.encode "milk")) ∧
      load atHome (writeIfMissing atHome household).1 = load atHome household := by
  have effect := writeIfMissing_effect wellFormed_household atHome
  have missing : household.contains (Path.ofText (filePath atHome)) = false := by decide
  have done : (writeIfMissing atHome household).2 = .ok "/home/.config/cairn/config.toml" := by
    rfl
  have note : household.at? ["home", "note"] = some (.file (Utf8.encode "milk")) := by decide
  obtain ⟨_, _, written, same, _⟩ := effect.found _ done
  refine ⟨wellFormed_household, missing, written missing, ?_, same⟩
  refine (effect.kept _ _ note).resolve_right fun replaced => ?_
  exact FileTree.not_leadsBack (by decide) replaced.1

/-- A file that is kept by hand. -/
def workshop : FileTree :=
  ⟨[(["c.toml"], .file (Utf8.encode "# kept by hand\n"))], []⟩

def roundabout : Environment := fun name =>
  if name = "CAIRN_CONFIG" then some "new/../c.toml" else none

/-- A file that was there is lost, because its path goes through a directory that was not. -/
theorem writeIfMissing_overwrites :
    workshop.WellFormed ∧
      workshop.at? ["c.toml"] = some (.file (Utf8.encode "# kept by hand\n")) ∧
      (writeIfMissing roundabout workshop).2 = .ok "new/../c.toml" ∧
      (writeIfMissing roundabout workshop).1.at? ["c.toml"] = some (.file standardFile) ∧
      Utf8.encode "# kept by hand\n" ≠ standardFile :=
  ⟨FileTree.wellFormed_of_entries (by decide), by rfl, by rfl, by rfl,
    fun same => absurd (Utf8.encode_injective same) (by decide)⟩

end Config

end ServiceDiscovery
