import StructuredQuery.Proofs.CommandLine.Kept
import StructuredQuery.Session

/-!
What holds in every state of a session. Its directories are all there, so commands that are run in it keep the files
that they find. How many bytes a file may have is the same in all states of a session, and any number.
-/

namespace StructuredQuery

open CommandLine

inductive Step.IsUnforced : Step → Prop
  | run (args : List String) (stdin : ByteArray) (home : Option String) (h : ¬ Forces args) :
      IsUnforced (.run args stdin home)

namespace Session

def after (s : Session) (steps : List Step) : Session :=
  steps.foldl (fun s step => (s.step step).2) s

def setting (s : Session) (stdin : ByteArray) (home : Option String) : Setting :=
  ⟨{ s.place with home := home.getD s.place.home }, s.tree, stdin⟩

/-! ## Sound sessions -/

/-- The directories of the file system are all there, and the one of the session is among them. -/
def IsSound (s : Session) : Prop :=
  s.tree.IsSound s.directory

theorem isRooted_surroundings (fileLimit : Option Nat) : FileTree.IsRooted ⟨surroundings, fileLimit⟩ := by
  intro place e hg
  rcases FileTree.mem_of_get? hg with rfl | ⟨entry, hm, rfl⟩
  · rfl
  · simp only [surroundings, List.mem_cons, List.not_mem_nil, or_false] at hm
    rcases hm with rfl | rfl | rfl | rfl <;> rfl

/-- A session starts with a sound file system. -/
theorem isSound_start (directory : List String) (fileLimit : Option Nat) : (start directory fileLimit).IsSound := by
  have hmade := (isRooted_surroundings fileLimit).putAll [] rfl directory
  have hid : (FileTree.beginnings directory).map ([] ++ ·) = FileTree.beginnings directory := List.map_id _
  rw [hid, List.nil_append] at hmade
  exact ⟨hmade.1, hmade.2⟩

variable {s : Session}

/-- Every step keeps a session sound. -/
theorem IsSound.step (h : s.IsSound) (step : Step) : (s.step step).2.IsSound := by
  have hconfigure (done : Except Error (Config × List String)) : (s.configure done).2.IsSound := by
    unfold configure
    split <;> exact h
  cases step with
  | write path content => exact FileTree.IsSound.write h path content
  | makeDirectory path => exact FileTree.IsSound.makeDirectories h path
  | read path => exact h
  | loadConfig path => exact hconfigure _
  | changeConfig change =>
    unfold Session.step
    dsimp only
    split <;> exact h
  | validate => exact hconfigure _
  | saveConfig path =>
    -- a file is written, or the path is refused before that
    have hs : s.tree.IsSound s.place.directory := h
    change FileTree.IsSound (s.config.save s.tree s.place path).2 s.place.directory
    unfold Config.save
    split
    · exact hs
    · dsimp only
      exact hs.write _ _
  | loadDocument path => exact h
  | run args stdin home => exact (keeps_run (s := s.setting stdin home) h args).sound

/-- No step of a session makes the file system unsound. -/
theorem IsSound.after (h : s.IsSound) (steps : List Step) : (s.after steps).IsSound := by
  induction steps generalizing s with
  | nil => exact h
  | cons step steps ih => exact ih (h.step step)

/-! ## Runs in a session -/

/-- Runs that may not overwrite a file keep all that is there. -/
theorem IsSound.kept (h : s.IsSound) {runs : List Step} (hr : ∀ step ∈ runs, step.IsUnforced)
    {place : List String} {e : Entry} (hg : s.tree.get? place = some e) :
    (s.after runs).tree.get? place = some e := by
  induction runs generalizing s with
  | nil => exact hg
  | cons step runs ih =>
    rw [List.forall_mem_cons] at hr
    refine ih (h.step step) hr.2 ?_
    cases hr.1 with
    | run args stdin home hf => exact (keeps_run (s := s.setting stdin home) h args).kept hf place e hg

/-- Commands do not touch what they should not, in any state of a session: no command but `init-config` changes the
file system, and that changes only the file that it reports, makes the missing directories for it, and overwrites a
file on request only. A run that ends otherwise leaves all that was there as it was, but for a file that it was to
write and could not write in full; what it has made on the way to a file that is then refused are directories. So
over runs that may not overwrite files, every file keeps what it holds. -/
theorem files_after_runs (directory : List String) (fileLimit : Option Nat) (steps runs : List Step)
    (hr : ∀ step ∈ runs, step.IsUnforced) :
    let s := (start directory fileLimit).after steps
    (∀ args stdin home, Keeps (s.setting stdin home) args) ∧
      ∀ place e, s.tree.get? place = some e → (s.after runs).tree.get? place = some e := by
  intro s
  have hs : s.IsSound := (isSound_start directory fileLimit).after steps
  exact ⟨fun args stdin home => keeps_run (s := s.setting stdin home) hs args, fun _ _ hg => hs.kept hr hg⟩

/-- The case of settings that `init-config` is asked for twice, where a file stands and where there is none: the file
is kept. -/
theorem files_after_runs_twice :
    let s := (start ["w"] none).after [.write ⟨"", ["c.toml"]⟩ "[output]".toUTF8]
    let runs := [.run ["init-config", "-o", "../w/./c.toml"] .empty none,
      .run ["init-config", "-o", "x/c.toml"] .empty none]
    s.tree.get? ["w", "c.toml"] = some (.file "[output]".toUTF8) ∧
      (s.after runs).tree.get? ["w", "c.toml"] = some (.file "[output]".toUTF8) := by
  intro s runs
  have hfile : s.tree.get? ["w", "c.toml"] = some (.file "[output]".toUTF8) := by
    decide +kernel
  have hfirst := calls_of_read? ["init-config", "-o", "../w/./c.toml"] ⟨[], ["init-config", "-o", "../w/./c.toml"]⟩
    none .initConfig ⟨[("--output", "../w/./c.toml")], []⟩ (by decide +kernel) rfl rfl rfl (by decide)
    (by decide +kernel) (by decide)
  have hsecond := calls_of_read? ["init-config", "-o", "x/c.toml"] ⟨[], ["init-config", "-o", "x/c.toml"]⟩ none
    .initConfig ⟨[("--output", "x/c.toml")], []⟩ (by decide +kernel) rfl rfl rfl (by decide) (by decide +kernel)
    (by decide)
  have hunforced : ∀ step ∈ runs, step.IsUnforced := by
    rw [List.forall_mem_cons, List.forall_mem_singleton]
    exact ⟨.run _ _ _ (hfirst.not_forces (by decide)), .run _ _ _ (hsecond.not_forces (by decide))⟩
  exact ⟨hfile, (files_after_runs ["w"] none [.write ⟨"", ["c.toml"]⟩ "[output]".toUTF8] runs hunforced).2 _ _ hfile⟩

/-- A directory on the way is left behind, though the file in it is refused for its name and the run ends with 1. -/
theorem exists_directory_after_refusal :
    let name := String.ofList (List.replicate 256 'a')
    let s := (start ["w"] none).setting .empty none
    let ended := run s ["init-config", "--output", "x/" ++ name]
    ended.1.map (·.exit) = .ok 1 ∧ s.tree.get? ["w", "x"] = none ∧ ended.2.get? ["w", "x"] = some .directory := by
  intro name s ended
  -- the characters of the name are told from how it is made, for its bytes are long in decoding
  have hnamed : namedPath ("x/" ++ name) = .ok ⟨"", ["x", name]⟩ := by
    rw [namedPath, Path.hasNull, Path.ofText, String.toList_append, String.toList_ofList, String.toList_ofList]
    decide +kernel
  have hnull : ["w", "x", name].any Path.hasNull = false := by
    rw [List.any_cons, List.any_cons, List.any_cons, Path.hasNull, Path.hasNull, Path.hasNull,
      String.toList_ofList, String.toList_ofList, String.toList_ofList]
    decide +kernel
  have hrest : ["x", name].any Path.hasNull = false := by
    rw [List.any_cons, Bool.or_eq_false_iff] at hnull
    exact hnull.2
  have hresolve : Path.resolve s.place.directory ⟨"", ["x", name]⟩ = .ok ⟨"/", ["w", "x", name]⟩ := by
    rw [Path.resolve, if_neg]
    · decide +kernel
    · rw [Bool.not_eq_true]
      exact hrest
  have hexpand : Path.expandHome s.place ⟨"", ["x", name]⟩ = .ok ⟨"", ["x", name]⟩ := by
    rfl
  have hfull : Config.fullPath s.place (some ⟨"", ["x", name]⟩) = .ok ⟨"/", ["w", "x", name]⟩ := by
    rw [Config.fullPath_some]
    exact bind_eq_ok_iff.2 ⟨_, hexpand, hresolve⟩
  have hget (text : String) : (Arguments.get? ⟨[("--output", text)], []⟩ "--output").mapM namedPath =
      (namedPath text).map some := by
    rfl
  have htarget : Targets s ⟨[("--output", "x/" ++ name)], []⟩ ⟨"/", ["w", "x", name]⟩ := by
    refine ⟨some ⟨"", ["x", name]⟩, ?_, hfull⟩
    rw [hget, hnamed]
    rfl
  have hfree : s.tree.exists? s.place.directory ⟨"/", ["w", "x", name]⟩ = .ok false := by
    rw [FileTree.exists?, FileTree.locate, if_neg]
    · decide +kernel
    · rw [Bool.not_eq_true]
      exact hnull
  have hmade : (s.tree.makeDirectories s.place.directory ⟨"/", ["w", "x"]⟩).2.get? ["w", "x"] = some .directory := by
    decide +kernel
  have hlong : FileTree.nameLimit < name.utf8ByteSize := by decide +kernel
  obtain ⟨message, hinit⟩ := initConfig_of_nameLimit ["w", "x"] name htarget rfl rfl hlong hnull hfree
  have hcalls := calls_of_read? ["init-config", "--output", "x/" ++ name]
    ⟨[], ["init-config", "--output", "x/" ++ name]⟩ none .initConfig ⟨[("--output", "x/" ++ name)], []⟩
    (by decide +kernel) rfl rfl rfl (by decide +kernel) (by decide +kernel) (by decide +kernel)
  have hload : (Config.load s.tree s.place none).toOption = some (Config.default,
      ["No config file found at /w/.config/csquery/config.toml. Using defaults. Create config with: csquery init-config"]) := by
    decide +kernel
  have hended : ended = _ := hcalls.run_eq (eq_ok_of_toOption hload) (told_of_not_verbose rfl _)
  simp only [perform, hinit] at hended
  rw [hended]
  exact ⟨rfl, by decide +kernel, hmade⟩

/-- Runs that end with 1 may change something. A directory on the way is left behind when the file in it is refused for
its name, and a file that may have eight bytes has the first eight of the settings by default when these are written
over it. -/
theorem changes_after_refusal :
    (let name := String.ofList (List.replicate 256 'a')
      let s := (start ["w"] none).setting .empty none
      let ended := run s ["init-config", "--output", "x/" ++ name]
      ended.1.map (·.exit) = .ok 1 ∧ s.tree.get? ["w", "x"] = none ∧ ended.2.get? ["w", "x"] = some .directory) ∧
    (let s := ((start ["w"] (some 8)).after [.write ⟨"", ["c.toml"]⟩ "[output]".toUTF8]).setting .empty none
      let ended := run s ["init-config", "--force", "--output", "c.toml"]
      ended.1.map (·.exit) = .ok 1 ∧ s.tree.get? ["w", "c.toml"] = some (.file "[output]".toUTF8) ∧
        ended.2.get? ["w", "c.toml"] = some (.file "[display".toUTF8)) :=
  ⟨exists_directory_after_refusal, by decide +kernel⟩

end Session

end StructuredQuery
