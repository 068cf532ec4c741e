import StructuredQuery.Proofs.CommandLine.Calls
import StructuredQuery.Proofs.Files.Rooted

/-!
What a run leaves of the file system. Only `init-config` changes it, and only by the directories and the file of the
path that it is to write to. The file is emptied before it is written, so a write that breaks off leaves what was
written by then.
-/

namespace StructuredQuery

/-! ## The message of success -/

namespace Text.Markup

theorem meets_close (styles : List (List Char)) (name : List Char) :
    Meets (fun _ => True) (· = .styleNotOpen) (close styles name) := by
  unfold close
  split
  · split
    · exact rfl
    · trivial
  · split
    · trivial
    · exact rfl

/-- The one failure of printing a message is that a style is closed that is not open. -/
theorem meets_renderPieces (pieces : List Piece) (styles : List (List Char)) :
    Meets (fun _ => True) (· = .styleNotOpen) (renderPieces styles pieces) := by
  induction pieces generalizing styles with
  | nil => trivial
  | cons piece rest ih =>
    cases piece with
    | plain text => exact (ih styles).map fun _ _ => trivial
    | mark backslashes body =>
      have hrest (shown : List Char) (styles : List (List Char)) : Meets (fun _ => True) (· = .styleNotOpen)
          (renderPieces styles rest >>= fun cs => .ok (shown ++ cs)) :=
        (ih styles).bind fun _ _ _ => trivial
      rw [renderPieces]
      dsimp only
      split
      · exact hrest _ styles
      · split
        · exact (meets_close styles _).bind fun styles _ _ => hrest _ styles
        · exact hrest _ _

end Text.Markup

namespace Path

/-- Names none of which leads back are all kept. -/
theorem collapse_of_not_mem {parts : List String} (h : ".." ∉ parts) : collapse parts = parts := by
  have hkept : ∀ (parts done : List String), ".." ∉ parts →
      parts.foldl (fun done part => if part = ".." then done.dropLast else done ++ [part]) done = done ++ parts := by
    intro parts
    induction parts with
    | nil => exact fun done _ => (List.append_nil done).symm
    | cons part parts ih =>
      intro done h
      simp only [List.mem_cons, not_or] at h
      rw [List.foldl_cons, if_neg (Ne.symm h.1), ih _ h.2, List.append_assoc, List.singleton_append]
  exact hkept parts [] h

end Path

namespace Config

def defaultText : String :=
  "[display]\ncolored_output = true\n\n[output]\nformat = \"text\"\nindent = 2\n"

theorem encode_default : default.encode = .ok defaultText := by
  decide +kernel

theorem fullPath_some (place : Place) (p : Path) :
    fullPath place (some p) = p.expandHome place >>= fun p => p.resolve place.directory := by
  rfl

/-- A path in full begins at the root, no name in it leads back, and it stays as it is when it is read again, but for
null characters. -/
theorem fullPath_eq_ok {place : Place} {path : Option Path} {full : Path} (h : fullPath place path = .ok full) :
    full.root = "/" ∧ ".." ∉ full.parts ∧
      fullPath place (some full) = if full.parts.any Path.hasNull then .error .nullCharacter else .ok full := by
  obtain ⟨given, -, h⟩ := bind_eq_ok_iff.1 h
  obtain ⟨expanded, -, hresolve⟩ := bind_eq_ok_iff.1 h
  obtain ⟨hroot, hback⟩ := Path.resolve_eq_ok hresolve
  refine ⟨hroot, hback, ?_⟩
  obtain ⟨root, parts⟩ := full
  obtain rfl : root = "/" := hroot
  have hempty : "/".isEmpty = false := by decide
  have hexpand : Path.expandHome place ⟨"/", parts⟩ = .ok ⟨"/", parts⟩ := by
    cases parts <;> simp [Path.expandHome, hempty]
  rw [fullPath_some, hexpand]
  change Path.resolve place.directory ⟨"/", parts⟩ = _
  simp only [Path.resolve, hempty, Bool.false_eq_true, if_false, Path.collapse_of_not_mem hback]

/-- The settings by default are saved by writing their text, unless there are null characters in the path. -/
theorem save_default {place : Place} {path : Option Path} {full : Path} (h : fullPath place path = .ok full)
    (tree : FileTree) :
    default.save tree place (some full) =
      if full.parts.any Path.hasNull then (.error .nullCharacter, tree)
      else ((tree.write place.directory full defaultText.toUTF8).1.map fun () => full,
        (tree.write place.directory full defaultText.toUTF8).2) := by
  rw [save, Option.some_or, (fullPath_eq_ok h).2.2, encode_default]
  split_ifs
  · rfl
  · cases hw : tree.write place.directory full defaultText.toUTF8 with
    | mk done made => cases done <;> simp only [hw] <;> rfl

end Config

namespace CommandLine

open FileTree (MadeAlong Leaves)

variable {args : List String} {s : Setting} {o : Opening} {a : Arguments}

/-! ## The command that writes -/

/-- The path in full that `init-config` is to write to: the one that is named, else the one by default. -/
def Targets (s : Setting) (a : Arguments) (full : Path) : Prop :=
  ∃ named, (a.get? "--output").mapM namedPath = .ok named ∧ Config.fullPath s.place named = .ok full

def Reports (out : Outcome) (full : Path) : Prop :=
  ∃ report, markedLine ("[success]Created config file: " ++ full.text ++ "[/success]") = .ok report ∧
    out.stdout = report ++ line "Edit this file to customize your settings."

theorem meets_markedLine (text : String) : Meets (fun _ => True) (· = .styleNotOpen) (markedLine text) :=
  (Text.Markup.meets_renderPieces _ []).map fun _ _ => trivial

/-- The settings by default are to be written to a path, where nothing is or what is there may be overwritten. -/
structure Writes (s : Setting) (a : Arguments) (full : Path) : Prop where
  target : Targets s a full
  root : full.root = "/"
  back : ".." ∉ full.parts
  null : full.parts.any Path.hasNull = false
  free : a.has "--force" = true ∨ s.tree.exists? s.place.directory full = .ok false

abbrev defaultBytes : ByteArray := Config.defaultText.toUTF8

/-- Writing the settings leaves the file whole, cut short or untouched. -/
theorem Writes.leaves {full : Path} (h : Writes s a full) :
    Leaves s.tree full defaultBytes (s.tree.write s.place.directory full defaultBytes) :=
  FileTree.leaves_write s.tree s.place.directory h.root h.back h.null defaultBytes

/-- The ends of a run of `init-config`, with the file system that it leaves. -/
inductive InitEnds (s : Setting) (a : Arguments) : Except Escape Outcome × FileTree → Prop
  /-- The run stops before anything is written. -/
  | stopped (result : Except Escape Outcome) (h : ∀ out, result = .ok out → out.exit ≠ 0) :
      InitEnds s a (result, s.tree)
  /-- The file system refuses the file, or a directory on the way to it, or the write breaks off. -/
  | refused (full : Path) (out : Outcome) (f : Fault) (made : FileTree) (h : Writes s a full)
      (hw : s.tree.write s.place.directory full defaultBytes = (.error f, made)) (he : out.exit ≠ 0) :
      InitEnds s a (.ok out, made)
  /-- The file is written; only the report of that may fail. -/
  | written (full : Path) (result : Except Escape Outcome) (made : FileTree) (h : Writes s a full)
      (hw : s.tree.write s.place.directory full defaultBytes = (.ok (), made))
      (ho : ∀ out, result = .ok out → out.exit = 0 ∧ Reports out full)
      (hf : ∀ e, result = .error e → e.fault = .styleNotOpen) : InitEnds s a (result, made)

theorem initEnds_createConfig {full : Path} (ht : Targets s a full) :
    InitEnds s a (createConfig s full (a.has "--force")) := by
  -- one case for each place where the command may stop: looking up the path, the file there, the write, the report
  obtain ⟨named, -, hfull⟩ := id ht
  obtain ⟨hroot, hback, -⟩ := Config.fullPath_eq_ok hfull
  unfold createConfig
  split
  · exact .stopped _ fun out h => by cases h
  · next present hexists =>
    split
    · refine .stopped _ fun out h => ?_
      obtain rfl := Except.ok.inj h
      exact Nat.one_ne_zero
    · next hfree =>
      rw [Config.save_default hfull]
      cases hn : full.parts.any Path.hasNull with
      | true => exact .stopped _ fun out h => by cases h
      | false =>
        have hwrites : Writes s a full := by
          refine ⟨ht, hroot, hback, hn, ?_⟩
          cases present <;> simp_all
        have hleaves := hwrites.leaves
        cases hw : s.tree.write s.place.directory full defaultBytes with
        | mk done made =>
          rw [hw] at hleaves
          cases done with
          | error f =>
            obtain ⟨fault, rfl⟩ : ∃ fault, f = .file fault := by
              cases hleaves with
              | refused fault => exact ⟨fault, rfl⟩
              | cut => exact ⟨_, rfl⟩
            exact .refused full _ _ made hwrites hw Nat.one_ne_zero
          | ok _ =>
            have hmarked := meets_markedLine ("[success]Created config file: " ++ full.text ++ "[/success]")
            refine .written full _ made hwrites hw (fun out ho => ?_) fun e he => ?_
            · obtain ⟨report, hr, rfl⟩ := map_eq_ok_iff.1 ho
              exact ⟨rfl, report, mapError_eq_ok_iff.1 hr, rfl⟩
            · obtain ⟨f, hf, rfl⟩ := mapError_eq_error_iff.1 (map_eq_error_iff.1 he)
              exact hmarked.of_error hf

/-- Every run of `init-config` ends in one of these ways. -/
theorem initEnds_initConfig (s : Setting) (a : Arguments) : InitEnds s a (initConfig s a) := by
  unfold initConfig
  split
  · exact .stopped _ fun out h => by cases h
  · next named hnamed =>
    split
    · refine .stopped _ fun out h => ?_
      obtain rfl := Except.ok.inj h
      exact Nat.succ_ne_zero 1
    · split
      · exact .stopped _ fun out h => by cases h
      · next full hfull => exact initEnds_createConfig ⟨named, hnamed, hfull⟩

/-- A file whose name is too long is refused after the directories on the way to it are made. -/
theorem initConfig_of_nameLimit {full : Path} (names : List String) (name : String) (ht : Targets s a full)
    (ho : a.others = []) (hp : full.parts = names ++ [name]) (hl : FileTree.nameLimit < name.utf8ByteSize)
    (hnull : full.parts.any Path.hasNull = false) (hfree : s.tree.exists? s.place.directory full = .ok false) :
    ∃ message, initConfig s a = (.ok (.failure 1 message none),
      (s.tree.makeDirectories s.place.directory ⟨"/", names⟩).2) := by
  obtain ⟨named, hnamed, hfull⟩ := id ht
  obtain ⟨hroot, hback, -⟩ := Config.fullPath_eq_ok hfull
  obtain ⟨f, hw⟩ := FileTree.write_of_nameLimit hl s.tree s.place.directory names full.root defaultBytes
  rw [← hp] at hw
  have hleaves := FileTree.leaves_write s.tree s.place.directory hroot hback hnull defaultBytes
  rw [hw] at hleaves
  obtain ⟨fault, rfl⟩ : ∃ fault, f = .file fault := by
    generalize (s.tree.makeDirectories s.place.directory ⟨full.root, names⟩).2 = made at hleaves
    cases hleaves with
    | refused fault => exact ⟨fault, rfl⟩
    | cut => exact ⟨_, rfl⟩
  refine ⟨"Failed to write config file: " ++ fault.message, ?_⟩
  rw [initConfig, hnamed]
  simp only [ho, List.isEmpty_nil, Bool.not_true, Bool.false_eq_true, if_false, hfull, createConfig, hfree,
    Bool.false_and, Config.save_default hfull, hnull, hw, ← hroot]
  rfl

/-- Warnings before the messages change nothing else. -/
theorem InitEnds.after {result : Except Escape Outcome} {tree : FileTree} (h : InitEnds s a (result, tree))
    (first : String) : InitEnds s a (after first result, tree) := by
  -- the warnings are put before the messages of an outcome and leave its exit code
  have hok {result : Except Escape Outcome} {P : Outcome → Prop}
      (hP : ∀ out, P out → P { out with stderr := first ++ out.stderr })
      (h : ∀ out, result = .ok out → P out) : ∀ out, CommandLine.after first result = .ok out → P out := by
    intro out ho
    cases result with
    | error e => cases ho
    | ok shown =>
      obtain rfl := Except.ok.inj ho
      exact hP shown (h shown rfl)
  cases h with
  | stopped _ h => exact .stopped _ (hok (fun _ => id) h)
  | refused full out f _ h hw he => exact .refused full _ f tree h hw he
  | written full _ _ h hw ho hf =>
    refine .written full _ tree h hw (hok (P := fun out => out.exit = 0 ∧ Reports out full) (fun _ => id) ho) ?_
    intro e he
    cases result with
    | error e' =>
      obtain rfl := Except.error.inj he
      exact hf e' rfl
    | ok _ => cases he

/-- A run that names `init-config` behind the options of the program ends so. -/
theorem Calls.initEnds (h : Calls args o .initConfig a) (s : Setting) : InitEnds s a (run s args) := by
  obtain ⟨behind, hn, hr⟩ := h.named
  rw [hn.run_eq, runWithConfig]
  split
  · exact .stopped _ fun out h => by cases h
  · refine .stopped _ fun out h => ?_
    obtain rfl := Except.ok.inj h
    exact Nat.one_ne_zero
  · split
    · exact .stopped _ fun out h => by cases h
    · next first _ =>
      rw [runCommand_eq_perform hr h.asks]
      exact (initEnds_initConfig s a).after first

/-- A run that does not call `init-config` leaves the file system as it is. -/
theorem tree_of_not_calls (h : ∀ o a, ¬ Calls args o .initConfig a) (s : Setting) : (run s args).2 = s.tree := by
  -- every other command gives back the tree that it was given
  have hcommand {o : Opening} {word : String} {behind : List String} {command : Command}
      (ho : opening args = .ok (.inr o)) (hw : o.words = word :: behind) (hc : Command.ofText? word = some command) :
      (runWithConfig s o command behind).2 = s.tree := by
    unfold runWithConfig
    split
    · rfl
    · rfl
    · next c _ _ =>
      split
      · rfl
      · change (runCommand s c o.verbosity command behind).2 = s.tree
        unfold runCommand
        split
        · rfl
        · next a hr =>
          split
          · rfl
          · next hh =>
            have hnames : Names args o command behind := ⟨ho, word, hw, hc⟩
            cases command with
            | initConfig => exact absurd ⟨⟨behind, hnames, hr⟩, by simpa using hh⟩ (h o a)
            | _ => rfl
  unfold run
  split
  · rfl
  · rfl
  · next o ho =>
    split
    · rfl
    · next word behind hw =>
      split
      · next command hc => exact hcommand ho hw hc
      · rfl

/-! ## What a run keeps -/

def Forces (args : List String) : Prop :=
  ∃ o a, Calls args o .initConfig a ∧ a.has "--force" = true

/-- Without the option no file is overwritten. -/
theorem Calls.not_forces {command : Command} (h : Calls args o command a) (hf : a.has "--force" = false) :
    ¬ Forces args := by
  rintro ⟨o', a', h', hf'⟩
  obtain rfl := (h.unique h').2
  rw [hf] at hf'
  cases hf'

/-- Nothing has changed but at one place, and for directories made on the way to it. -/
def ChangedOnlyAt (place : List String) (tree tree' : FileTree) : Prop :=
  ∀ other ≠ place, tree'.get? other = tree.get? other ∨
    other <+: place.dropLast ∧ tree.get? other = none ∧ tree'.get? other = some .directory

/-- The file at a path has the settings by default, in directories that are there, and nothing else has changed but
for directories that were made on the way to it. A device has taken the settings if there is one in the place of the
file, and stays what it is. -/
structure HasWritten (full : Path) (tree tree' : FileTree) : Prop where
  file : tree'.get? full.parts = some (.file defaultBytes) ∧ tree.get? full.parts ≠ some .device ∨
    tree'.get? full.parts = some .device ∧ tree.get? full.parts = some .device
  way : ∀ place, place <+: full.parts.dropLast → tree'.get? place = some .directory
  others : ChangedOnlyAt full.parts tree tree'

/-- The file at a path has the first bytes of the settings by default alone, for it may not have them all, and nothing
else has changed but for directories that were made on the way to it. -/
structure HasCut (full : Path) (tree tree' : FileTree) : Prop where
  short : tree.taken defaultBytes ≠ defaultBytes
  file : tree'.get? full.parts = some (.file (tree.taken defaultBytes))
  others : ChangedOnlyAt full.parts tree tree'

structure Keeps (s : Setting) (args : List String) : Prop where
  /-- No command but `init-config` changes anything, nor does what stands before a command. -/
  others : (∀ o a, ¬ Calls args o .initConfig a) → (run s args).2 = s.tree
  /-- A run of `init-config` that ends well changes the file that it reports, and makes the directories for it. -/
  written : ∀ o a out, Calls args o .initConfig a → (run s args).1 = .ok out → out.exit = 0 →
    ∃ full, Targets s a full ∧ Reports out full ∧ HasWritten full s.tree (run s args).2
  /-- What is there is changed on request only. -/
  kept : ¬ Forces args → ∀ place e, s.tree.get? place = some e → (run s args).2.get? place = some e
  /-- A run that ends otherwise leaves all that was there as it was, but it may have made directories on the way to
  the file that it was to write. If that is begun and breaks off, the file has what was written by then. -/
  failed : ∀ out, (run s args).1 = .ok out → out.exit ≠ 0 → (run s args).2 = s.tree ∨
    ∃ o a full, Calls args o .initConfig a ∧ Targets s a full ∧
      (MadeAlong full.parts.dropLast s.tree (run s args).2 ∨ HasCut full s.tree (run s args).2)
  /-- A failure that leaves the run changes nothing, unless it comes from the marks in the message that the file is
  written. -/
  escaped : ∀ e, (run s args).1 = .error e → (run s args).2 = s.tree ∨
    e.fault = .styleNotOpen ∧ ∃ o a full, Calls args o .initConfig a ∧ Targets s a full ∧
      HasWritten full s.tree (run s args).2
  /-- Sound file systems stay sound. -/
  sound : (run s args).2.IsSound s.place.directory

variable {tree' made : FileTree} {full : Path}

/-- A new entry changes its place only. -/
theorem changedOnlyAt_put {place : List String} {tree : FileTree} (h : MadeAlong place.dropLast tree made) (e : Entry) :
    ChangedOnlyAt place tree (made.put place e) := by
  intro other ho
  rw [made.get?_put_of_ne e ho]
  exact h.places other

/-- A file is put at a place that takes one, so this is not the root. -/
theorem ne_nil_of_takesFile {place : List String} (h : made.TakesFile place) : place ≠ [] := by
  rintro rfl
  exact h.1 rfl

/-- A write that succeeds leaves the settings by default in the file, or in nothing that keeps them. -/
theorem Writes.hasWritten (h : Writes s a full) (hs : s.tree.IsSound s.place.directory)
    (hw : s.tree.write s.place.directory full defaultBytes = (.ok (), tree')) : HasWritten full s.tree tree' := by
  have hsound := hs.of_write hw
  -- whatever is there in the end, directories lead to it
  have hway {e : Entry} (hne : full.parts ≠ []) (hg : tree'.get? full.parts = some e) (place : List String)
      (hp : place <+: full.parts.dropLast) : tree'.get? place = some .directory := by
    obtain ⟨rest, hrest⟩ := hp
    have hparts : place ++ (rest ++ [full.parts.getLast hne]) = full.parts := by
      rw [← List.append_assoc, hrest, List.dropLast_concat_getLast]
    have hnames : rest ++ [full.parts.getLast hne] ≠ [] := by simp
    exact hsound.rooted.get?_of_append hnames (by rwa [hparts])
  have hleaves := h.leaves
  rw [hw] at hleaves
  generalize hended : (Except.ok () : Except Fault Unit) = done at hleaves
  cases hleaves with
  | refused => cases hended
  | cut => cases hended
  | swallowed _ hm hd =>
    have hne : full.parts ≠ [] := by
      intro hnil
      rw [hnil] at hd
      cases hd
    have hg := hm.get?_eq hd
    exact ⟨.inr ⟨hg, hd⟩, hway hne hg, fun other _ => hm.places other⟩
  | written made hm hp ht =>
    have hne := ne_nil_of_takesFile hp
    have hg := made.get?_put_self (.file defaultBytes) hne
    exact ⟨.inl ⟨hg, fun hd => hp.2 (hm.get?_eq hd)⟩, hway hne hg, changedOnlyAt_put hm _⟩

/-- A write that is refused leaves directories alone, or the first bytes of the file. -/
theorem Writes.madeAlong_or_hasCut (h : Writes s a full) {f : Fault}
    (hw : s.tree.write s.place.directory full defaultBytes = (.error f, tree')) :
    MadeAlong full.parts.dropLast s.tree tree' ∨ HasCut full s.tree tree' := by
  have hleaves := h.leaves
  rw [hw] at hleaves
  generalize hended : (Except.error f : Except Fault Unit) = done at hleaves
  cases hleaves with
  | swallowed => cases hended
  | written => cases hended
  | refused _ _ hm => exact .inl hm
  | cut made hm hp ht =>
    exact .inr ⟨ht, made.get?_put_self _ (ne_nil_of_takesFile hp), changedOnlyAt_put hm _⟩

/-- Without a request nothing is written where something is. -/
theorem Writes.get?_eq_none (h : Writes s a full) (hs : s.tree.IsSound s.place.directory)
    (hf : a.has "--force" ≠ true) : s.tree.get? full.parts = none :=
  hs.rooted.get?_of_not_exists h.root h.back h.null (h.free.resolve_left hf)

/-- All that was there before is there still. -/
theorem ChangedOnlyAt.get?_eq {place other : List String} {tree : FileTree} {e : Entry}
    (h : ChangedOnlyAt place tree tree') (hn : tree.get? place = none) (hg : tree.get? other = some e) :
    tree'.get? other = some e := by
  have hne : other ≠ place := by
    rintro rfl
    rw [hn] at hg
    cases hg
  rcases h other hne with hk | ⟨-, ho, -⟩
  · exact hk.trans hg
  · rw [ho] at hg
    cases hg

variable {ended : Except Escape Outcome × FileTree}

/-- The file system stays one. -/
theorem InitEnds.sound (h : InitEnds s a ended) (hs : s.tree.IsSound s.place.directory) :
    ended.2.IsSound s.place.directory := by
  cases h with
  | stopped _ _ => exact hs
  | refused _ _ _ _ _ hw _ => exact hs.of_write hw
  | written _ _ _ _ hw _ _ => exact hs.of_write hw

/-- A run that ends with 0 has written the file that it reports. -/
theorem InitEnds.exists_hasWritten (h : InitEnds s a ended) (hs : s.tree.IsSound s.place.directory) {out : Outcome}
    (hr : ended.1 = .ok out) (he : out.exit = 0) :
    ∃ full, Targets s a full ∧ Reports out full ∧ HasWritten full s.tree ended.2 := by
  cases h with
  | stopped _ h => exact absurd he (h out hr)
  | refused _ _ _ _ _ _ he' => exact absurd he (Except.ok.inj hr ▸ he')
  | written full _ _ h hw ho _ => exact ⟨full, h.target, (ho out hr).2, h.hasWritten hs hw⟩

/-- Without a request all that is there is kept, for nothing was where the settings are written. -/
theorem InitEnds.kept (h : InitEnds s a ended) (hs : s.tree.IsSound s.place.directory)
    (hf : a.has "--force" ≠ true) {place : List String} {e : Entry} (hg : s.tree.get? place = some e) :
    ended.2.get? place = some e := by
  cases h with
  | stopped _ _ => exact hg
  | refused full _ _ _ h hw _ =>
    rcases h.madeAlong_or_hasCut hw with hm | hc
    · exact hm.get?_eq hg
    · exact hc.others.get?_eq (h.get?_eq_none hs hf) hg
  | written full _ _ h hw _ _ => exact (h.hasWritten hs hw).others.get?_eq (h.get?_eq_none hs hf) hg

/-- A run that ends otherwise has changed nothing, made directories only, or cut the file short. -/
theorem InitEnds.failed (h : InitEnds s a ended) {out : Outcome} (hr : ended.1 = .ok out) (he : out.exit ≠ 0) :
    ended.2 = s.tree ∨ ∃ full, Targets s a full ∧
      (MadeAlong full.parts.dropLast s.tree ended.2 ∨ HasCut full s.tree ended.2) := by
  cases h with
  | stopped _ _ => exact .inl rfl
  | refused full _ _ _ h hw _ => exact .inr ⟨full, h.target, h.madeAlong_or_hasCut hw⟩
  | written full _ _ _ _ ho _ => exact absurd (ho out hr).1 he

/-- An exception changes nothing, unless the report was the one thing that could not be printed. -/
theorem InitEnds.escaped (h : InitEnds s a ended) (hs : s.tree.IsSound s.place.directory) {e : Escape}
    (hr : ended.1 = .error e) : ended.2 = s.tree ∨
      e.fault = .styleNotOpen ∧ ∃ full, Targets s a full ∧ HasWritten full s.tree ended.2 := by
  cases h with
  | stopped _ _ => exact .inl rfl
  | refused _ _ _ _ _ _ _ => cases hr
  | written full _ _ h hw _ hf => exact .inr ⟨hf e hr, full, h.target, h.hasWritten hs hw⟩

/-- What every run leaves of the file system, whatever its arguments. -/
theorem keeps_run (hs : s.tree.IsSound s.place.directory) (args : List String) : Keeps s args := by
  by_cases hc : ∃ o a, Calls args o .initConfig a
  · obtain ⟨o, a, hc⟩ := hc
    have hends := hc.initEnds s
    exact
      { others := fun h => absurd hc (h o a)
        written := fun o' a' out h hr he => (h.initEnds s).exists_hasWritten hs hr he
        kept := fun hf place e hg => hends.kept hs (fun h => hf ⟨o, a, hc, h⟩) hg
        failed := fun out hr he => (hends.failed hr he).imp_right fun ⟨full, h⟩ => ⟨o, a, full, hc, h⟩
        escaped := fun e hr => (hends.escaped hs hr).imp_right fun ⟨hf, full, h⟩ => ⟨hf, o, a, full, hc, h⟩
        sound := hends.sound hs }
  · have hcalls : ∀ o a, ¬ Calls args o .initConfig a := fun o a h => hc ⟨o, a, h⟩
    have htree := tree_of_not_calls hcalls s
    exact
      { others := fun _ => htree
        written := fun o a out h => absurd h (hcalls o a)
        kept := fun _ place e hg => htree ▸ hg
        failed := fun _ _ _ => .inl htree
        escaped := fun _ _ => .inl htree
        sound := htree ▸ hs }

end CommandLine

end StructuredQuery
