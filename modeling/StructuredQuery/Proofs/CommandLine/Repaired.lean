import StructuredQuery.Proofs.CommandLine.Configured
import StructuredQuery.Proofs.CommandLine.Kept

/-!
Settings that are written anew. The command `init-config` on request replaces whatever the file of settings holds, but
a run loads the settings before it starts the command: a file that cannot be loaded stops the run that was to replace
it.
-/

namespace StructuredQuery

/-! ## Where a file may be written -/

namespace FileTree

variable {tree made : FileTree} {directory : List String} {p : Path}

/-- A way over directories, some of which were made on it, led to the same place before, or over a place where nothing
was. -/
theorem MadeAlong.walk_cases {names parts place dest : List String} (h : MadeAlong names tree made)
    (hw : made.walk place parts = .ok dest) :
    tree.walk place parts = .ok dest ∨ tree.walk place parts = .error .missing := by
  induction parts generalizing place with
  | nil => exact .inl hw
  | cons name rest ih =>
    rw [walk] at hw ⊢
    split at hw
    · next hd =>
      rcases h.places place with hk | ⟨-, hn, -⟩
      · rw [← hk, hd]
        dsimp only
        split at hw
        · cases hw
        · next hlong =>
          rw [if_neg hlong]
          exact ih hw
      · rw [hn]
        exact .inr rfl
    · cases hw
    · cases hw

/-- A place that is found among new directories was found before, or its way was missing. -/
theorem MadeAlong.locate_cases {names place : List String} (h : MadeAlong names tree made)
    (hl : made.locate directory p = .ok place) :
    tree.locate directory p = .ok place ∨ tree.locate directory p = .error (.file ⟨.missing, p.text⟩) := by
  unfold locate at hl ⊢
  dsimp only at hl ⊢
  split at hl
  · cases hl
  · next hnull =>
    split at hl
    · cases hl
    · next hlength =>
      rw [if_neg hnull, if_neg hlength]
      cases hw : made.walk (if p.root.isEmpty then directory else []) p.parts with
      | error cause =>
        rw [hw] at hl
        cases hl
      | ok dest =>
        rw [hw] at hl
        obtain rfl : dest = place := Except.ok.inj hl
        rcases h.walk_cases hw with hk | hm
        · rw [hk]
          exact .inl rfl
        · rw [hm]
          exact .inr rfl

/-- Where a file may be written there is nothing, or a file that may be read. -/
theorem Writable.vacant_or_read {content : ByteArray} (h : tree.Writable directory p content) (hroot : p.root = "/")
    (hp : ".." ∉ p.parts) :
    tree.exists? directory p = .ok false ∨ ∃ given, tree.read directory p = .ok given := by
  obtain ⟨-, made, -, hmade, hl, hput⟩ := h.exists_made hroot hp
  rcases hmade.locate_cases hl with hk | hn
  · rw [exists?, read, hk]
    cases hg : tree.get? p.parts with
    | none => exact .inl (by simp only [hg, Option.isSome_none])
    | some e =>
      cases e with
      | directory => exact absurd (hmade.get?_eq hg) hput.1
      | device => exact absurd hg h.lasts
      | file given =>
        refine .inr ⟨given, ?_⟩
        simp only [bind, Except.bind, hg]
        rfl
  · rw [exists?, hn]
    exact .inl rfl

end FileTree

/-! ## The report -/

namespace Text.Markup

theorem mark?_of_ne {c : Char} (h : c ≠ '[') (rest : List Char) : mark? (c :: rest) = none := by
  unfold mark?
  split
  · next heq => exact absurd (List.cons.inj heq).1 h
  · rfl

/-- At a mark the text in front of it is a part of its own. -/
theorem piecesFrom_of_mark {before cs body after : List Char} (h : mark? cs = some (body, after)) :
    piecesFrom before cs = .plain (before.drop (before.takeWhile (· = '\\')).length).reverse ::
      .mark (before.takeWhile (· = '\\')).length body :: piecesFrom [] after := by
  cases cs with
  | nil => cases h
  | cons c rest =>
    rw [piecesFrom]
    split
    · next hn =>
      rw [h] at hn
      cases hn
    · next heq =>
      obtain ⟨rfl, rfl⟩ := Prod.mk.inj (Option.some.inj (h.symm.trans heq))
      rfl

/-- Behind a text without brackets the mark that ends the report is a part of its own. -/
theorem exists_piecesFrom_success {text : List Char} (h : '[' ∉ text) (before : List Char) :
    ∃ shown backslashes, piecesFrom before (text ++ "[/success]".toList) =
      [.plain shown, .mark backslashes "/success".toList, .plain []] := by
  induction text generalizing before with
  | nil =>
    have hmark : mark? "[/success]".toList = some ("/success".toList, []) := by decide
    have hend : piecesFrom [] [] = [.plain []] := by rw [piecesFrom, List.reverse_nil]
    rw [List.nil_append, piecesFrom_of_mark hmark, hend]
    exact ⟨_, _, rfl⟩
  | cons c rest ih =>
    simp only [List.mem_cons, not_or] at h
    obtain ⟨shown, backslashes, hp⟩ := ih h.2 (c :: before)
    refine ⟨shown, backslashes, ?_⟩
    rw [List.cons_append, piecesFrom]
    split
    · exact hp
    · next heq =>
      rw [mark?_of_ne (Ne.symm h.1)] at heq
      cases heq

/-- A text without brackets is printed between the marks of the report. -/
theorem exists_render_success {text : List Char} (h : '[' ∉ text) :
    ∃ shown, render ("[success]".toList ++ (text ++ "[/success]".toList)) = .ok shown := by
  obtain ⟨shown, backslashes, hp⟩ := exists_piecesFrom_success h []
  have hmark : mark? ("[success]".toList ++ (text ++ "[/success]".toList)) =
      some ("success".toList, text ++ "[/success]".toList) := by
    rfl
  -- the mark at the end closes the style, or it is printed behind a backslash
  have hrest : ∃ cs, renderPieces ["success".toList]
      [.plain shown, .mark backslashes "/success".toList, .plain []] = .ok cs := by
    have hclose : close ["success".toList] (styleName "success".toList) = .ok [] := by decide +kernel
    rw [renderPieces, renderPieces]
    dsimp only
    split
    · exact ⟨_, rfl⟩
    · change ∃ cs, Except.map _ (close ["success".toList] (styleName "success".toList) >>= _) = _
      rw [hclose]
      exact ⟨_, rfl⟩
  obtain ⟨cs, hcs⟩ := hrest
  have hopens : styleName "success".toList = "success".toList := by decide +kernel
  rw [render, pieces, piecesFrom_of_mark hmark, hp, renderPieces, renderPieces]
  change ∃ shown, Except.map _ (renderPieces [styleName "success".toList] _ >>= _) = _
  rw [hopens, hcs]
  exact ⟨_, rfl⟩

end Text.Markup

/-! ## Loading before and after -/

namespace Config

variable {tree : FileTree} {place : Place} {path : Option Path} {full : Path}

/-- Where there is no file the settings are those by default. -/
theorem exists_load_of_not_exists (hp : fullPath place path = .ok full)
    (hn : tree.exists? place.directory full = .ok false) :
    ∃ warnings, load tree place path = .ok (default, warnings) := by
  have hvalid : default.validate = .ok (default, []) := validate_of_valid (by decide) (by decide)
  rw [load, hp]
  simp only [bind, Except.bind, liftM, monadLift, MonadLift.monadLift, Except.mapError, hn, hvalid, Bool.false_eq_true,
    if_false]
  exact ⟨_, rfl⟩

/-- The settings by default are loaded from their text, and nothing is to be put right. -/
theorem load_defaultText (hp : fullPath place path = .ok full)
    (ht : tree.read place.directory full = .ok defaultText.toUTF8) :
    load tree place path = .ok ({ default with path := some full }, []) := by
  have htext : ofText defaultText full = .ok { default with path := some full } := by
    rw [ofText, decode_of_encode encode_default]
    dsimp only
    rw [ofData_tables]
  rw [load_of_read hp ht, FileTree.decode_toUTF8]
  change (ofText defaultText full >>= fun c => liftM c.validate) = _
  rw [htext]
  change (liftM (validate { default with path := some full }) : Except Error _) = _
  have hformat : outputFormats.contains default.outputFormat := by decide
  have hindent : ¬default.indent < 0 := by decide
  rw [validate_of_valid (c := { default with path := some full }) hformat hindent]
  rfl

end Config

namespace CommandLine

open Config

variable {s : Setting} {full : Path} {args : List String} {o : Opening} {a : Arguments}

/-- The report of a file at a path, which may fail for the marks in the path. -/
def reported (full : Path) : Except Escape Outcome :=
  ((markedLine ("[success]Created config file: " ++ full.text ++ "[/success]")).mapError .of).map fun report =>
    .success (report ++ line "Edit this file to customize your settings.")

/-- A run has put the settings by default in the file at a path. -/
structure Repaired (s : Setting) (full : Path) (first : String) (ended : Except Escape Outcome × FileTree) : Prop where
  /-- They are what is loaded from now on, without a warning. -/
  loaded : load ended.2 s.place none = .ok ({ Config.default with path := some full }, [])
  /-- Behind the warnings that it began with, the run reports the path, or the report fails for the marks in it. -/
  report : ended.1 = after first (reported full)
  /-- A path without brackets is reported, and the run ends well. -/
  ends : '[' ∉ full.text.toList → ∃ out, ended.1 = .ok out ∧ out.exit = 0

/-- How a run ends that is to replace the settings by default. -/
inductive RepairEnds (s : Setting) (v : Verbosity) (full : Path) (ended : Except Escape Outcome × FileTree) : Prop
  /-- There is no file, and one is made. -/
  | vacant (first : String) (hn : s.tree.exists? s.place.directory full = .ok false)
      (hr : Repaired s full first ended)
  /-- The settings of the file are loaded, and then they are replaced. -/
  | replaced (content : ByteArray) (text first : String) (found : Config × List String)
      (hc : s.tree.read s.place.directory full = .ok content) (ht : String.fromUTF8? content = some text)
      (hl : LoadEnds text full (.ok found)) (hw : told v found.2 = .ok first) (hr : Repaired s full first ended)
  /-- The settings of the file are refused, and it stays as it is: they are refused from now on, too. -/
  | kept (content : ByteArray) (text : String) (e : Error) (hc : s.tree.read s.place.directory full = .ok content)
      (ht : String.fromUTF8? content = some text) (hl : LoadEnds text full (.error e))
      (he : ended = (answer (fun e => .failure 1 e.message none) e, s.tree))
      (ha : load ended.2 s.place none = .error e)
  /-- The bytes of the file are no text, and it stays as it is. -/
  | undecodable (content : ByteArray) (hc : s.tree.read s.place.directory full = .ok content)
      (ht : String.fromUTF8? content = none) (he : ended = (.error (.of .undecodable), s.tree))
      (ha : load ended.2 s.place none = .error (.fault .undecodable))
  /-- The settings are loaded with warnings that are asked for and cannot be printed for the marks in them. -/
  | untold (found : Config × List String) (e : Escape) (hl : load s.tree s.place none = .ok found)
      (hw : told v found.2 = .error e) (he : ended = (.error e, s.tree))

/-- The report of a path without brackets is printed. -/
theorem exists_report {text : String} (h : '[' ∉ text.toList) :
    ∃ report, markedLine ("[success]Created config file: " ++ text ++ "[/success]") = .ok report := by
  have htext : ("[success]Created config file: " ++ text ++ "[/success]").toList =
      "[success]".toList ++ (("Created config file: " ++ text).toList ++ "[/success]".toList) := by
    simp only [String.toList_append, List.append_assoc]
    rfl
  have hnone : '[' ∉ ("Created config file: " ++ text).toList := by
    rw [String.toList_append, List.mem_append, not_or]
    exact ⟨by decide, h⟩
  obtain ⟨shown, hs⟩ := Text.Markup.exists_render_success hnone
  rw [markedLine, htext, hs]
  exact ⟨_, rfl⟩

/-- The command on request replaces what is there. -/
theorem exists_createConfig (hp : fullPath s.place none = .ok full)
    (hw : s.tree.Writable s.place.directory full defaultBytes) :
    ∃ tree', createConfig s full true = (reported full, tree') ∧
      load tree' s.place none = .ok ({ Config.default with path := some full }, []) := by
  obtain ⟨hroot, hback, -⟩ := fullPath_eq_ok hp
  obtain ⟨hnull, -⟩ := hw.exists_made hroot hback
  obtain ⟨tree', hwrite, -, hread⟩ := hw.exists_write hroot hback
  obtain ⟨present, hexists⟩ : ∃ present, s.tree.exists? s.place.directory full = .ok present :=
    (hw.vacant_or_read hroot hback).elim (fun hn => ⟨_, hn⟩) fun ⟨_, ht⟩ => ⟨_, FileTree.exists?_of_read ht⟩
  refine ⟨tree', ?_, load_defaultText hp hread⟩
  rw [createConfig, hexists]
  simp only [Bool.not_true, Bool.and_false, Bool.false_eq_true, if_false, save_default hp, hnull, hwrite]
  rfl

section

variable (hc : Calls args o .initConfig a) (hf : a.has "--force" = true) (hd : a.get? "--output" = none)
  (hb : a.others = []) (hp : fullPath s.place none = .ok full)
  (hw : s.tree.Writable s.place.directory full defaultBytes)

include hc hf hd hb hp hw

/-- Once the settings that the run begins with are loaded, it replaces what is there. -/
theorem repaired_of_told {found : Config × List String} {first : String}
    (hl : load s.tree s.place o.config = .ok found) (ht : told o.verbosity found.2 = .ok first) :
    Repaired s full first (run s args) := by
  obtain ⟨tree', hcreate, hloaded⟩ := exists_createConfig hp hw
  have hinit : initConfig s a = (reported full, tree') := by
    have hnamed : (none : Option String).mapM namedPath = .ok none := rfl
    rw [initConfig, hd, hnamed]
    simp only [hb, hp, hf, List.isEmpty_nil, Bool.not_true, Bool.false_eq_true, if_false, hcreate]
  rw [hc.run_eq hl ht, perform, hinit]
  refine ⟨hloaded, rfl, fun hbrackets => ?_⟩
  obtain ⟨report, hreport⟩ := exists_report hbrackets
  dsimp only
  rw [reported, hreport]
  exact ⟨_, rfl, rfl⟩

/-- The settings that a run begins with are those in the file to replace, unless another is named. -/
theorem repairEnds_run (ho : o.config = none) : RepairEnds s o.verbosity full (run s args) := by
  obtain ⟨behind, hn, -⟩ := hc.named
  have hrepaired {found : Config × List String} {first : String} (hl : load s.tree s.place none = .ok found)
      (ht : told o.verbosity found.2 = .ok first) : Repaired s full first (run s args) :=
    repaired_of_told hc hf hd hb hp hw (ho ▸ hl) ht
  have huntold {found : Config × List String} {e : Escape} (hl : load s.tree s.place none = .ok found)
      (ht : told o.verbosity found.2 = .error e) : run s args = (.error e, s.tree) := by
    rw [hn.run_eq, runWithConfig, ho, hl]
    simp only [ht]
  obtain ⟨hroot, hback, -⟩ := fullPath_eq_ok hp
  rcases hw.vacant_or_read hroot hback with hvacant | ⟨content, hread⟩
  · obtain ⟨warnings, hl⟩ := exists_load_of_not_exists hp hvacant
    cases ht : told o.verbosity warnings with
    | ok first => exact .vacant first hvacant (hrepaired hl ht)
    | error e => exact .untold _ e hl ht (huntold hl ht)
  · cases htext : String.fromUTF8? content with
    | none =>
      have hl := load_of_noText hp hread htext
      have hrun := hn.run_of_not_loaded (ho ▸ hl)
      exact .undecodable content hread htext hrun (hrun ▸ hl)
    | some text =>
      have hends := loadEnds_load hp hread htext
      cases hl : load s.tree s.place none with
      | error e =>
        rw [hl] at hends
        have hrun := hn.run_of_not_loaded (ho ▸ hl)
        exact .kept content text e hread htext hends hrun (hrun ▸ hl)
      | ok found =>
        rw [hl] at hends
        cases ht : told o.verbosity found.2 with
        | ok first => exact .replaced content text first found hread htext hends ht (hrepaired hl ht)
        | error e => exact .untold found e hl ht (huntold hl ht)

end

/-- Repair on request. A run of `init-config` that may overwrite the file of the settings by default, which can be
written, replaces whatever it holds, so that the settings by default are loaded from now on, if only the settings that
the run begins with are loaded and their warnings can be told. Those are the settings in this very file unless another
is named: so the run makes the file if there is none, replaces it if its settings are loaded, and else ends with what
is wrong with them and leaves the file as it is. -/
theorem repaired_of_forced (hc : Calls args o .initConfig a) (hf : a.has "--force" = true)
    (hd : a.get? "--output" = none) (hb : a.others = []) (hp : fullPath s.place none = .ok full)
    (hw : s.tree.Writable s.place.directory full defaultBytes) :
    (∀ found first, load s.tree s.place o.config = .ok found → told o.verbosity found.2 = .ok first →
        Repaired s full first (run s args)) ∧
      (o.config = none → RepairEnds s o.verbosity full (run s args)) :=
  ⟨fun _ _ hl ht => repaired_of_told hc hf hd hb hp hw hl ht, fun ho => repairEnds_run hc hf hd hb hp hw ho⟩

/-- The case of a negative indent, which is loaded and warned of, and of a text that is no TOML, behind another file
of settings. -/
theorem repaired_of_forced_twice :
    let s (text : String) : Setting := ⟨⟨"/w", [], ["w"]⟩, ⟨[(["w"], .directory), (["w", ".config"], .directory),
      (["w", ".config", "csquery"], .directory),
      (["w", ".config", "csquery", "config.toml"], .file text.toUTF8)], none⟩, .empty⟩
    let full : Path := ⟨"/", ["w", ".config", "csquery", "config.toml"]⟩
    (s "").tree.Writable ["w"] full defaultBytes ∧
      RepairEnds (s "[output]\nindent = -1") ⟨true, false, false⟩ full
        (run (s "[output]\nindent = -1") ["--verbose", "init-config", "--force"]) ∧
      Repaired (s "old content") full "" (run (s "old content") ["-c", "other.toml", "init-config", "-f"]) := by
  intro s full
  have hwritable (text : String) : (s text).tree.Writable ["w"] full defaultBytes :=
    ⟨⟨.empty, by rfl⟩, fun hd => Entry.noConfusion (Option.some.inj hd), rfl⟩
  have hcalls := calls_of_read? ["--verbose", "init-config", "--force"]
    ⟨[("--verbose", "")], ["init-config", "--force"]⟩ none .initConfig ⟨[("--force", "")], []⟩ (by decide +kernel)
    (by decide) rfl rfl (by decide) (by decide +kernel) (by decide)
  have hother := calls_of_read? ["-c", "other.toml", "init-config", "-f"]
    ⟨[("--config", "other.toml")], ["init-config", "-f"]⟩ (some ⟨"", ["other.toml"]⟩) .initConfig
    ⟨[("--force", "")], []⟩ (by decide +kernel) (by decide) (by decide +kernel) rfl (by decide) (by decide +kernel)
    (by decide)
  have hpath : fullPath ⟨"/w", [], ["w"]⟩ none = .ok full := by
    decide +kernel
  have hload : (load (s "old content").tree (s "old content").place
      (some ⟨"", ["other.toml"]⟩)).toOption.isSome := by
    decide +kernel
  have hforce : Arguments.has ⟨[("--force", "")], []⟩ "--force" = true := by decide +kernel
  have houtput : Arguments.get? ⟨[("--force", "")], []⟩ "--output" = none := by decide +kernel
  have hquiet : Arguments.has ⟨[("--config", "other.toml")], ["init-config", "-f"]⟩ "--verbose" = false := by
    decide +kernel
  have hindent := repaired_of_forced (s := s "[output]\nindent = -1") hcalls hforce houtput rfl hpath (hwritable _)
  have hold := repaired_of_forced (s := s "old content") hother hforce houtput rfl hpath (hwritable _)
  refine ⟨hwritable "", hindent.2 rfl, ?_⟩
  cases hl : load (s "old content").tree (s "old content").place (some ⟨"", ["other.toml"]⟩) with
  | error e =>
    rw [hl] at hload
    cases hload
  | ok found => exact hold.1 found "" hl (told_of_not_verbose hquiet found.2)

/-- A text that is no TOML is not replaced: the run on request ends with 1, and the settings are refused as before. -/
theorem old_content_stays :
    let s : Setting := ⟨⟨"/w", [], ["w"]⟩, ⟨[(["w"], .directory), (["w", ".config"], .directory),
      (["w", ".config", "csquery"], .directory),
      (["w", ".config", "csquery", "config.toml"], .file "old content".toUTF8)], none⟩, .empty⟩
    let full : Path := ⟨"/", ["w", ".config", "csquery", "config.toml"]⟩
    let ended := run s ["init-config", "--force"]
    fullPath s.place none = .ok full ∧ s.tree.Writable s.place.directory full defaultBytes ∧
      ended.1.map (·.exit) = .ok 1 ∧ ended.2.read s.place.directory full = .ok "old content".toUTF8 ∧
      (load ended.2 s.place none).toOption = none := by
  intro s full ended
  exact ⟨by decide +kernel, ⟨⟨.empty, by decide +kernel⟩, by decide +kernel, rfl⟩, by decide +kernel,
    by decide +kernel, by decide +kernel⟩

end CommandLine

end StructuredQuery
