import StructuredQuery.Proofs.CommandLine.Calls
import StructuredQuery.Proofs.Config
import StructuredQuery.Proofs.Toml.Decoding

/-!
How loading the settings ends. A file that is no TOML is refused, and so is a setting of the wrong kind; what
leaves loading otherwise is the failure of an integer of too many digits, or of a section that is no table.
-/

namespace StructuredQuery

namespace Config

/-! ## Sections -/

/-- A section in which a key cannot be looked up: it is no table, nor a list or a text without the key. -/
def Barred (key : String) : Value → Prop
  | .mapping _ => False
  | .list items => ∃ item ∈ items, item.text? = some key
  | .text s => Text.occursIn key.toList s.toList
  | _ => True

def under? (key : String) : Value → Option Value
  | .mapping entries => Mapping.get? key entries
  | _ => none

/-- Looking a key up fails for a barred section, and else gives what is under it. -/
theorem setting?_cases (table : Value) (key : String) :
    Barred key table ∧ setting? table key = .error .wrongKind ∨
      ¬ Barred key table ∧ setting? table key = .ok (under? key table) := by
  unfold setting?
  split
  · exact .inr ⟨id, rfl⟩
  -- membership in a list is by the texts among its items, so the test is put as the predicate first
  · next items =>
    have hany : (items.any fun item => item.text? == some key) = true ↔ Barred key (.list items) := by
      simp [Barred]
    split
    · next h => exact .inl ⟨hany.1 h, rfl⟩
    · next h => exact .inr ⟨fun hb => h (hany.2 hb), rfl⟩
  · split
    · next h => exact .inl ⟨h, rfl⟩
    · next h => exact .inr ⟨h, rfl⟩
  · next hm hl ht =>
    refine .inl ⟨?_, rfl⟩
    -- what is left is neither table, list nor text, and bars every key
    cases table with
    | mapping entries => exact absurd rfl (hm entries)
    | list items => exact absurd rfl (hl items)
    | text s => exact absurd rfl (ht s)
    | _ => trivial

/-! ## Looking settings up -/

/-- A setting that is looked up: its section and its key there, the values that it may have, and what is said of
others. -/
structure Lookup where
  table : String
  key : String
  fits : Value → Bool
  reason : String

namespace Lookup

def coloredOutput : Lookup where
  table := "display"
  key := "colored_output"
  fits
    | .bool _ => true
    | _ => false
  reason := "must be a boolean"

def outputFormat : Lookup where
  table := "output"
  key := "format"
  fits
    | .text _ => true
    | _ => false
  reason := "must be a string"

def indent : Lookup where
  table := "output"
  key := "indent"
  fits
    | .int _ => true
    | _ => false
  reason := "must be an integer"

def all : List Lookup := [coloredOutput, outputFormat, indent]

def name (k : Lookup) : String := k.table ++ "." ++ k.key

variable (k : Lookup) (entries : List (Value × Value))

def within : Value := (Mapping.get? k.table entries).getD (.mapping [])

def value? : Option Value := under? k.key (k.within entries)

/-- A setting may be looked up, and if there is a value for it then it fits. -/
structure Suits : Prop where
  unbarred : ¬ Barred k.key (k.within entries)
  fit : ∀ v ∈ k.value? entries, k.fits v

inductive Refuses : Error → Prop
  /-- There is a value for it that does not fit. -/
  | unfit (v : Value) (hb : ¬ Barred k.key (k.within entries)) (hv : k.value? entries = some v)
      (hf : k.fits v = false) : Refuses (.invalidSetting k.name k.reason)
  /-- Its section is none. -/
  | barred (hb : Barred k.key (k.within entries)) : Refuses (.fault .wrongKind)

def IsFirst : Prop :=
  ∃ before after, all = before ++ k :: after ∧ ∀ b ∈ before, b.Suits entries

/-- The value that is found for a setting, which is refused if it does not fit. -/
def look : Except Error (Option Value) := do
  let found ← setting? (k.within entries) k.key
  match found with
  | none => return none
  | some v => if k.fits v then return some v else throw (.invalidSetting k.name k.reason)

/-- A setting is looked up with success if it suits, and is refused else. -/
theorem meets_look : Meets (fun found => k.Suits entries ∧ found = k.value? entries) (k.Refuses entries)
    (k.look entries) := by
  unfold look
  -- a section that bars the key is a failure before the value is looked at
  rcases setting?_cases (k.within entries) k.key with ⟨hb, hs⟩ | ⟨hb, hs⟩
  · rw [hs]
    exact .barred hb
  · rw [hs]
    change Meets _ _ (match k.value? entries with
      | none => _
      | some v => _)
    cases hv : k.value? entries with
    | none => exact ⟨⟨hb, by simp [hv]⟩, rfl⟩
    | some v =>
      cases hf : k.fits v with
      | true =>
        dsimp only
        rw [if_pos hf]
        exact ⟨⟨hb, by simpa [hv] using hf⟩, rfl⟩
      | false =>
        dsimp only
        rw [if_neg (by simp [hf])]
        exact .unfit v hb hv hf

end Lookup

/-- The settings that found values give; those that are not found are as they are by default. -/
def ofFound (colored format indent : Option Value) (path : Path) : Config where
  coloredOutput := match colored with
    | some (.bool b) => b
    | _ => default.coloredOutput
  outputFormat := match format with
    | some (.text s) => s
    | _ => default.outputFormat
  indent := match indent with
    | some (.int n) => n
    | _ => default.indent
  path := some path

/-- The settings are looked up one after the other. -/
theorem ofData_eq (entries : List (Value × Value)) (path : Path) :
    ofData entries path = (do
      let colored ← Lookup.coloredOutput.look entries
      let format ← Lookup.outputFormat.look entries
      let indent ← Lookup.indent.look entries
      return ofFound colored format indent path) := by
  unfold ofData Lookup.look Lookup.within
  simp only [Lookup.coloredOutput, Lookup.outputFormat, Lookup.indent]
  -- a failure ends the search, and so does a value that does not fit
  rcases setting? ((Mapping.get? "display" entries).getD (.mapping [])) "colored_output" with f | _ | v
  case' ok.some => cases v
  any_goals rfl
  all_goals
    rcases setting? ((Mapping.get? "output" entries).getD (.mapping [])) "format" with f | _ | v
    case' ok.some => cases v
    any_goals rfl
  all_goals
    rcases setting? ((Mapping.get? "output" entries).getD (.mapping [])) "indent" with f | _ | v
    case' ok.some => cases v
    all_goals rfl

/-- The settings that suitable tables give; what they do not say is as it is by default. -/
def given (entries : List (Value × Value)) (path : Path) : Config :=
  ofFound (Lookup.coloredOutput.value? entries) (Lookup.outputFormat.value? entries) (Lookup.indent.value? entries)
    path

/-- The first setting that does not suit decides; if all suit, they are what the tables give. -/
theorem meets_ofData (entries : List (Value × Value)) (path : Path) :
    Meets (fun c => (∀ k ∈ Lookup.all, k.Suits entries) ∧ c = given entries path)
      (fun e => ∃ k : Lookup, k.IsFirst entries ∧ k.Refuses entries e) (ofData entries path) := by
  have hall {k : Lookup} (before after : List Lookup) (ha : Lookup.all = before ++ k :: after)
      (hb : ∀ b ∈ before, b.Suits entries) {e : Error} (he : k.Refuses entries e) :
      ∃ k : Lookup, k.IsFirst entries ∧ k.Refuses entries e :=
    ⟨k, ⟨before, after, ha, hb⟩, he⟩
  rw [ofData_eq]
  have hcolored := Lookup.coloredOutput.meets_look entries
  refine (hcolored.imp_error fun _ => hall [] _ rfl (by simp)).bind fun colored _ hc => ?_
  have hformat := Lookup.outputFormat.meets_look entries
  refine (hformat.imp_error fun _ => hall [_] _ rfl (by simpa using hc.1)).bind fun format _ hf => ?_
  have hindent := Lookup.indent.meets_look entries
  refine (hindent.imp_error fun _ => hall [_, _] _ rfl (by simpa using ⟨hc.1, hf.1⟩)).bind fun indent _ hi => ?_
  obtain ⟨hc, rfl⟩ := hc
  obtain ⟨hf, rfl⟩ := hf
  obtain ⟨hi, rfl⟩ := hi
  exact ⟨by simpa [Lookup.all] using ⟨hc, hf, hi⟩, rfl⟩

/-- A negative indent of a decoded file can be written. -/
theorem isShort_of_given {entries : List (Value × Value)} (h : Value.TableOf (Value.IsDecoded True) entries)
    {path : Path}
    (hi : (given entries path).indent < 0) : Integer.IsShort (given entries path).indent := by
  -- only an integer of another base than ten may be long, and those have no sign
  have hvalue : ∀ v ∈ Lookup.indent.value? entries, v.IsDecoded True := by
    intro v hv
    have hsection : (Lookup.indent.within entries).IsDecoded True := by
      unfold Lookup.within
      cases hg : Mapping.get? Lookup.indent.table entries with
      | none => exact .mapping (by simp) (by simp)
      | some v => exact h.get? hg
    unfold Lookup.value? under? at hv
    split at hv
    · next table heq => exact (heq ▸ hsection).table.get? hv
    · cases hv
  unfold given ofFound at hi ⊢
  dsimp only at hi ⊢
  split at hi
  · next n hn =>
    cases hvalue _ hn with
    | int hs => exact hs.resolve_right fun h => absurd hi (Int.not_lt.2 h.1)
  · exact absurd hi (by decide)

/-! ## Loading -/

/-- The ends of loading the settings of a text in a file at a path. -/
inductive LoadEnds (text : String) (path : Path) : Except Error (Config × List String) → Prop
  /-- All settings suit. They are put right, and then make sense. -/
  | loaded (entries : List (Value × Value)) (c : Config) (warnings : List String)
      (hd : Toml.decode text = .ok (.mapping entries)) (hs : ∀ k ∈ Lookup.all, k.Suits entries)
      (hv : (given entries path).validate = .ok (c, warnings)) (hc : c.IsValid) (hp : c.path = some path) :
      LoadEnds text path (.ok (c, warnings))
  /-- The text is no TOML, which is said with the place where that shows. -/
  | malformed (what : String) (rest : List Char) (hd : Toml.decode text = .error (.malformed what rest))
      (hr : rest <:+ Toml.joinBreaks text.toList) :
      LoadEnds text path (.error (.malformedConfig path.text (Toml.complaint text.toList what rest)))
  /-- An integer in the text has too many digits. -/
  | digits (hd : Toml.decode text = .error (.fault .digitLimit)) (hl : Text.HoldsLongInteger text.toList) :
      LoadEnds text path (.error (.fault .digitLimit))
  /-- A setting does not suit. -/
  | refused (entries : List (Value × Value)) (k : Lookup) (e : Error)
      (hd : Toml.decode text = .ok (.mapping entries)) (hf : k.IsFirst entries) (hr : k.Refuses entries e) :
      LoadEnds text path (.error e)

/-- The settings of a text are found and put right, or the first fault in it is told. -/
theorem loadEnds_ofText (text : String) (path : Path) :
    LoadEnds text path (ofText text path >>= fun c => liftM c.validate) := by
  have hdecode := Toml.meets_decode text
  unfold ofText
  cases hd : Toml.decode text with
  | error e =>
    cases hdecode.of_error hd with
    | malformed what hr => exact .malformed what _ hd hr
    | digits hl => exact .digits hd (Toml.holdsLongInteger_of_joinBreaks hl)
  | ok data =>
    obtain ⟨entries, rfl⟩ : ∃ entries, data = .mapping entries := by
      obtain ⟨s, -, hs⟩ := bind_eq_ok_iff.1 hd
      exact ⟨_, (Except.ok.inj hs).symm⟩
    have hmeets := meets_ofData entries path
    dsimp only
    cases hc : ofData entries path with
    | error e =>
      obtain ⟨k, hf, hr⟩ := hmeets.of_error hc
      exact .refused entries k e hd hf hr
    | ok c =>
      obtain ⟨hs, rfl⟩ := hmeets.of_ok hc
      have hvalid := (given entries path).meets_validate
      change LoadEnds text path (liftM (given entries path).validate)
      cases hv : (given entries path).validate with
      | error f =>
        -- the one failure would be that a negative indent is too long for its warning
        obtain ⟨hi, hw⟩ := hvalid.of_error hv
        rw [Integer.write_of_length (isShort_of_given (hdecode.of_ok hd).table hi)] at hw
        cases hw
      | ok found =>
        obtain ⟨hc, hp⟩ := hvalid.of_ok hv
        exact .loaded entries found.1 found.2 hd hs hv hc hp

/-- The settings of a file that can be read are those of its text, if its bytes are one. -/
theorem load_of_read {tree : FileTree} {place : Place} {path : Option Path} {full : Path} {content : ByteArray}
    (hp : fullPath place path = .ok full) (hr : tree.read place.directory full = .ok content) :
    load tree place path =
      (liftM (FileTree.decode content) >>= fun text => ofText text full) >>= fun c => liftM c.validate := by
  rw [load, hp]
  simp only [bind, Except.bind, liftM, monadLift, MonadLift.monadLift, Except.mapError, FileTree.exists?_of_read hr,
    FileTree.readText, hr, if_true]
  cases FileTree.decode content <;> rfl

/-- Loading from a file with a text ends in one of the ways for the text. -/
theorem loadEnds_load {tree : FileTree} {place : Place} {path : Option Path} {full : Path} {content : ByteArray}
    {text : String} (hp : fullPath place path = .ok full) (hr : tree.read place.directory full = .ok content)
    (hc : String.fromUTF8? content = some text) : LoadEnds text full (load tree place path) := by
  rw [load_of_read hp hr, FileTree.decode, hc]
  exact loadEnds_ofText text full

/-- A file whose bytes are no text is not loaded. -/
theorem load_of_noText {tree : FileTree} {place : Place} {path : Option Path} {full : Path} {content : ByteArray}
    (hp : fullPath place path = .ok full) (hr : tree.read place.directory full = .ok content)
    (hc : String.fromUTF8? content = none) : load tree place path = .error (.fault .undecodable) := by
  rw [load_of_read hp hr, FileTree.decode, hc]
  rfl

end Config

namespace CommandLine

/-- A run for which the settings cannot be loaded ends with the error, and changes no file. -/
theorem Names.run_of_not_loaded {s : Setting} {args behind : List String} {o : Opening} {command : Command}
    (h : Names args o command behind) {e : Error} (hl : Config.load s.tree s.place o.config = .error e) :
    run s args = (answer (fun e => .failure 1 e.message none) e, s.tree) := by
  rw [h.run_eq, runWithConfig, hl]
  cases e <;> rfl

open Config

/-- Error containment of loading. The settings of a file with a text are loaded and make sense, or they are refused,
as no TOML or for the first setting that does not suit; a value of the wrong kind under a setting is refused by
its name. What leaves loading otherwise are two failures: of an integer of too many digits in the text, and of a
section that is no table; bytes that are no text are a third one. A run that names a command ends with 1 and the
message of a refusal, and with the failure if there is one, and it changes no file. -/
theorem load_contained {s : Setting} {path : Option Path} {full : Path} {content : ByteArray}
    (hp : fullPath s.place path = .ok full) (ht : s.tree.read s.place.directory full = .ok content) :
    (∀ text, String.fromUTF8? content = some text → LoadEnds text full (load s.tree s.place path)) ∧
    (String.fromUTF8? content = none → load s.tree s.place path = .error (.fault .undecodable)) ∧
    ∀ args o command behind e, Names args o command behind → o.config = path →
      load s.tree s.place path = .error e →
      run s args = (answer (fun e => .failure 1 e.message none) e, s.tree) := by
  refine ⟨fun text hc => loadEnds_load hp ht hc, load_of_noText hp ht, ?_⟩
  rintro args o command behind e hn rfl hl
  exact hn.run_of_not_loaded hl

/-- The case of an indent in quotation marks: it is refused by its name, and a run says so. -/
theorem load_contained_quoted :
    let s : Setting := ⟨⟨"/w", [], ["w"]⟩,
      ⟨[(["w"], .directory), (["w", "c.toml"], .file "[output]\nindent = '4'".toUTF8)], none⟩, .empty⟩
    LoadEnds "[output]\nindent = '4'" ⟨"/", ["w", "c.toml"]⟩ (load s.tree s.place (some ⟨"", ["c.toml"]⟩)) ∧
      run s ["--config", "c.toml", "check", "(term 'a')"] =
        (.ok ⟨1, "", "Error: Invalid config value for 'output.indent': must be an integer\n"⟩, s.tree) := by
  intro s
  have hcalls := calls_of_read? ["--config", "c.toml", "check", "(term 'a')"]
    ⟨[("--config", "c.toml")], ["check", "(term 'a')"]⟩ (some ⟨"", ["c.toml"]⟩) .check ⟨[], ["(term 'a')"]⟩
    (by decide +kernel) (by decide) (by decide +kernel) rfl (by decide) (by decide +kernel) (by decide)
  obtain ⟨behind, hn, -⟩ := hcalls.named
  have hpath : fullPath s.place (some ⟨"", ["c.toml"]⟩) = .ok ⟨"/", ["w", "c.toml"]⟩ := by
    decide +kernel
  have htext : s.tree.read s.place.directory ⟨"/", ["w", "c.toml"]⟩ = .ok "[output]\nindent = '4'".toUTF8 := by
    decide +kernel
  obtain ⟨hends, -, hrun⟩ := load_contained hpath htext
  refine ⟨hends _ (FileTree.fromUTF8?_toUTF8 _), ?_⟩
  have hmessage : (match load s.tree s.place (some ⟨"", ["c.toml"]⟩) with
      | .error e => some (e.isConfig, e.message)
      | .ok _ => none) = some (true, "Invalid config value for 'output.indent': must be an integer") := by
    decide +kernel
  cases hl : load s.tree s.place (some ⟨"", ["c.toml"]⟩) with
  | ok found =>
    rw [hl] at hmessage
    cases hmessage
  | error e =>
    rw [hl] at hmessage
    obtain ⟨hconfig, hsaid⟩ := Prod.mk.inj (Option.some.inj hmessage)
    have hanswer : answer (fun e => .failure 1 e.message none) e = .ok (.failure 1 e.message none) := by
      cases e <;> first | rfl | cases hconfig
    rw [hrun _ _ _ _ e hn rfl hl, hanswer, hsaid]
    congr 2
    decide +kernel

/-- A section that is a number leaves loading by a failure, and so the run. -/
theorem load_of_number :
    let s : Setting := ⟨⟨"/w", [], ["w"]⟩,
      ⟨[(["w"], .directory), (["w", "c.toml"], .file "display = 5".toUTF8)], none⟩, .empty⟩
    load s.tree s.place (some ⟨"", ["c.toml"]⟩) = .error (.fault .wrongKind) ∧
      run s ["--config", "c.toml", "check", "(term 'a')"] = (.error (.of .wrongKind), s.tree) := by
  exact ⟨eq_error_of_fault? (by decide +kernel), by decide +kernel⟩

end CommandLine

end StructuredQuery
