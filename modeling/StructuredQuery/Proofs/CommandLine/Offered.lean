import StructuredQuery.Proofs.CommandLine.Calls
import StructuredQuery.Proofs.CommandLine.Rendered
import StructuredQuery.Proofs.Files.Stored

/-!
The ways of giving a document to `render`. Whether its text is in a file whose ending tells the format, in a file
with the format beside it, or on the standard input, the same queries are made of it, and only the message about a
malformed text names where it was found.
-/

namespace StructuredQuery.CommandLine

/-- Two runs end alike: with the same text on the standard output, and by the same failure or with the same exit
code. -/
inductive EndsAlike : Except Escape Outcome → Except Escape Outcome → Prop
  | failed {e e' : Escape} (hf : e.fault = e'.fault) (ho : e.stdout = e'.stdout) :
      EndsAlike (.error e) (.error e')
  | ended {out out' : Outcome} (he : out.exit = out'.exit) (ho : out.stdout = out'.stdout) :
      EndsAlike (.ok out) (.ok out')

theorem EndsAlike.refl (r : Except Escape Outcome) : EndsAlike r r := by
  cases r with
  | error e => exact .failed rfl rfl
  | ok out => exact .ended rfl rfl

/-- Warnings before the messages of both runs change nothing. -/
theorem EndsAlike.after {r r' : Except Escape Outcome} (h : EndsAlike r r') (first : String) :
    EndsAlike (after first r) (after first r') := by
  cases h with
  | failed hf ho => exact .failed hf ho
  | ended he ho => exact .ended he ho

/-- The arguments of `render` give it a text as a document of a format, in one of three ways. -/
inductive Gives (s : Setting) (a : Arguments) (text : String) : Document.Format → Prop
  /-- The text is in a file whose ending tells the format. -/
  | ending {named : String} {document p : Path} (ha : a.others = [named]) (hi : a.get? "--input-format" = none)
      (hn : namedPath named = .ok document) (hd : document.text ≠ "-")
      (hp : document.expandHome s.place = .ok p) (hr : s.tree.read s.place.directory p = .ok text.toUTF8) :
      Gives s a text (.ofPath p)
  /-- The text is in a file, and the format stands beside it. -/
  | file {named : String} {document p : Path} {format : Document.Format} (ha : a.others = [named])
      (hi : inputFormat? a = some (some format)) (hn : namedPath named = .ok document) (hd : document.text ≠ "-")
      (hp : document.expandHome s.place = .ok p) (hr : s.tree.read s.place.directory p = .ok text.toUTF8) :
      Gives s a text format
  /-- The text is on the standard input, and the format stands beside it. -/
  | stdin {format : Document.Format} (ha : a.others = ["-"]) (hi : inputFormat? a = some (some format))
      (hs : s.stdin = text.toUTF8) : Gives s a text format

variable {s s' : Setting} {a a' : Arguments} {text : String} {format : Document.Format} {document : Path}
  {input : Option Document.Format}

/-- The queries of a document are those of the text that is offered; where it was found is the source of errors. -/
theorem Offers.exists_documentQueries (h : Offers s document input text format) :
    ∃ source, documentQueries s document input = Document.queriesOfText text format source := by
  unfold documentQueries
  cases h with
  | stdin h ht =>
    refine ⟨"<stdin>", ?_⟩
    rw [if_pos h, ht]
    rfl
  | @file p text h hp hr =>
    rw [if_neg h]
    cases input with
    | some format =>
      refine ⟨document.text, ?_⟩
      rw [hp]
      change (liftM (Document.readText s.tree s.place.directory p) : Except Error String) >>= _ = _
      rw [hr]
      rfl
    | none =>
      -- a file that can be read is there, so the error for a missing one does not come up
      obtain ⟨raw, htext, -⟩ := map_eq_ok_iff.1 hr
      obtain ⟨content, hread, -⟩ := bind_eq_ok_iff.1 htext
      refine ⟨p.text, ?_⟩
      simp only [Document.load, hp, bind, Except.bind, liftM, monadLift, MonadLift.monadLift, Except.mapError,
        FileTree.exists?_of_read hread, if_true, hr]
      rfl

/-- The text that is given is offered with its line breaks unified. -/
theorem Gives.exists_offers (h : Gives s a text format) :
    ∃ named document input, a.others = [named] ∧ inputFormat? a = some input ∧ namedPath named = .ok document ∧
      Offers s document input (String.ofList (unifyBreaks text.toList)) format := by
  have hread {p : Path} (hr : s.tree.read s.place.directory p = .ok text.toUTF8) :
      Document.readText s.tree s.place.directory p = .ok (String.ofList (unifyBreaks text.toList)) := by
    rw [Document.readText, FileTree.readText_of_read hr]
    rfl
  cases h with
  | @ending named document p ha hi hn hd hp hr =>
    exact ⟨named, document, none, ha, by rw [inputFormat?, hi], hn, .file hd hp (hread hr)⟩
  | @file named document p _ ha hi hn hd hp hr =>
    exact ⟨named, document, some format, ha, hi, hn, .file hd hp (hread hr)⟩
  | stdin ha hi hs =>
    refine ⟨"-", .ofText "-", some format, ha, hi, rfl, ?_⟩
    exact .stdin (by decide) (by rw [hs, FileTree.decode_toUTF8])

/-- What is printed for the queries of a document, or for the error that stands in their place. -/
def renderQueries (c : Config) (v : Verbosity) (form : String) (queries : Except Error (List Value)) :
    Except Escape Outcome :=
  match queries with
  | .error e =>
    if e.isDocument then .ok (refuse 1 e.message none)
    else answer (fun e => refuse 2 e.message none) e
  | .ok pairs =>
    match Document.expressions pairs with
    | .ok es => printQueries c v form es
    | .error e =>
      answer (fun e => refuse 2 e.message (some "Check the conditions given for the operator")) e

theorem renderDocument_eq (c : Config) (v : Verbosity) (form : String) :
    renderDocument s c v form document input = renderQueries c v form (documentQueries s document input) :=
  rfl

/-- The error that stands for a text that cannot be decoded. -/
def refusal (format : Document.Format) (text source : String) : DecodeError → Error
  | .malformed what rest => .malformedDocument source (Document.complaint format text what rest)
  | .fault f => .fault f

/-- The source of a text is told in a message only. -/
theorem endsAlike_renderQueries (c : Config) (v : Verbosity) (form text : String) (format : Document.Format)
    (source source' : String) :
    EndsAlike (renderQueries c v form (Document.queriesOfText text format source))
      (renderQueries c v form (Document.queriesOfText text format source')) := by
  have hdecoded (decoded : Except DecodeError Value) :
      EndsAlike (renderQueries c v form (decoded.mapError (refusal format text source) >>= Document.queries))
        (renderQueries c v form (decoded.mapError (refusal format text source') >>= Document.queries)) := by
    cases decoded with
    | ok data => exact .refl _
    | error e =>
      cases e with
      | malformed what rest => exact .ended rfl rfl
      | fault f => exact .refl _
  cases format with
  | json => exact hdecoded (Json.decode text)
  | toml => exact hdecoded (Toml.decode text)

/-- The command `render` ends alike for a text that is given in two ways. -/
theorem Gives.endsAlike (h : Gives s a text format) (h' : Gives s' a' text format)
    (hf : a.get? "--format" = a'.get? "--format") (c : Config) (v : Verbosity) :
    EndsAlike (render s c v a) (render s' c v a') := by
  obtain ⟨named, document, input, ha, hi, hn, ho⟩ := h.exists_offers
  obtain ⟨named', document', input', ha', hi', hn', ho'⟩ := h'.exists_offers
  obtain ⟨source, hq⟩ := ho.exists_documentQueries
  obtain ⟨source', hq'⟩ := ho'.exists_documentQueries
  have hform : formatOption? a c = formatOption? a' c := by
    rw [formatOption?, formatOption?, hf]
  unfold render
  rw [hi, hi', ha, ha', hform]
  cases formatOption? a' c with
  | none => exact .refl _
  | some form =>
    simp only [hn, hn', bind, Except.bind, liftM, monadLift, MonadLift.monadLift, Except.mapError, List.isEmpty_nil,
      if_true]
    rw [renderDocument_eq, renderDocument_eq, hq, hq']
    exact endsAlike_renderQueries c v form _ format source source'

/-- One document, three ways in. Runs of `render` that are given the same text as a document of the same format, in a
file whose ending tells it, in a file of any other name than a dash with the format beside it, or on the standard
input, end alike, if they are asked for the same form and find the same settings. -/
theorem endsAlike_of_gives {args args' : List String} {o o' : Opening} (hc : Calls args o .render a)
    (hc' : Calls args' o' .render a') (hg : Gives s a text format) (hg' : Gives s' a' text format)
    (hf : a.get? "--format" = a'.get? "--format") (hv : o.verbosity = o'.verbosity)
    (hl : Config.load s.tree s.place o.config = Config.load s'.tree s'.place o'.config) :
    EndsAlike (run s args).1 (run s' args').1 := by
  -- both runs load the same settings, so they stop at the same place before the command, or neither stops
  obtain ⟨behind, hn, hr⟩ := hc.named
  obtain ⟨behind', hn', hr'⟩ := hc'.named
  rw [hn.run_eq, hn'.run_eq, runWithConfig, runWithConfig, ← hl, ← hv]
  cases Config.load s.tree s.place o.config with
  | error e =>
    cases e with
    | fault f => exact .refl _
    | _ => exact .refl _
  | ok found =>
    obtain ⟨c, warnings⟩ := found
    dsimp only
    cases told o.verbosity warnings with
    | error f => exact .refl _
    | ok first =>
      dsimp only
      rw [runCommand_eq_perform hr hc.asks, runCommand_eq_perform hr' hc'.asks]
      exact (hg.endsAlike hg' hf c o.verbosity).after first

/-- The case of a document in TOML with line breaks of two characters, in a file whose ending is in capitals, in a
file without an ending, and on the standard input. -/
theorem endsAlike_of_gives_toml :
    let text := "[and]\r\ntitle = 'star'\r\n"
    let s : Setting := ⟨⟨"/root", [], []⟩,
      ⟨[(["q.TOML"], .file text.toUTF8), (["doc"], .file text.toUTF8)], none⟩, text.toUTF8⟩
    (run s ["render", "q.TOML"]).1 = .ok ⟨0, "(and title:'star')\n", ""⟩ ∧
      EndsAlike (run s ["render", "q.TOML"]).1 (run s ["render", "doc", "-i", "toml"]).1 ∧
      EndsAlike (run s ["render", "q.TOML"]).1 (run s ["render", "-", "-itoml"]).1 := by
  intro text s
  have hending := calls_of_read? ["render", "q.TOML"] ⟨[], ["render", "q.TOML"]⟩ none .render ⟨[], ["q.TOML"]⟩
    (by decide +kernel) (by decide) (by decide +kernel) rfl (by decide) (by decide +kernel) (by decide)
  have hfile := calls_of_read? ["render", "doc", "-i", "toml"] ⟨[], ["render", "doc", "-i", "toml"]⟩ none .render
    ⟨[("--input-format", "toml")], ["doc"]⟩ (by decide +kernel) (by decide) (by decide +kernel) rfl (by decide)
    (by decide +kernel) (by decide)
  have hstdin := calls_of_read? ["render", "-", "-itoml"] ⟨[], ["render", "-", "-itoml"]⟩ none .render
    ⟨[("--input-format", "toml")], ["-"]⟩ (by decide +kernel) (by decide) (by decide +kernel) rfl (by decide)
    (by decide +kernel) (by decide)
  have hgiven : Gives s ⟨[], ["q.TOML"]⟩ text (.ofPath ⟨"", ["q.TOML"]⟩) :=
    .ending rfl rfl (eq_ok_of_toOption (a := ⟨"", ["q.TOML"]⟩) (by decide +kernel)) (by decide +kernel)
      (eq_ok_of_toOption (by decide +kernel)) (eq_ok_of_toOption (by decide +kernel))
  have hformat : Document.Format.ofPath ⟨"", ["q.TOML"]⟩ = .toml := by decide +kernel
  rw [hformat] at hgiven
  have hgivenFile : Gives s ⟨[("--input-format", "toml")], ["doc"]⟩ text .toml :=
    .file rfl (by decide +kernel) (eq_ok_of_toOption (a := ⟨"", ["doc"]⟩) (by decide +kernel)) (by decide +kernel)
      (eq_ok_of_toOption (a := ⟨"", ["doc"]⟩) (by decide +kernel)) (eq_ok_of_toOption (by decide +kernel))
  have hgivenStdin : Gives s ⟨[("--input-format", "toml")], ["-"]⟩ text .toml := .stdin rfl (by decide +kernel) rfl
  exact ⟨by decide +kernel, endsAlike_of_gives hending hfile hgiven hgivenFile rfl rfl rfl,
    endsAlike_of_gives hending hstdin hgiven hgivenStdin rfl rfl rfl⟩

/-- A file whose name is a dash is not found by its name: the standard input is read in its place. -/
theorem dash_is_stdin :
    let text := "\x7b\"and\": [\"star\"]\x7d"
    let s : Setting := ⟨⟨"/root", [], []⟩,
      ⟨[(["-"], .file text.toUTF8), (["a.json"], .file text.toUTF8)], none⟩, .empty⟩
    s.tree.read s.place.directory (.ofText "-") = s.tree.read s.place.directory (.ofText "a.json") ∧
      (run s ["render", "a.json"]).1 = .ok ⟨0, "(and 'star')\n", ""⟩ ∧
      (run s ["render", "-", "-i", "json"]).1.map (fun out => (out.exit, out.stdout)) = .ok (1, "") := by
  intro text s
  exact ⟨by decide +kernel, by decide +kernel, by decide +kernel⟩

end StructuredQuery.CommandLine
