import StructuredQuery.Config
import StructuredQuery.Proofs.Expression.Result
import StructuredQuery.Proofs.Files.Rooted
import StructuredQuery.Proofs.Toml.Reread

/-!
Settings that are saved are loaded again. The text of the file is decoded to the tables that it was made of,
whatever the format is called; what is loaded is then what validation makes of the settings, and validation
has nothing to put right in its own result.
-/

namespace StructuredQuery

open Text Toml

namespace Config

def tables (c : Config) : Entries :=
  [(.text "display", .mapping [(.text "colored_output", .bool c.coloredOutput)]),
    (.text "output", .mapping [(.text "format", .text c.outputFormat), (.text "indent", .int c.indent)])]

/-- The settings of a file are those that it was written for. -/
theorem ofData_tables (c : Config) (path : Path) : ofData c.tables path = .ok { c with path := some path } := by
  rfl

/-- The lines of the file, one after the other. -/
theorem toList_of_encode {c : Config} {text : String} (h : c.encode = .ok text) :
    (digitsOfNat c.indent.natAbs).length ≤ Integer.digitLimit ∧
      text.toList = '[' :: ("display".toList ++ ']' :: '\n' ::
        ("colored_output".toList ++ ' ' :: '=' :: ' ' :: ((encodeBool c.coloredOutput).toList ++ '\n' ::
        '\n' :: '[' :: ("output".toList ++ ']' :: '\n' ::
        ("format".toList ++ ' ' :: '=' :: ' ' :: ((encodeString c.outputFormat).toList ++ '\n' ::
        ("indent".toList ++ ' ' :: '=' :: ' ' :: (Integer.digits c.indent ++ '\n' :: [])))))))) := by
  obtain ⟨indent, hindent, htext⟩ := bind_eq_ok_iff.1 h
  have hlength := Integer.length_of_write hindent
  refine ⟨hlength, ?_⟩
  obtain rfl : String.ofList (Integer.digits c.indent) = indent :=
    Except.ok.inj ((Integer.write_of_length hlength).symm.trans hindent)
  -- the fixed parts of the text, as characters
  have hdisplay : "[display]\ncolored_output = ".toList =
      '[' :: ("display".toList ++ ']' :: '\n' :: ("colored_output".toList ++ [' ', '=', ' '])) := by
    decide +kernel
  have houtput : "\n\n[output]\nformat = ".toList =
      '\n' :: '\n' :: '[' :: ("output".toList ++ ']' :: '\n' :: ("format".toList ++ [' ', '=', ' '])) := by
    decide +kernel
  have hindented : "indent = ".toList = "indent".toList ++ [' ', '=', ' '] := by
    decide +kernel
  have hend : "\n".toList = ['\n'] := by
    decide +kernel
  have hfront : c.encodeFront.toList = '[' :: ("display".toList ++ ']' :: '\n' ::
      ("colored_output".toList ++ ' ' :: '=' :: ' ' :: ((encodeBool c.coloredOutput).toList ++ '\n' ::
      '\n' :: '[' :: ("output".toList ++ ']' :: '\n' ::
      ("format".toList ++ ' ' :: '=' :: ' ' :: ((encodeString c.outputFormat).toList ++ ['\n'])))))) := by
    unfold encodeFront
    simp only [String.toList_append, hdisplay, houtput, hend, List.append_assoc, List.cons_append, List.nil_append]
  rw [← Except.ok.inj htext]
  simp only [String.toList_append, String.toList_ofList, hfront, hindented, hend, List.append_assoc,
    List.cons_append, List.nil_append]

/-- The text of the file is decoded to the tables. -/
theorem decode_of_encode {c : Config} {text : String} (h : c.encode = .ok text) :
    Toml.decode text = .ok (.mapping c.tables) := by
  obtain ⟨hlength, htext⟩ := toList_of_encode h
  have hreturn : '\r' ∉ text.toList := by
    rw [htext]
    have hbool : '\r' ∉ (encodeBool c.coloredOutput).toList := by
      cases c.coloredOutput <;> decide
    simp [hbool, not_mem_encodeString, not_mem_digits]
  have hbool : Stops Toml.isSpace (encodeBool c.coloredOutput).toList := by
    cases c.coloredOutput <;> exact stops_cons.2 (by decide)
  have hstring : Stops Toml.isSpace (encodeString c.outputFormat).toList := by
    rw [encodeString, String.toList_ofList]
    exact stops_cons.2 (by decide)
  have hbare {key : List Char} (hk : key.all isBareChar) : ∀ c ∈ key, isBareChar c := List.all_eq_true.1 hk
  have hlines : ∃ s, lines .empty text.toList = .ok s ∧ s.entries = c.tables := by
    rw [htext, lines_header (by decide) (hbare (by decide)) rfl,
      lines_definition (by decide) (hbare (by decide)) hbool (value_encodeBool c.coloredOutput _) rfl, lines_blank,
      lines_header (by decide) (hbare (by decide)) rfl,
      lines_definition (by decide) (hbare (by decide)) hstring (value_encodeString c.outputFormat _) rfl,
      lines_definition (by decide) (hbare (by decide)) (stops_digits c.indent) (value_digits hlength _) rfl,
      lines_nil]
    exact ⟨_, rfl, rfl⟩
  obtain ⟨s, hs, he⟩ := hlines
  -- the file is read with its line breaks as they are, for it holds no carriage return
  rw [Toml.decode, joinBreaks_of_not_mem hreturn, hs, ← he]
  rfl

/-! ## Validation -/

/-- Validation does not look at the path. -/
theorem validate_path (c : Config) (path : Option Path) :
    { c with path }.validate = c.validate.map fun (c', warnings) => ({ c' with path }, warnings) := by
  unfold validate
  cases Integer.write c.indent <;> split_ifs <;> rfl

/-- Settings that make sense are left as they are. -/
theorem validate_of_valid {c : Config} (hf : outputFormats.contains c.outputFormat) (hi : ¬c.indent < 0) :
    c.validate = .ok (c, []) := by
  simp only [validate, if_pos hf, if_neg hi]
  rfl

structure IsValid (c : Config) : Prop where
  format : outputFormats.contains c.outputFormat
  indent : ¬c.indent < 0

/-- Settings are put right, and then make sense, unless there is a negative indent that cannot be written. -/
theorem meets_validate (c : Config) :
    Meets (fun found => found.1.IsValid ∧ found.1.path = c.path)
      (fun f => c.indent < 0 ∧ Integer.write c.indent = .error f) c.validate := by
  have htext : outputFormats.contains "text" := by decide
  have hzero : ¬(0 : Int) < 0 := by decide
  unfold validate
  cases hw : Integer.write c.indent with
  | error f =>
    split_ifs with hf hi hi
    · exact ⟨hi, rfl⟩
    · exact ⟨⟨hf, hi⟩, rfl⟩
    · exact ⟨hi, rfl⟩
    · exact ⟨⟨htext, hi⟩, rfl⟩
  | ok indent =>
    split_ifs with hf hi hi
    · exact ⟨⟨hf, hzero⟩, rfl⟩
    · exact ⟨⟨hf, hi⟩, rfl⟩
    · exact ⟨⟨htext, hzero⟩, rfl⟩
    · exact ⟨⟨htext, hi⟩, rfl⟩

/-- Settings with an indent that can be written are put right, and then make sense. -/
theorem exists_validate {c : Config} {indent : String} (h : Integer.write c.indent = .ok indent) :
    ∃ c' warnings, c.validate = .ok (c', warnings) ∧ outputFormats.contains c'.outputFormat ∧
      ¬c'.indent < 0 := by
  have hmeets := meets_validate c
  cases hv : c.validate with
  | error f =>
    rw [hv, Meets, h] at hmeets
    cases hmeets.2
  | ok found =>
    rw [hv] at hmeets
    exact ⟨found.1, found.2, rfl, hmeets.1.format, hmeets.1.indent⟩

/-! ## Saving and loading -/

/-- Settings that are saved to a file that can be written are loaded from it as validation leaves them behind,
with the path in full and with just the warnings of validation. What is loaded is valid: validation changes
nothing more and has no more warnings. -/
theorem load_of_save {c : Config} {tree : FileTree} {place : Place} {p full : Path} {indent : String}
    (hp : fullPath place (some p) = .ok full) (hi : Integer.write c.indent = .ok indent)
    (hw : ∀ text, c.encode = .ok text → tree.Writable place.directory full text.toUTF8) :
    ∃ tree' c' warnings, c.save tree place (some p) = (.ok full, tree') ∧
      c.validate = .ok (c', warnings) ∧
      load tree' place (some p) = .ok ({ c' with path := some full }, warnings) ∧
      { c' with path := some full }.validate = .ok ({ c' with path := some full }, []) := by
  obtain ⟨c', warnings, hvalid, hformat, hindent⟩ := exists_validate hi
  obtain ⟨text, hencode⟩ : ∃ text, c.encode = .ok text := ⟨_, by rw [encode, hi]; rfl⟩
  obtain ⟨expanded, hresolve⟩ : ∃ expanded, Path.resolve place.directory expanded = .ok full := by
    obtain ⟨_, -, hp⟩ := bind_eq_ok_iff.1 hp
    obtain ⟨expanded, -, hresolve⟩ := bind_eq_ok_iff.1 hp
    exact ⟨expanded, hresolve⟩
  -- the path is in full, so what is written there is what is read there
  obtain ⟨hroot, hback⟩ := Path.resolve_eq_ok hresolve
  obtain ⟨tree', hwrite, hexists, hread⟩ := (hw text hencode).exists_write hroot hback
  refine ⟨tree', c', warnings, ?_, hvalid, ?_, validate_of_valid hformat hindent⟩
  · rw [save, Option.some_or, hp, hencode]
    simp only [hwrite]
    rfl
  · have hload : ofText text full = .ok { c with path := some full } := by
      simp only [ofText, decode_of_encode hencode, ofData_tables]
    have hpath := validate_path c (some full)
    rw [hvalid] at hpath
    rw [load, hp]
    simp only [bind, Except.bind, liftM, monadLift, MonadLift.monadLift, Except.mapError, hexists,
      FileTree.readText_of_read hread, hload, hpath, if_true]
    rfl

/-- The case of a format with a quote, a backslash, a line break and a control character in it, and of a
negative indent, saved where the directory of the file is missing. -/
theorem load_of_save_quoted :
    ∃ tree', save ⟨false, "\"é\\\n\x07", -3, none⟩ ⟨[], none⟩ ⟨"/root", [], []⟩ (some ⟨"", ["a", "..", "b", "c.toml"]⟩) =
        (.ok ⟨"/", ["b", "c.toml"]⟩, tree') ∧
      load tree' ⟨"/root", [], []⟩ (some ⟨"", ["a", "..", "b", "c.toml"]⟩) =
        .ok (⟨false, "text", 0, some ⟨"/", ["b", "c.toml"]⟩⟩,
          ["output.format='\"é\\\\\\n\\x07' is not one of text, json; using text",
            "output.indent=-3 is negative; using 0"]) := by
  have hp : fullPath ⟨"/root", [], []⟩ (some ⟨"", ["a", "..", "b", "c.toml"]⟩) = .ok ⟨"/", ["b", "c.toml"]⟩ := by
    decide +kernel
  have hw (content : ByteArray) : FileTree.Writable ⟨[], none⟩ [] ⟨"/", ["b", "c.toml"]⟩ content :=
    ⟨⟨.empty, by decide +kernel⟩, by decide +kernel, rfl⟩
  have hi : Integer.write (-3) = .ok "-3" := by decide +kernel
  obtain ⟨tree', c', warnings, hsave, hvalid, hload, -⟩ :=
    load_of_save (c := ⟨false, "\"é\\\n\x07", -3, none⟩) hp hi fun text _ => hw text.toUTF8
  have hvalidate : (⟨false, "\"é\\\n\x07", -3, none⟩ : Config).validate = .ok (⟨false, "text", 0, none⟩,
      ["output.format='\"é\\\\\\n\\x07' is not one of text, json; using text",
        "output.indent=-3 is negative; using 0"]) := by
    decide +kernel
  obtain ⟨rfl, rfl⟩ := Prod.mk.inj (Except.ok.inj (hvalid.symm.trans hvalidate))
  exact ⟨tree', hsave, hload⟩

end Config

end StructuredQuery
