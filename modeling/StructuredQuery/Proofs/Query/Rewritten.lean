import StructuredQuery.Proofs.Expression.Validity
import StructuredQuery.Proofs.Query.Kept
import StructuredQuery.Proofs.Query.Verbatim

/-!
Texts that are read and written again. What an expression is written with and what it is written with after it
was read have the same parts in the same places, so if the two texts are the same then so are the texts of each
number. Therefore the text of an expression is kept if and only if each decimal in it has the text of an integer
or a float.
-/

namespace StructuredQuery

open Query Text

/-! ## Numbers that are read and written with the same text -/

section Bounds

variable {v : Value} {w u rest rest' : List Char}

/-- If what is read back of a decimal has its text in front of some rest, it has that text alone. -/
theorem Decimal.sharesText_of_append {d : Decimal} (hd : d.isFinite) (hs : d.asRead.IsScalar)
    (hu : writeBound d.asRead d.asRead.written = .ok u) (hr : Stops isNumeralChar rest)
    (hr' : Stops isNumeralChar rest') (h : d.write.toList ++ rest = u ++ rest') :
    d.write.toList = u ∧ d.SharesText := by
  obtain ⟨hnumeric, -⟩ := d.numeric_write hd
  -- both texts are of characters of numerals, and what comes behind them is not
  rcases d.asRead_cases with ⟨n, hread⟩ | ⟨x, hread⟩ | hread <;> rw [hread] at hs hu
  · cases hs with
    | text ht => cases ht
    | int hlength =>
      have hwrite := Integer.write_of_length hlength
      obtain rfl := Except.ok.inj ((writeBound_int hwrite).symm.trans hu)
      rw [String.toList_ofList] at h ⊢
      have hsame := eq_of_append hnumeric (Integer.numeric_digits n) hr hr' h
      refine ⟨hsame, .inl ⟨n, ?_⟩⟩
      rw [hwrite, ← hsame, String.ofList_toList]
  · cases hs with
    | text ht => cases ht
    | float hx =>
      obtain rfl := Except.ok.inj ((writeBound_float hx).symm.trans hu)
      have hsame := eq_of_append hnumeric (x.numeric_write hx).1 hr hr' h
      exact ⟨hsame, .inr ⟨x, hx, (String.toList_inj.1 hsame).symm⟩⟩
  · cases hs with | text ht => cases ht

theorem Value.IsToken.not_isStructured (h : v.IsToken) : ¬ v.IsStructured := by
  rintro (⟨r, rfl⟩ | ⟨e, rfl⟩)
  all_goals cases h with | scalar h => cases h with | text h => cases h

/-- If what is read back of a token has its text in front of some rest, decimals in it keep their texts. -/
theorem Value.IsToken.sharesText_of_append (h : v.IsToken) (hs : v.asRead.IsScalar)
    (hw : writeBound v v.written = .ok w) (hu : writeBound v.asRead v.asRead.written = .ok u)
    (hr : Stops isNumeralChar rest) (hr' : Stops isNumeralChar rest') (heq : w ++ rest = u ++ rest') :
    w = u ∧ ∀ d, v = .decimal d → d.SharesText := by
  -- every other token has the same text again
  by_cases hd : ∃ d, v = .decimal d
  · obtain ⟨d, rfl⟩ := hd
    cases h with
    | scalar h => cases h with | text h => cases h
    | decimal hd =>
      obtain rfl := Except.ok.inj ((writeBound_decimal hd).symm.trans hw)
      obtain ⟨hsame, hshares⟩ := d.sharesText_of_append hd hs hu hr hr' heq
      refine ⟨hsame, ?_⟩
      rintro _ ⟨⟩
      exact hshares
  · have hnone (d : Decimal) (he : v = .decimal d) : d.SharesText := absurd ⟨d, he⟩ hd
    rw [h.writeBound_asRead hnone] at hu
    exact ⟨Except.ok.inj (hw.symm.trans hu), hnone⟩

/-- A bound that may be missing shares its text in the same way. -/
theorem sharesText_of_boundText (h : v = .null ∨ v.IsToken) (hs : v.asRead = .null ∨ v.asRead.IsScalar)
    (hw : boundText v = .ok w) (hu : boundText v.asRead = .ok u) (hr : Stops isNumeralChar rest)
    (hr' : Stops isNumeralChar rest') (heq : w ++ rest = u ++ rest') :
    w = u ∧ ∀ d, v = .decimal d → d.SharesText := by
  rcases h with rfl | h
  · exact ⟨Except.ok.inj (hw.symm.trans hu), by simp⟩
  · have hne : v.asRead ≠ .null := mt Value.asRead_eq_null_iff.1 h.ne_null
    rw [boundText_of_ne_null h.ne_null] at hw
    rw [boundText_of_ne_null hne] at hu
    exact h.sharesText_of_append (hs.resolve_left hne) hw hu hr hr' heq

end Bounds

/-- If the texts of an interval and of what it is read as begin the same text, they are the same bound by bound. -/
theorem Interval.Printed.keepsDecimals_of_append {r : Interval} {w u rest rest' : List Char} (h : r.Printed)
    (hp : r.asRead.Plain) (hw : r.written = .ok w) (hu : r.asRead.written = .ok u) (heq : w ++ rest = u ++ rest') :
    w = u ∧ ∀ d, r.HasDecimal d → d.SharesText := by
  obtain ⟨low, hlow, -⟩ := exists_boundText_asRead h.lower
  obtain ⟨high, hhigh, -⟩ := exists_boundText_asRead h.upper
  obtain ⟨low', hlow', -⟩ := exists_boundText_asRead (hp.lower.imp_right .scalar)
  obtain ⟨high', hhigh', -⟩ := exists_boundText_asRead (hp.upper.imp_right .scalar)
  obtain ⟨_, _, _, _, hmade⟩ := hp.made
  have hvalid := valid_of_ofDescriptor hmade
  obtain rfl := Except.ok.inj ((written_of_boundText h.sound.valid hlow hhigh).symm.trans hw)
  obtain rfl := Except.ok.inj ((written_of_boundText hvalid hlow' hhigh').symm.trans hu)
  obtain ⟨hlowerRead, hupperRead⟩ := And.intro hp.lower hp.upper
  obtain ⟨lower, lowerInclusive, upper, upperInclusive⟩ := r
  simp only [asRead, List.cons_append, List.append_assoc, List.cons.injEq] at heq
  obtain ⟨-, heq⟩ := heq
  have hcomma (left : List Char) : Stops isNumeralChar (',' :: left) := stops_cons.2 (by decide)
  have hclosing (left : List Char) : Stops isNumeralChar ((if upperInclusive then ']' else '}') :: left) := by
    refine stops_cons.2 ?_
    cases upperInclusive <;> decide
  -- the comma ends the lower bound and the closing bracket the upper one
  obtain ⟨rfl, hkeepsLower⟩ := sharesText_of_boundText h.lower hlowerRead hlow hlow' (hcomma _) (hcomma _) heq
  have heq := (List.cons.inj (List.append_cancel_left heq)).2
  obtain ⟨rfl, hkeepsUpper⟩ :=
    sharesText_of_boundText h.upper hupperRead hhigh hhigh' (hclosing _) (hclosing _) heq
  exact ⟨rfl, fun d hd => hd.elim (hkeepsLower d) (hkeepsUpper d)⟩

/-! ## Fields and expressions -/

/-- The decimals of a value, and those of the expression if it is one, have the texts of integers or floats. -/
structure Value.KeepsDecimals (v : Value) : Prop where
  here : ∀ d, v.HasDecimal d → d.SharesText
  nested : ∀ e, v = .expression e → e.Everywhere Expression.KeepsDecimals

/-- If a text begins with the text of an expression and with the text of what the expression is read as, then
the two are the same and so are the texts of all decimals. -/
def Expression.SettlesDecimals (e : Expression) : Prop :=
  ∀ w u rest rest', e.written = .ok w → e.asRead.written = .ok u → w ++ rest = u ++ rest' →
    w = u ∧ e.Everywhere KeepsDecimals

theorem Query.IsEnd.stops_isNumeralChar {rest : List Char} (h : IsEnd rest) : Stops isNumeralChar rest :=
  h.stops (by decide) (by decide)

/-- If the text of a value to match stays the same, its decimals keep their texts. -/
theorem Value.Printed.keepsDecimals_of_append {v : Value} {w u rest rest' : List Char} (h : v.Printed)
    (hp : v.asRead.Plain) (hnested : ∀ e, v = .expression e → e.SettlesDecimals)
    (hw : writeContent v v.written = .ok w) (hu : writeContent v.asRead v.asRead.written = .ok u)
    (hr : IsEnd rest) (hr' : IsEnd rest') (heq : w ++ rest = u ++ rest') : w = u ∧ v.KeepsDecimals := by
  -- the text ends where that of the kind ends, so the two texts are one and the rests are too
  cases h with
  | token h ho =>
    have hscalar := h.isScalar_of_plain hp
    rw [h.writeContent_eq ho] at hw
    rw [hscalar.writeContent_eq (h.isOpaque_asRead ho)] at hu
    obtain ⟨hsame, hkeeps⟩ :=
      h.sharesText_of_append hscalar hw hu hr.stops_isNumeralChar hr'.stops_isNumeralChar heq
    refine ⟨hsame, ?_, fun e he => absurd (.inr ⟨e, he⟩) h.not_isStructured⟩
    rintro d (hd | ⟨r, hr, -⟩)
    · exact hkeeps d hd
    · exact absurd (.inl ⟨r, hr⟩) h.not_isStructured
  | @interval r h =>
    simp only [asRead, writeContent, written] at hw hu
    obtain ⟨hsame, hkeeps⟩ := h.keepsDecimals_of_append hp.interval_plain hw hu heq
    refine ⟨hsame, ?_, by simp⟩
    rintro d (hd | ⟨_, ⟨⟩, hd⟩)
    · cases hd
    · exact hkeeps d hd
  | expression e =>
    simp only [asRead, writeContent, written] at hw hu
    obtain ⟨hsame, hkeeps⟩ := hnested e rfl w u rest rest' hw hu heq
    refine ⟨hsame, ?_, ?_⟩
    · rintro d (hd | ⟨r, hr, -⟩)
      · cases hd
      · cases hr
    · rintro _ ⟨⟩
      exact hkeeps

/-- With the same name in front the contents of two fields begin in the same place. -/
theorem content_of_writeNamed {name : Option String} {content content' rest rest' : List Char} (hr : IsEnd rest)
    (hr' : IsEnd rest') (h : writeNamed name content ++ rest = writeNamed name content' ++ rest') :
    content ++ rest = content' ++ rest' := by
  -- no colon stands behind a name without a content
  have hcolon {left : List Char} (hend : IsEnd left) (tail : List Char) : left ≠ ':' :: tail := by
    rintro rfl
    obtain ⟨c, _, hc, hmark⟩ := hend
    rw [← (List.cons.inj hc).1] at hmark
    exact absurd hmark (by decide)
  cases name with
  | none => exact h
  | some n =>
    unfold writeNamed at h
    cases content with
    | nil =>
      cases content' with
      | nil => simpa using h
      | cons c' left' => exact absurd (by simpa using h) (hcolon hr (c' :: left' ++ rest'))
    | cons c left =>
      cases content' with
      | nil => exact absurd (by simpa using h.symm) (hcolon hr' (c :: left ++ rest))
      | cons c' left' => simpa using h

/-- If the text of a field stays the same, its decimals keep their texts. -/
theorem FieldValue.keepsDecimals_of_append {f : FieldValue} {w u rest rest' : List Char} (h : f.value.Printed)
    (hp : f.value.asRead.Plain) (hnested : ∀ e, f.value = .expression e → e.SettlesDecimals)
    (hw : f.written = .ok w) (hu : f.asRead.written = .ok u) (hr : IsEnd rest) (hr' : IsEnd rest')
    (heq : w ++ rest = u ++ rest') : w = u ∧ f.value.KeepsDecimals := by
  obtain ⟨value, name⟩ := f
  rw [FieldValue.written] at hw
  rw [FieldValue.asRead, FieldValue.written] at hu
  obtain ⟨content, hcontent, rfl⟩ := map_eq_ok_iff.1 hw
  obtain ⟨content', hcontent', rfl⟩ := map_eq_ok_iff.1 hu
  obtain ⟨rfl, hkeeps⟩ := h.keepsDecimals_of_append hp hnested hcontent hcontent' hr hr'
    (content_of_writeNamed hr hr' heq)
  exact ⟨rfl, hkeeps⟩

/-- Two rows of fields are the same field by field. -/
theorem keepsDecimals_of_writtenFields {fields : List FieldValue} {ws us : List (List Char)}
    {rest rest' : List Char} (h : ∀ f ∈ fields, ∀ w u left left', f.written = .ok w → f.asRead.written = .ok u →
      IsEnd left → IsEnd left' → w ++ left = u ++ left' → w = u ∧ f.value.KeepsDecimals)
    (hws : writtenFields fields = .ok ws) (hus : writtenFields (fields.map FieldValue.asRead) = .ok us)
    (heq : ws.flatMap (' ' :: ·) ++ ')' :: rest = us.flatMap (' ' :: ·) ++ ')' :: rest') :
    ws = us ∧ ∀ f ∈ fields, f.value.KeepsDecimals := by
  -- where a field ends the same row begins for the fields behind it
  induction fields generalizing ws us with
  | nil =>
    obtain rfl := Except.ok.inj hws
    obtain rfl := Except.ok.inj hus
    exact ⟨rfl, by simp⟩
  | cons f more ih =>
    rw [writtenFields] at hws
    rw [List.map_cons, writtenFields] at hus
    obtain ⟨w, hw, hws⟩ := bind_eq_ok_iff.1 hws
    obtain ⟨ws', hws', hws⟩ := bind_eq_ok_iff.1 hws
    obtain ⟨u, hu, hus⟩ := bind_eq_ok_iff.1 hus
    obtain ⟨us', hus', hus⟩ := bind_eq_ok_iff.1 hus
    obtain rfl := Except.ok.inj hws
    obtain rfl := Except.ok.inj hus
    simp only [List.flatMap_cons, List.cons_append, List.append_assoc, List.cons.injEq, true_and] at heq
    have hend (row : List (List Char)) (left : List Char) : IsEnd (row.flatMap (' ' :: ·) ++ ')' :: left) :=
      isEnd_flatMap row ⟨_, _, rfl, .inr rfl⟩
    obtain ⟨rfl, hf⟩ := h f List.mem_cons_self w u _ _ hw hu (hend ws' rest) (hend us' rest') heq
    obtain ⟨rfl, hmore⟩ := ih (fun g hg => h g (List.mem_cons_of_mem f hg)) hws' hus' (List.append_cancel_left heq)
    exact ⟨rfl, List.forall_mem_cons.2 ⟨hf, hmore⟩⟩

namespace Expression

/-- If the text of a printed expression stays the same, each of its decimals keeps its own. -/
theorem Everywhere.settlesDecimals {e : Expression} (h : e.Everywhere Printed) (hp : e.asRead.Everywhere Plain) :
    e.SettlesDecimals := by
  induction h with
  | intro e here nested ih =>
    intro w u rest rest' hw hu heq
    -- behind the same operator and options come the two rows of fields, in which the nested expressions settle
    -- theirs by induction
    have hfield (f : FieldValue) (hf : f ∈ e.fields) (w u left left' : List Char) (hw : f.written = .ok w)
        (hu : f.asRead.written = .ok u) (hl : IsEnd left) (hl' : IsEnd left') (heq : w ++ left = u ++ left') :
        w = u ∧ f.value.KeepsDecimals := by
      have hplain : f.value.asRead.Plain := f.value_asRead ▸ hp.here.values _ (mem_fields_asRead hf)
      exact f.keepsDecimals_of_append (here.values f hf) hplain
        (fun inner hi => ih f hf inner hi (hp.nested_asRead hf hi)) hw hu hl hl' heq
    obtain ⟨ws, hws, hw'⟩ := (Everywhere.intro e here nested).exists_written
    obtain ⟨us, hus, hu'⟩ := (hp.imp fun _ => Plain.printed).exists_written
    obtain rfl := Except.ok.inj (hw'.symm.trans hw)
    obtain rfl := Except.ok.inj (hu'.symm.trans hu)
    rw [fields_asRead] at hus
    obtain ⟨operator, options, fields⟩ := e
    simp only [asRead, List.flatMap_append, List.cons_append, List.append_assoc, List.cons.injEq, true_and,
      List.append_cancel_left_eq] at heq
    obtain ⟨rfl, hkeeps⟩ := keepsDecimals_of_writtenFields hfield hws hus heq
    exact ⟨rfl, .intro _ (fun f hf => (hkeeps f hf).here) fun f hf => (hkeeps f hf).nested⟩

end Expression

/-! ## Expressions that are made and written -/

/-- The names of the fields follow the grammar, none of their texts is taken over as it is, and none of them
holds an option. -/
structure Expression.Simple (e : Expression) : Prop where
  names : ∀ f ∈ e.fields, ∀ n, f.name = some n → Terminal.fieldName.pattern.Matches n.toList
  quotes : e.Quotes
  contents : ∀ f ∈ e.fields, ∀ o, f.value ≠ .option o

/-- A number that can be written is a token. -/
theorem Value.isToken_of_isNumber {v : Value} {w : List Char} (hn : v.isNumber) (hw : v.written = .ok w) :
    v.IsToken := by
  cases v with
  | int n =>
    rw [Value.written] at hw
    · obtain ⟨text, ht, -⟩ := map_eq_ok_iff.1 hw
      exact .scalar (.int (Integer.length_of_write ht))
    all_goals simp
  | float => exact .scalar (.float hn)
  | decimal => exact .decimal hn
  | _ => cases hn

/-- A bound that has a family and can be written is a token. -/
theorem Value.isToken_of_family? {v : Value} {family : Family} {w : List Char} (hf : v.family? = some family)
    (hw : writeBound v v.written = .ok w) : v.IsToken := by
  by_cases ht : ∃ t, v = .timestamp t
  · obtain ⟨t, rfl⟩ := ht
    exact .timestamp t
  · have hne (t : Timestamp) : v ≠ .timestamp t := fun h => ht ⟨t, h⟩
    simp only [Value.family?] at hf
    by_cases hn : v.isNumber
    · refine isToken_of_isNumber (w := w) hn ?_
      simpa only [writeBound, hn, if_true] using hw
    · rw [if_neg hn] at hf
      split at hf
      · next hs =>
        obtain ⟨s, hs⟩ := Option.isSome_iff_exists.1 hs
        exact .scalar (.text hs)
      · cases hf

/-- An interval that has been written is printed. -/
theorem Interval.Sound.printed {r : Interval} {w : List Char} (h : r.Sound) (hw : r.written = .ok w) :
    r.Printed := by
  obtain ⟨lower, lowerInclusive, upper, upperInclusive⟩ := r
  obtain ⟨family, hlow, hhigh⟩ := h.valid.family
  have hbound {v : Value} {bracket side : List Char} {f : List Char → List Char}
      (hf : v ≠ .null → v.family? = some family)
      (hside : (if v.isNull then pure bracket else (writeBound v v.written).map f) = .ok side) :
      v = .null ∨ v.IsToken := by
    by_cases hv : v = .null
    · exact .inl hv
    · rw [Value.isNull_of_ne_null hv, if_neg (by decide)] at hside
      obtain ⟨text, ht, -⟩ := map_eq_ok_iff.1 hside
      exact .inr (Value.isToken_of_family? (hf hv) ht)
  rw [written_mk] at hw
  obtain ⟨low, hwrittenLow, hw⟩ := bind_eq_ok_iff.1 hw
  obtain ⟨high, hwrittenHigh, -⟩ := bind_eq_ok_iff.1 hw
  exact ⟨h, hbound hlow hwrittenLow, hbound hhigh hwrittenHigh⟩

/-- What a field holds that is written can be written again once it is read. -/
theorem FieldValue.printed_of_written {f : FieldValue} {w : List Char} (hr : ∀ r, f.value = .range r → r.Sound)
    (ho : ∀ o, f.value ≠ .option o) (hq : ∀ s, f.value.text? = some s → isOpaque s.toList = false)
    (hw : f.written = .ok w) : f.value.Printed := by
  obtain ⟨value, name⟩ := f
  rw [FieldValue.written] at hw
  obtain ⟨content, hc, -⟩ := map_eq_ok_iff.1 hw
  dsimp only at hr ho hq ⊢
  unfold writeContent at hc
  split at hc
  · next r =>
    rw [Value.written] at hc
    exact .interval ((hr r rfl).printed hc)
  · next e => exact .expression e
  · next o => exact absurd rfl (ho o)
  · next t => exact .token (.timestamp t) (by simp [Value.text?])
  · cases hc
  · split at hc
    · next hn => exact .token (Value.isToken_of_isNumber hn hc) hq
    · split at hc
      · next s hs => exact .token (.scalar (.text hs)) hq
      · cases hc

theorem written_of_writtenFields {fields : List FieldValue} {ws : List (List Char)}
    (h : writtenFields fields = .ok ws) : ∀ f ∈ fields, ∃ w, f.written = .ok w := by
  induction fields generalizing ws with
  | nil => simp
  | cons f rest ih =>
    rw [writtenFields] at h
    obtain ⟨w, hw, h⟩ := bind_eq_ok_iff.1 h
    obtain ⟨more, hmore, -⟩ := bind_eq_ok_iff.1 h
    exact List.forall_mem_cons.2 ⟨⟨w, hw⟩, ih hmore⟩

namespace Expression

/-- An expression that has been written is printed everywhere. -/
theorem Everywhere.printed {e : Expression} (h : e.Everywhere fun e => e.Sound ∧ e.Simple) :
    ∀ w, e.written = .ok w → e.Everywhere Printed := by
  induction h with
  | intro e here _ ih =>
    intro w hw
    -- what is written as a whole is written field by field, so the nested expressions are written too
    obtain ⟨hsound, hsimple⟩ := here
    obtain ⟨ws, hws⟩ : ∃ ws, writtenFields e.fields = .ok ws := by
      obtain ⟨operator, options, fields⟩ := e
      rw [written] at hw
      obtain ⟨ws, hws, -⟩ := bind_eq_ok_iff.1 hw
      exact ⟨ws, hws⟩
    have hfield := written_of_writtenFields hws
    refine .intro e ⟨hsound.rules, hsound.options, ?_, ?_⟩ ?_
    · exact fun f hf n hn => ⟨hsimple.names f hf n hn, (hsound.names f hf n hn).2⟩
    · intro f hf
      obtain ⟨u, hu⟩ := hfield f hf
      exact f.printed_of_written (hsound.intervals f hf) (hsimple.contents f hf) (hsimple.quotes f hf) hu
    · intro f hf inner hi
      obtain ⟨u, hu⟩ := hfield f hf
      obtain ⟨value, name⟩ := f
      obtain rfl : value = .expression inner := hi
      obtain ⟨content, hc, -⟩ := map_eq_ok_iff.1 ((FieldValue.written.eq_1 _ _).symm.trans hu)
      refine ih _ hf inner rfl content ?_
      rw [Value.written] at hc
      exact hc

/-- If the text of an expression is kept when it is read and written again, its decimals have the texts of
integers or floats. -/
theorem Everywhere.keepsDecimals_of_kept {e e' : Expression} {text : String} (h : e.Everywhere Printed)
    (hw : e.render = .ok text) (hr : ofText text = .ok e') (hkept : e'.render = .ok text) :
    e.Everywhere KeepsDecimals := by
  obtain ⟨hd, rfl⟩ := (h.ofText_eq_ok_iff hw).1 hr
  obtain ⟨w, hwritten, rfl⟩ := exists_of_render hw
  obtain ⟨u, hread, htext⟩ := exists_of_render hkept
  obtain rfl : w = u := by simpa using congrArg String.toList htext
  exact (h.settlesDecimals (h.plain_asRead_iff.2 hd) w w [] [] hwritten hread rfl).2

/-- Texts of what is made of plain data. If the names of all fields follow the grammar, no text among the values
is taken over as it is and no field holds an option, then the text that is written follows the grammar. It is
read if and only if each decimal, at any depth, is read as an integer up to the limit of digits or a finite float,
and then as the expression with a number for each decimal and a string for each timestamp. It is read and
written again with the same text if and only if each decimal has the text of an integer or of a finite float. -/
theorem reread_text_iff {e : Expression} {text : String} (hm : Made (.expression e)) (hs : e.Everywhere Simple)
    (hw : e.render = .ok text) :
    (∃ node, Derivation text.toList node) ∧
      (∀ e', ofText text = .ok e' ↔ e.Everywhere ReadsDecimals ∧ e' = e.asRead) ∧
      ((∃ e', ofText text = .ok e' ∧ e'.render = .ok text) ↔ e.Everywhere KeepsDecimals) := by
  obtain ⟨w, hwritten, -⟩ := exists_of_render hw
  have hprinted := (hm.sound.expression_sound.and hs).printed w hwritten
  obtain ⟨hnode, -⟩ := hprinted.givesIf_ofText hw
  refine ⟨hnode, fun e' => hprinted.ofText_eq_ok_iff hw, ?_, fun hk => ⟨_, hprinted.reread_of_keepsDecimals hk hw⟩⟩
  rintro ⟨e', hr, hkept⟩
  exact hprinted.keepsDecimals_of_kept hw hr hkept

/-- The case of a timestamp and of an interval from the decimal 1970, whose text is that of an integer. -/
theorem reread_text_iff_years :
    let moment : Timestamp := ⟨⟨2013, 7, 1, by decide⟩, ⟨12, 30, 0, 0, by decide⟩, none⟩
    let years : Interval := ⟨.decimal (.finite ⟨false, 1970, 0⟩), true, .null, false⟩
    let e : Expression := ⟨.and, [], [⟨.timestamp moment, none⟩, ⟨.range years, some "year"⟩]⟩
    let text := "(and '2013-07-01T12:30:00+00:00' year:[1970,\x7d)"
    e.render = .ok text ∧ ∃ e', ofText text = .ok e' ∧ e'.render = .ok text := by
  intro moment years e text
  have hmade : Made (.expression e) := by
    have hbounds : Made (.tuple [.decimal (.finite ⟨false, 1970, 0⟩), .null]) :=
      .tuple (by simpa using ⟨.leaf rfl, .leaf rfl⟩)
    have hpair : Made (.tuple [.text "year", .tuple [.decimal (.finite ⟨false, 1970, 0⟩), .null]]) :=
      .tuple (by simpa using ⟨.leaf rfl, hbounds⟩)
    have hconditions : Made (.list [.timestamp moment,
        .tuple [.text "year", .tuple [.decimal (.finite ⟨false, 1970, 0⟩), .null]]]) :=
      .list (by simpa using ⟨.leaf rfl, hpair⟩)
    have hnew : Expression.new (.text "and") (.list [.timestamp moment,
        .tuple [.text "year", .tuple [.decimal (.finite ⟨false, 1970, 0⟩), .null]]]) = .ok e := by
      rfl
    exact .expression hconditions hnew
  have hname : Terminal.fieldName.pattern.Matches "year".toList :=
    Terminal.matches_fieldName_iff.2 ⟨'y', "ear".toList, by decide, List.all_eq_true.1 (by decide), rfl⟩
  have hsimple : e.Everywhere Simple := by
    refine .intro e ⟨by simpa [e] using hname, ?_, by simp [e]⟩ (by simp [e])
    simp [e, Quotes, Value.text?]
  have hrender : e.render = .ok text := by
    decide +kernel
  have hshares : (Decimal.finite ⟨false, 1970, 0⟩).SharesText := by
    refine .inl ⟨1970, ?_⟩
    rw [Integer.write_of_length (by decide)]
    rfl
  have hkeeps : e.Everywhere KeepsDecimals := by
    refine .intro e ?_ (by simp [e])
    simpa [e, years, EachDecimal, Value.HasDecimal, Interval.HasDecimal] using hshares
  exact ⟨hrender, (reread_text_iff hmade hsimple hrender).2.2.2 hkeeps⟩

/-- The decimal 1.50 is written with both digits of its fraction, and is read as a float that is written with
one. -/
theorem reread_text_differs :
    let e : Expression := ⟨.and, [], [⟨.decimal (.finite ⟨false, 150, -2⟩), none⟩]⟩
    Made (.expression e) ∧ e.Everywhere Simple ∧ e.render = .ok "(and 1.50)" ∧
      ∃ e', ofText "(and 1.50)" = .ok e' ∧ e'.render = .ok "(and 1.5)" := by
  intro e
  have hmade : Made (.expression e) := by
    have hconditions : Made (.list [.decimal (.finite ⟨false, 150, -2⟩)]) := .list (by simpa using .leaf rfl)
    have hnew : Expression.new (.text "and") (.list [.decimal (.finite ⟨false, 150, -2⟩)]) = .ok e := by
      rfl
    exact .expression hconditions hnew
  have hsimple : e.Everywhere Simple :=
    .intro e ⟨by simp [e], by simp [e, Quotes, Value.text?], by simp [e]⟩ (by simp [e])
  have htree : Tree.ofText? "(and 1.50)".toList =
      some (.node "and".toList [.field none (.scalar (.number ⟨false, "1".toList, "50".toList, none⟩))]) := by
    cbv
  have hnumber : Value.ofNumber ⟨false, "1".toList, "50".toList, none⟩ =
      .ok (.float (.ofNumeral ⟨false, 150, -2⟩)) := by
    rw [Value.ofNumber, if_neg (by decide)]
    rfl
  have hvalue (n : NumberText) (x : Binary64) (hn : Value.ofNumber n = .ok (.float x)) (hx : x.isFinite) :
      (Query.Tree.node "and".toList [.field none (.scalar (.number n))]).value =
        .ok ⟨.and, [], [⟨.float x, none⟩]⟩ := by
    rw [Tree.value, itemValues, Item.value, Term.value, Scalar.value, hn]
    cases x with
    | finite => rfl
    | nan | infinity => cases hx
  have hread := ofText_of_tree (by decide) htree
  rw [String.ofList_toList] at hread
  refine ⟨hmade, hsimple, rfl, _, hread.trans (hvalue _ _ hnumber (by decide +kernel)), ?_⟩
  decide +kernel

end Expression

end StructuredQuery
