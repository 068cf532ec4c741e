import StructuredQuery.Proofs.Query.Accepted

/-!
Texts that are kept. What is written is read if and only if each decimal in it can be read, and where each has the
text of an integer or a float, what is read is written with the same text.
-/

namespace StructuredQuery

open Query Text

/-- Each decimal of the expression has the text of an integer or a float. -/
abbrev Expression.KeepsDecimals : Expression → Prop := EachDecimal Decimal.SharesText

/-- A decimal with the text of an integer or float is read as that. -/
theorem Decimal.SharesText.isReadable {d : Decimal} (h : d.SharesText) : d.IsReadable := by
  rcases h.asRead_cases with ⟨n, h, hn, -⟩ | ⟨x, h, hx, -⟩ <;> rw [IsReadable, h]
  · exact .int hn
  · exact .float hx

namespace Value.IsToken

variable {v : Value}

/-- If the decimals keep their texts, a bound is written as before. -/
theorem writeBound_asRead (h : v.IsToken) (hk : ∀ d, v = .decimal d → d.SharesText) :
    writeBound v.asRead v.asRead.written = writeBound v v.written := by
  cases h with
  | scalar h =>
    cases h with
    | text h =>
      rw [asRead_of_text? h, writeBound_text h, writeBound_text rfl]
    | int => rfl
    | float => rfl
  | @decimal d hd =>
    rw [writeBound_decimal hd, asRead]
    rcases (hk d rfl).asRead_cases with ⟨n, h, -, hw⟩ | ⟨x, h, hx, hw⟩ <;> rw [h]
    · exact writeBound_int hw
    · rw [writeBound_float hx, hw]
  | timestamp t =>
    have hquote : writeBound (.timestamp t) (Value.timestamp t).written = .ok (quote t.iso) :=
      congrArg Except.ok t.quoted_eq
    rw [hquote, asRead, writeBound_text rfl, String.toList_ofList]

end Value.IsToken

theorem boundText_asRead {v : Value} (h : v = .null ∨ v.IsToken) (hk : ∀ d, v = .decimal d → d.SharesText) :
    boundText v.asRead = boundText v := by
  rcases h with rfl | h
  · rfl
  · rw [boundText_of_ne_null (mt Value.asRead_eq_null_iff.1 h.ne_null), boundText_of_ne_null h.ne_null,
      h.writeBound_asRead hk]

namespace Interval

variable {r : Interval}

/-- An interval whose decimals keep their texts is written as before. -/
theorem Printed.written_asRead (h : r.Printed) (hk : ∀ d, r.HasDecimal d → d.SharesText) :
    r.asRead.written = r.written := by
  obtain ⟨low, hlow, -⟩ := exists_boundText_asRead h.lower
  obtain ⟨high, hhigh, -⟩ := exists_boundText_asRead h.upper
  have hvalid := (h.sound_asRead fun d hd => (hk d hd).isReadable).valid
  have hl := (boundText_asRead h.lower fun d hd => hk d (.inl hd)).trans hlow
  have hu := (boundText_asRead h.upper fun d hd => hk d (.inr hd)).trans hhigh
  rw [written_of_boundText h.sound.valid hlow hhigh]
  obtain ⟨lower, lowerInclusive, upper, upperInclusive⟩ := r
  exact written_of_boundText hvalid hl hu

end Interval

namespace Value

variable {v : Value}

/-- A value to match whose decimals keep their texts is written as before. -/
theorem Printed.writeContent_asRead (h : v.Printed) (hk : ∀ d, v.HasDecimal d → d.SharesText)
    (hnested : ∀ e, v = .expression e → e.asRead.written = e.written) :
    writeContent v.asRead v.asRead.written = writeContent v v.written := by
  cases h with
  | token h ho =>
    have hkeeps (d : Decimal) (hd : v = .decimal d) : d.SharesText := hk d (.inl hd)
    have hscalar := h.asRead_isScalar fun d hd => (hkeeps d hd).isReadable
    rw [hscalar.writeContent_eq (h.isOpaque_asRead ho), h.writeBound_asRead hkeeps, h.writeContent_eq ho]
  | interval h =>
    have hr := h.written_asRead fun d hd => hk d (.inr ⟨_, rfl, hd⟩)
    simp only [asRead, writeContent, written]
    exact hr
  | expression e =>
    simp only [asRead, writeContent, written]
    exact hnested e rfl

end Value

namespace Expression

/-- Reading back leaves no text that would be taken over. -/
theorem Printed.quotes_asRead {e : Expression} (h : e.Printed) : e.asRead.Quotes := by
  intro f hf s hs
  rw [fields_asRead] at hf
  obtain ⟨g, hg, rfl⟩ := List.mem_map.1 hf
  rw [FieldValue.value_asRead] at hs
  have hvalue := h.values g hg
  generalize g.value = v at hs hvalue
  cases hvalue with
  | token ht ho => exact ht.isOpaque_asRead ho s hs
  | interval => cases hs
  | expression => cases hs

/-- The text of an expression that can be written is read if and only if each decimal in it can be, and then it is
read as the expression is. -/
theorem Everywhere.ofText_eq_ok_iff {e e' : Expression} {text : String} (h : e.Everywhere Printed)
    (hw : e.render = .ok text) : ofText text = .ok e' ↔ e.Everywhere ReadsDecimals ∧ e' = e.asRead := by
  obtain ⟨honly, hplain⟩ := givesIf_iff.1 (h.givesIf_ofText hw).2
  constructor
  · intro hr
    obtain rfl := honly e' hr
    -- what comes from a text is plain unless a text in it is taken over as it is
    have hquotes : e.asRead.Everywhere Quotes := everywhere_asRead h fun _ => Printed.quotes_asRead
    exact ⟨h.plain_asRead_iff.1 ((readable_of_ofText hr).plain hquotes), rfl⟩
  · rintro ⟨hd, rfl⟩
    exact hplain (h.plain_asRead_iff.2 hd)

theorem writtenFields_asRead {fields : List FieldValue} (h : ∀ f ∈ fields, f.asRead.written = f.written) :
    writtenFields (fields.map FieldValue.asRead) = writtenFields fields := by
  induction fields with
  | nil => rfl
  | cons f rest ih =>
    rw [List.map_cons, writtenFields, writtenFields, h f List.mem_cons_self,
      ih fun f hf => h f (List.mem_cons_of_mem _ hf)]

/-- An expression whose decimals have the texts of integers or floats is written as before. -/
theorem Everywhere.written_asRead {e : Expression} (h : e.Everywhere fun e => e.Printed ∧ e.KeepsDecimals) :
    e.asRead.written = e.written := by
  induction h with
  | intro e here _ ih =>
    have hfield (f : FieldValue) (hf : f ∈ e.fields) : f.asRead.written = f.written := by
      have hcontent := (here.1.values f hf).writeContent_asRead (here.2 f hf) (ih f hf)
      obtain ⟨value, name⟩ := f
      rw [FieldValue.asRead, FieldValue.written, FieldValue.written, hcontent]
    obtain ⟨operator, options, fields⟩ := e
    rw [asRead, written, written, asReadFields_eq_map, writtenFields_asRead hfield]

/-- Where each decimal has the text of an integer or a float, the text is read, and what is read is written
with the same text. -/
theorem Everywhere.reread_of_keepsDecimals {e : Expression} {text : String} (h : e.Everywhere Printed)
    (hk : e.Everywhere KeepsDecimals) (hw : e.render = .ok text) :
    ofText text = .ok e.asRead ∧ e.asRead.render = .ok text := by
  have hread : e.Everywhere ReadsDecimals := hk.imp fun _ he f hf d hd => (he f hf d hd).isReadable
  refine ⟨(h.ofText_eq_ok_iff hw).2 ⟨hread, rfl⟩, ?_⟩
  rw [render, (h.and hk).written_asRead]
  exact hw

end Expression

end StructuredQuery
