import StructuredQuery.Proofs.Query.Printed

/-!
The decimals of an expression. What can be written is read as plain, which means that it can be written and read
again, if and only if each decimal in it can be read.
-/

namespace StructuredQuery

open Query Text

def Interval.HasDecimal (r : Interval) (d : Decimal) : Prop := r.lower = .decimal d ∨ r.upper = .decimal d

/-- A decimal that is a value to match or bounds an interval to match. -/
def Value.HasDecimal (v : Value) (d : Decimal) : Prop := v = .decimal d ∨ ∃ r, v = .range r ∧ r.HasDecimal d

/-- A property of each decimal in the fields of an expression. -/
def Expression.EachDecimal (P : Decimal → Prop) (e : Expression) : Prop :=
  ∀ f ∈ e.fields, ∀ d, f.value.HasDecimal d → P d

abbrev Expression.ReadsDecimals : Expression → Prop := EachDecimal Decimal.IsReadable

/-! ## What is read is plain -/

/-- What a timestamp is read as has the family of texts. -/
def Family.asRead : Family → Family
  | .timestamp => .text
  | family => family

namespace Value.IsToken

variable {v : Value}

/-- Reading back keeps the family of a bound, but that timestamps turn into texts. -/
theorem family?_asRead (h : v.IsToken) (hd : ∀ d, v = .decimal d → d.IsReadable) :
    v.asRead.family? = v.family?.map Family.asRead := by
  cases h with
  | scalar h =>
    cases h with
    | text h =>
      rw [asRead_of_text? h]
      cases v <;> simp [Value.text?] at h <;> rfl
    | int => rfl
    | float h => simp [asRead, Value.family?, Value.isNumber, h, Family.asRead]
  | @decimal d hfinite =>
    have hscalar : d.asRead.IsScalar := hd d rfl
    have hnumber : (Value.decimal d).family? = some .number := by simp [Value.family?, Value.isNumber, hfinite]
    rw [hnumber, asRead]
    rcases d.asRead_cases with ⟨n, hread⟩ | ⟨x, hread⟩ | hread <;> rw [hread] at hscalar ⊢
    · rfl
    · cases hscalar with
      | text h => cases h
      | float hx => simp [Value.family?, Value.isNumber, hx, Family.asRead]
    · cases hscalar with | text h => cases h
  | timestamp => rfl

/-- A text that is read in the place of a timestamp begins with a digit. -/
theorem isOpaque_asRead (h : v.IsToken) (ho : ∀ s, v.text? = some s → isOpaque s.toList = false) (s : String)
    (hs : v.asRead.text? = some s) : isOpaque s.toList = false := by
  cases h with
  | scalar h =>
    rw [h.asRead_eq, text?_spelled] at hs
    exact ho s hs
  | @decimal d =>
    rw [asRead] at hs
    rcases d.asRead_cases with ⟨n, h⟩ | ⟨x, h⟩ | h <;> simp [h, Value.text?] at hs
  | timestamp t =>
    obtain rfl : String.ofList t.iso = s := by simpa [asRead, Value.text?] using hs
    rw [String.toList_ofList]
    by_contra hopaque
    obtain ⟨c, left, hc, hopen⟩ := exists_opener_of_isOpaque (by simpa using hopaque)
    obtain ⟨d, left', hd, hdigit⟩ := t.exists_iso
    rw [hc] at hd
    rw [← (List.cons.inj hd).1] at hdigit
    rcases hopen with rfl | rfl | rfl <;> exact absurd hdigit (by decide)

end Value.IsToken

namespace Interval

variable {r : Interval}

/-- An interval is one still when its bounds are read back. -/
theorem Printed.sound_asRead (h : r.Printed) (hd : ∀ d, r.HasDecimal d → d.IsReadable) : r.asRead.Sound := by
  obtain ⟨lower, lowerInclusive, upper, upperInclusive⟩ := r
  obtain ⟨⟨⟨hbounded, ⟨family, hlow, hhigh⟩, hli, hui⟩, hlb, hub⟩, hl, hu⟩ := h
  dsimp only at *
  -- numbers stay numbers and timestamps become texts, on both sides alike
  have hfamily {v : Value} (hv : v = .null ∨ v.IsToken) (hv' : v ≠ .null → v.family? = some family)
      (hread : ∀ d, v = .decimal d → d.IsReadable) (hne : v.asRead ≠ .null) :
      v.asRead.family? = some family.asRead := by
    have hne' : v ≠ .null := mt Value.asRead_eq_null_iff.2 hne
    rw [(hv.resolve_left hne').family?_asRead hread, hv' hne']
    rfl
  refine ⟨⟨?_, ⟨family.asRead, ?_, ?_⟩, ?_, ?_⟩, ?_, ?_⟩
  · simpa [Interval.asRead, Value.asRead_eq_null_iff] using hbounded
  · exact hfamily hl hlow fun d he => hd d (.inl he)
  · exact hfamily hu hhigh fun d he => hd d (.inr he)
  · simpa [Interval.asRead, Value.asRead_eq_null_iff] using hli
  · simpa [Interval.asRead, Value.asRead_eq_null_iff] using hui
  · simpa [Interval.asRead, Value.asRead_eq_null_iff, Value.isBlank_asRead] using hlb
  · simpa [Interval.asRead, Value.asRead_eq_null_iff, Value.isBlank_asRead] using hub

theorem Printed.plain_asRead (h : r.Printed) (hd : ∀ d, r.HasDecimal d → d.IsReadable) : r.asRead.Plain := by
  have hsound := h.sound_asRead hd
  have hbound {v : Value} (hv : v = .null ∨ v.IsToken) (hread : ∀ d, v = .decimal d → d.IsReadable) :
      v.asRead = .null ∨ v.asRead.IsScalar := by
    rcases hv with rfl | hv
    · exact .inl rfl
    · exact .inr (hv.asRead_isScalar hread)
  refine ⟨⟨_, _, _, _, hsound.valid.ofDescriptor_eq hsound.lower hsound.upper⟩, ?_, ?_⟩
  · rw [lower_asRead]
    exact hbound h.lower fun d he => hd d (.inl he)
  · rw [upper_asRead]
    exact hbound h.upper fun d he => hd d (.inr he)

end Interval

namespace Value

variable {v : Value}

theorem asRead_eq_expression {e : Expression} (h : v.asRead = .expression e) :
    ∃ inner, v = .expression inner ∧ e = inner.asRead := by
  cases v with
  | expression inner => exact ⟨inner, rfl, (Value.expression.inj h).symm⟩
  | decimal d =>
    rw [asRead] at h
    rcases d.asRead_cases with ⟨n, hd⟩ | ⟨x, hd⟩ | hd <;> rw [hd] at h <;> cases h
  | _ => cases h

theorem Printed.plain_asRead (h : v.Printed) (hd : ∀ d, v.HasDecimal d → d.IsReadable) : v.asRead.Plain := by
  cases h with
  | token h ho => exact .scalar (h.asRead_isScalar fun d he => hd d (.inl he)) (h.isOpaque_asRead ho)
  | interval h => exact .interval (h.plain_asRead fun d he => hd d (.inr ⟨_, rfl, he⟩))
  | expression => exact .expression

/-- Only decimals that can be read stand in the place of what is read as plain. -/
theorem isReadable_of_plain_asRead (hp : v.asRead.Plain) (d : Decimal) (hd : v.HasDecimal d) : d.IsReadable := by
  have hbound {b : Value} (hb : b.asRead = .null ∨ b.asRead.IsScalar) (he : b = .decimal d) : d.IsReadable := by
    subst he
    exact hb.resolve_left (mt asRead_eq_null_iff.1 (by simp))
  rcases hd with rfl | ⟨r, rfl, hlower | hupper⟩
  · exact Decimal.isReadable_of_plain hp
  · exact hbound (r.lower_asRead ▸ hp.interval_plain.lower) hlower
  · exact hbound (r.upper_asRead ▸ hp.interval_plain.upper) hupper

end Value

namespace Expression

/-- What holds of an expression as it is read and of all that are nested in it. -/
theorem everywhere_asRead {P Q : Expression → Prop} {e : Expression} (h : e.Everywhere P)
    (hpq : ∀ e, P e → Q e.asRead) : e.asRead.Everywhere Q := by
  induction h with
  | intro e here _ ih =>
    refine .intro _ (hpq e here) fun f hf inner hi => ?_
    rw [fields_asRead] at hf
    obtain ⟨g, hg, rfl⟩ := List.mem_map.1 hf
    rw [FieldValue.value_asRead] at hi
    obtain ⟨nested, hn, rfl⟩ := Value.asRead_eq_expression hi
    exact ih g hg nested hn

theorem Printed.plain_asRead {e : Expression} (h : e.Printed) (hd : e.ReadsDecimals) : e.asRead.Plain := by
  obtain ⟨operator, options, fields⟩ := e
  have hfields := fields_asRead ⟨operator, options, fields⟩
  refine ⟨?_, h.options, ?_, ?_⟩
  · rw [hfields]
    exact checkFields_asRead h.rules
  · intro f hf n hn
    rw [hfields] at hf
    obtain ⟨g, hg, rfl⟩ := List.mem_map.1 hf
    obtain ⟨value, name⟩ := g
    exact h.names _ hg n hn
  · intro f hf
    rw [hfields] at hf
    obtain ⟨g, hg, rfl⟩ := List.mem_map.1 hf
    rw [FieldValue.value_asRead]
    exact (h.values g hg).plain_asRead (hd g hg)

/-- What can be written is read as plain if and only if each decimal can be read. -/
theorem Everywhere.plain_asRead_iff {e : Expression} (h : e.Everywhere Printed) :
    e.asRead.Everywhere Plain ↔ e.Everywhere ReadsDecimals := by
  refine ⟨fun hp => ?_, fun hd => everywhere_asRead (h.and hd) fun e he => he.1.plain_asRead he.2⟩
  induction h with
  | intro e here _ ih =>
    refine .intro e (fun f hf => ?_) fun f hf inner hi => ih f hf inner hi (hp.nested_asRead hf hi)
    exact Value.isReadable_of_plain_asRead (f.value_asRead ▸ hp.here.values _ (mem_fields_asRead hf))

end Expression

end StructuredQuery
