import StructuredQuery.Proofs.Query.Decimals

/-!
Expressions that are written and read back. What is plain holds no decimals and no timestamps, so it is read as it
is spelled, and what is spelled equals what it spells.
-/

namespace StructuredQuery

open Query Text

/-! ## What is plain is read as it is spelled -/

/-- Plain values can be printed. -/
theorem Value.Plain.printed {v : Value} (h : v.Plain) : v.Printed := by
  cases h with
  | scalar h ho => exact .token (.scalar h) ho
  | interval h =>
    obtain ⟨_, _, _, _, hmade⟩ := h.made
    exact .interval ⟨Interval.sound_of_ofDescriptor hmade, h.lower.imp_right .scalar, h.upper.imp_right .scalar⟩
  | expression => exact .expression _

/-- Plain expressions can be printed. -/
theorem Expression.Plain.printed {e : Expression} (h : e.Plain) : e.Printed :=
  ⟨h.rules, h.options, h.names, fun f hf => (h.values f hf).printed⟩

theorem Value.IsScalar.not_decimal {v : Value} (h : v.IsScalar) (d : Decimal) : v ≠ .decimal d := by
  rintro rfl
  cases h with | text h => cases h

/-- What is plain holds no decimal. -/
theorem Value.Plain.not_hasDecimal {v : Value} (h : v.Plain) (d : Decimal) : ¬ v.HasDecimal d := by
  have hbound {b : Value} (hb : b = .null ∨ b.IsScalar) : b ≠ .decimal d := by
    rcases hb with rfl | hb
    · simp
    · exact hb.not_decimal d
  rintro (rfl | ⟨r, rfl, hd⟩)
  · cases h with | scalar h => exact h.not_decimal d rfl
  · exact hd.elim (hbound h.interval_plain.lower) (hbound h.interval_plain.upper)

/-- What is read back of a plain value is plain again. -/
theorem Value.Plain.plain_asRead {v : Value} (h : v.Plain) : v.asRead.Plain :=
  h.printed.plain_asRead fun d hd => absurd hd (h.not_hasDecimal d)

/-- A plain interval is read back as it is spelled. -/
theorem Interval.Plain.asRead_eq {r : Interval} (h : r.Plain) : r.asRead = r.spelled := by
  have hbound {v : Value} (hv : v = .null ∨ v.IsScalar) : v.asRead = v.spelled := by
    rcases hv with rfl | hv
    · rfl
    · exact hv.asRead_eq
  obtain ⟨lower, lowerInclusive, upper, upperInclusive⟩ := r
  rw [asRead, spelled, hbound h.lower, hbound h.upper]

theorem FieldValue.asRead_eq {f : FieldValue} (h : f.value.Plain)
    (hnested : ∀ e, f.value = .expression e → e.asRead = e.spelled) : f.asRead = f.spelled := by
  obtain ⟨v, name⟩ := f
  have hvalue : v.asRead = v.spelled := by
    cases h with
    | scalar h => exact h.asRead_eq
    | interval h => rw [Value.asRead, Value.spelled, h.asRead_eq]
    | @expression e => rw [Value.asRead, Value.spelled, hnested e rfl]
  rw [FieldValue.asRead, FieldValue.spelled, hvalue]

namespace Expression

/-- An expression that is plain everywhere is read back as it is spelled. -/
theorem Everywhere.asRead_eq {e : Expression} (h : e.Everywhere Plain) : e.asRead = e.spelled := by
  induction h with
  | intro e here _ ih =>
    have hfields : e.fields.map FieldValue.asRead = e.fields.map FieldValue.spelled :=
      List.map_congr_left fun f hf => FieldValue.asRead_eq (here.values f hf) (ih f hf)
    obtain ⟨operator, options, fields⟩ := e
    rw [asRead, spelled, asReadFields_eq_map, spelledFields_eq_map]
    exact congrArg _ hfields

theorem Everywhere.plain_asRead {e : Expression} (h : e.Everywhere Plain) : e.asRead.Everywhere Plain :=
  everywhere_asRead h fun _ he => he.printed.plain_asRead fun f hf d hd =>
    absurd hd ((he.values f hf).not_hasDecimal d)

end Expression

theorem Interval.Plain.equal_spelled {r : Interval} (h : r.Plain) : r.spelled.equal r = .ok true := by
  have hbound {v : Value} (hv : v = .null ∨ v.IsScalar) : v.spelled.equal v = .ok true := by
    rcases hv with rfl | hv
    · rfl
    · exact hv.equal_spelled
  obtain ⟨lower, lowerInclusive, upper, upperInclusive⟩ := r
  have hl := hbound h.lower
  have hu := hbound h.upper
  dsimp only at hl hu
  rw [Interval.spelled, Interval.equal, hl, hu]
  simp only [if_true]
  rfl

/-- Fields are equal to what they are spelled as if their values are. -/
theorem equal_spelledFields {fields : List FieldValue}
    (h : ∀ f ∈ fields, f.value.spelled.equal f.value = .ok true) :
    fieldsEqual (spelledFields fields) fields = .ok true := by
  induction fields with
  | nil => rfl
  | cons f rest ih =>
    obtain ⟨value, name⟩ := f
    have hvalue := h _ List.mem_cons_self
    have hfirst : FieldValue.equal ⟨value.spelled, name⟩ ⟨value, name⟩ = .ok true := by
      rw [FieldValue.equal, hvalue]
      exact congrArg Except.ok (decide_eq_true rfl)
    rw [spelledFields, fieldsEqual, FieldValue.spelled, hfirst,
      ih fun f hf => h f (List.mem_cons_of_mem _ hf)]
    rfl

/-- What a field holds is of a kind that can be spelled, even if it would be taken over as it is. -/
inductive Value.HasSpelling : Value → Prop
  | scalar {v : Value} (h : v.IsScalar) : HasSpelling v
  | interval {r : Interval} (h : r.Plain) : HasSpelling (.range r)
  | expression {e : Expression} : HasSpelling (.expression e)

theorem Value.Plain.hasSpelling {v : Value} (h : v.Plain) : v.HasSpelling := by
  cases h with
  | scalar h => exact .scalar h
  | interval h => exact .interval h
  | expression => exact .expression

theorem Expression.Everywhere.equal_of_hasSpelling {e : Expression}
    (h : e.Everywhere fun e => ∀ f ∈ e.fields, f.value.HasSpelling) : e.spelled.equal e = .ok true := by
  induction h with
  | intro e here _ ih =>
    have hvalue (f : FieldValue) (hf : f ∈ e.fields) : f.value.spelled.equal f.value = .ok true := by
      -- intervals and expressions are compared by their parts, all else as scalars
      have hspelling := here f hf
      cases hv : f.value with
      | range r =>
        rw [hv] at hspelling
        cases hspelling with
        | scalar h => cases h with | text h => cases h
        | interval h =>
          rw [Value.spelled, Value.equal]
          exact h.equal_spelled
      | expression inner =>
        rw [Value.spelled, Value.equal]
        exact ih f hf inner hv
      | _ =>
        rw [hv] at hspelling
        cases hspelling with
        | scalar h => exact h.equal_spelled
    obtain ⟨operator, options, fields⟩ := e
    rw [Expression.spelled, Expression.equal, if_pos ⟨rfl, rfl⟩]
    exact equal_spelledFields hvalue

/-- A plain expression counts as equal to its spelling. -/
theorem Expression.Everywhere.equal_spelled {e : Expression} (h : e.Everywhere Plain) :
    e.spelled.equal e = .ok true :=
  equal_of_hasSpelling (h.imp fun _ here f hf => (here.values f hf).hasSpelling)

end StructuredQuery
