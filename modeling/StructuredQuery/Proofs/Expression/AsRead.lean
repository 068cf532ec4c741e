import StructuredQuery.Proofs.Expression.Spelled
import StructuredQuery.Proofs.Number.Reread
import StructuredQuery.Proofs.Number.Words
import StructuredQuery.Query.Terminal

/-!
Expressions as their text is read. Query text tells neither a decimal from an integer or a float nor a
timestamp from a string, so a number or a string is read in their place; all else is read as it is spelled.
A decimal is written again with the same text if that is also the text of an integer or a float.
-/

namespace StructuredQuery

open Query Text

/-- The number that the text of a decimal is read as. What cannot be read stays as it is. -/
def Decimal.asRead (d : Decimal) : Value :=
  match number? d.write.toList with
  | some (t, _) => (Value.ofNumber t).toOption.getD (.decimal d)
  | none => .decimal d

mutual

/-- A value as its text in a query is read. -/
def Value.asRead : Value → Value
  | .operator o => .text o.text
  | .optionName o => .text o.text
  | .decimal d => d.asRead
  | .timestamp t => .text (String.ofList t.iso)
  | .range r => .range r.asRead
  | .expression e => .expression e.asRead
  | v => v

def Interval.asRead : Interval → Interval
  | ⟨lower, lowerInclusive, upper, upperInclusive⟩ =>
    ⟨lower.asRead, lowerInclusive, upper.asRead, upperInclusive⟩

def FieldValue.asRead : FieldValue → FieldValue
  | ⟨value, name⟩ => ⟨value.asRead, name⟩

def Expression.asRead : Expression → Expression
  | ⟨operator, options, fields⟩ => ⟨operator, options, asReadFields fields⟩

def asReadFields : List FieldValue → List FieldValue
  | [] => []
  | field :: rest => field.asRead :: asReadFields rest

end

theorem asReadFields_eq_map (fields : List FieldValue) : asReadFields fields = fields.map FieldValue.asRead := by
  induction fields with
  | nil => rfl
  | cons field rest ih => rw [asReadFields, ih, List.map_cons]

theorem Interval.lower_asRead (r : Interval) : r.asRead.lower = r.lower.asRead := by
  cases r
  rfl

theorem Interval.upper_asRead (r : Interval) : r.asRead.upper = r.upper.asRead := by
  cases r
  rfl

theorem FieldValue.value_asRead (f : FieldValue) : f.asRead.value = f.value.asRead := by
  cases f
  rfl

theorem Expression.fields_asRead (e : Expression) : e.asRead.fields = e.fields.map FieldValue.asRead := by
  obtain ⟨operator, options, fields⟩ := e
  exact asReadFields_eq_map fields

theorem Expression.mem_fields_asRead {e : Expression} {f : FieldValue} (hf : f ∈ e.fields) :
    f.asRead ∈ e.asRead.fields := by
  rw [fields_asRead]
  exact List.mem_map_of_mem hf

/-- The text of the decimal is read as an integer up to the limit of digits or as a finite float. -/
def Decimal.IsReadable (d : Decimal) : Prop := d.asRead.IsScalar

/-- The text of the decimal is also the text of an integer or of a finite float. -/
def Decimal.SharesText (d : Decimal) : Prop :=
  (∃ n, Integer.write n = .ok d.write) ∨ ∃ x : Binary64, x.isFinite ∧ x.write = d.write

/-! ## Decimals -/

namespace Decimal

/-- A decimal is read back as an integer, as a float or, if neither can hold it, not at all. -/
theorem asRead_cases (d : Decimal) :
    (∃ n, d.asRead = .int n) ∨ (∃ x, d.asRead = .float x) ∨ d.asRead = .decimal d := by
  unfold asRead
  split
  · next t _ _ =>
    unfold Value.ofNumber
    split
    · cases Integer.read t.negative t.whole with
      | error f => exact .inr (.inr rfl)
      | ok n => exact .inl ⟨n, rfl⟩
    · exact .inr (.inl ⟨_, rfl⟩)
  · exact .inr (.inr rfl)

/-- What the digits of a decimal are read as is what it is read back as. -/
theorem asRead_of_take? {d : Decimal} {t : NumberText} {v : Value}
    (h : NumberText.take? isDecimalDigit d.write.toList = some (t, [])) (hv : Value.ofNumber t = .ok v) :
    d.asRead = v := by
  have hnumber : number? d.write.toList = some (t, []) := h
  rw [asRead, hnumber]
  simp only [hv]
  rfl

/-- The text of a finite decimal is taken whole as a number, which is read as the decimal is if it can be. -/
theorem exists_number? {d : Decimal} (hd : d.isFinite) : ∃ t, ∀ rest, Stops NumberText.isContinuation rest →
    number? (d.write.toList ++ rest) = some (t, rest) ∧ GivesIf d.IsReadable (Value.ofNumber t) d.asRead := by
  obtain ⟨t, ht⟩ := exists_take?_write hd
  have hwhole := ht [] (stops_nil _)
  rw [List.append_nil] at hwhole
  refine ⟨t, fun rest hr => ⟨ht rest hr, ?_⟩⟩
  cases hv : Value.ofNumber t with
  | ok v => exact (asRead_of_take? hwhole hv).symm
  | error f =>
    have hnumber : number? d.write.toList = some (t, []) := hwhole
    have hself : d.asRead = .decimal d := by
      rw [asRead, hnumber]
      simp only [hv]
      rfl
    intro hreadable
    rw [IsReadable, hself] at hreadable
    cases hreadable with | text h => cases h

/-- A decimal with the text of an integer or a float is read as that number. -/
theorem SharesText.asRead_cases {d : Decimal} (h : d.SharesText) :
    (∃ n, d.asRead = .int n ∧ (digitsOfNat n.natAbs).length ≤ Integer.digitLimit ∧
      Integer.write n = .ok d.write) ∨
    ∃ x : Binary64, d.asRead = .float x ∧ x.isFinite ∧ x.write = d.write := by
  rcases h with ⟨n, hn⟩ | ⟨x, hx, hw⟩
  · have hlength := Integer.length_of_write hn
    have htext : d.write.toList = Integer.digits n := by
      rw [Integer.write_of_length hlength] at hn
      rw [← Except.ok.inj hn, String.toList_ofList]
    have hread := Integer.read_of_length hlength
    have htake := Integer.take?_digits n (stops_nil NumberText.isContinuation)
    rw [List.append_nil, ← htext] at htake
    refine .inl ⟨n, asRead_of_take? htake ?_, hlength, hn⟩
    simp only [Value.ofNumber, NumberText.isInteger, List.isEmpty_nil, Option.isNone_none, Bool.and_self, if_true,
      hread]
    rfl
  · obtain ⟨t, htake, hi, hv⟩ := Binary64.take?_write hx (stops_nil NumberText.isContinuation)
    rw [List.append_nil, hw] at htake
    refine .inr ⟨x, asRead_of_take? htake ?_, hx, hw⟩
    simp only [Value.ofNumber, hi, Bool.false_eq_true, if_false, hv]

end Decimal

/-! ## Timestamps -/

namespace Timestamp

def isIsoChar (c : Char) : Bool :=
  c.isDigit || c = '-' || c = ':' || c = '.' || c = '+' || c = 'T'

theorem isIsoChar_of_mem_paddedDigits {width n : Nat} : ∀ c ∈ paddedDigits width n, isIsoChar c := by
  intro c hc
  have hdigit := isDigit_of_mem_paddedDigits c hc
  simp [isIsoChar, hdigit]

theorem isIsoChar_of_mem_iso (t : Timestamp) : ∀ c ∈ t.iso, isIsoChar c := by
  have hdigits {width n : Nat} := @isIsoChar_of_mem_paddedDigits width n
  have hoffset (o : Offset) : ∀ c ∈ o.iso, isIsoChar c := by
    have hsign : isIsoChar (if o.seconds < 0 then '-' else '+') := by split <;> decide
    unfold Offset.iso
    simp only [List.append_assoc, List.cons_append, List.forall_mem_cons, List.forall_mem_append]
    refine ⟨hsign, hdigits, by decide, hdigits, ?_⟩
    split
    · simp
    · exact List.forall_mem_cons.2 ⟨by decide, hdigits⟩
  have htime (time : TimeOfDay) : ∀ c ∈ time.iso, isIsoChar c := by
    unfold TimeOfDay.iso
    simp only [List.append_assoc, List.cons_append, List.forall_mem_cons, List.forall_mem_append]
    refine ⟨hdigits, by decide, hdigits, by decide, hdigits, ?_⟩
    split
    · simp
    · exact List.forall_mem_cons.2 ⟨by decide, hdigits⟩
  unfold iso isoWith Date.iso inUniversal
  simp only [List.append_assoc, List.cons_append, List.forall_mem_cons, List.forall_mem_append]
  exact ⟨hdigits, by decide, hdigits, by decide, hdigits, by decide, htime t.time, hoffset _⟩

/-- A timestamp is written as the string of its text. -/
theorem quoted_eq (t : Timestamp) : t.quoted = quote t.iso := by
  have hescape (cs : List Char) (h : ∀ c ∈ cs, isIsoChar c) : escape cs = cs := by
    induction cs with
    | nil => rfl
    | cons c cs ih =>
      have hc : ¬ (c = '\\' ∨ c = '\'') := by
        rintro (rfl | rfl) <;> exact absurd (h _ List.mem_cons_self) (by decide)
      rw [escape, if_neg hc, ih fun d hd => h d (List.mem_cons_of_mem c hd)]
  rw [quoted, quote, hescape _ t.isIsoChar_of_mem_iso]

/-- The text of a timestamp begins with a digit. -/
theorem exists_iso (t : Timestamp) : ∃ c left, t.iso = c :: left ∧ c.isDigit := by
  obtain ⟨c, left, hc⟩ := List.exists_cons_of_ne_nil (paddedDigits_ne_nil 4 t.date.year)
  have hdigit := @isDigit_of_mem_paddedDigits 4 t.date.year c (by simp [hc])
  obtain ⟨rest, hiso⟩ : ∃ rest, t.iso = paddedDigits 4 t.date.year ++ rest := by
    simp only [iso, isoWith, inUniversal, Date.iso, List.append_assoc]
    exact ⟨_, rfl⟩
  exact ⟨c, left ++ rest, by rw [hiso, hc, List.cons_append], hdigit⟩

end Timestamp

/-! ## Values -/

namespace Value

theorem asRead_of_text? {v : Value} {s : String} (h : v.text? = some s) : v.asRead = .text s := by
  cases v <;> simp only [text?, Option.some.injEq, reduceCtorEq] at h
  all_goals
    subst h
    rfl

theorem asRead_eq_null_iff {v : Value} : v.asRead = .null ↔ v = .null := by
  cases v with
  | decimal d =>
    rw [asRead]
    rcases d.asRead_cases with ⟨n, h⟩ | ⟨x, h⟩ | h <;> simp [h]
  | _ => simp [asRead]

/-- Reading back leaves missing bounds missing. -/
theorem isBlank_asRead (v : Value) : v.asRead.isBlank = v.isBlank := by
  cases v with
  | operator o => cases o <;> rfl
  | optionName o => cases o <;> rfl
  | decimal d =>
    rw [asRead]
    rcases d.asRead_cases with ⟨n, h⟩ | ⟨x, h⟩ | h <;> rw [h] <;> rfl
  | timestamp t =>
    obtain ⟨c, left, hiso, -⟩ := t.exists_iso
    simp [asRead, isBlank, hiso]
  | _ => rfl

/-- Numbers and strings of the grammar are read back as they are spelled. -/
theorem IsScalar.asRead_eq {v : Value} (h : v.IsScalar) : v.asRead = v.spelled := by
  cases h with
  | text h => rw [asRead_of_text? h, spelled_of_text? h]
  | int => rfl
  | float => rfl

end Value

-- Along the structure of values, as both functions: what is read is spelled as it is.
mutual

theorem Value.spelled_asRead : ∀ v : Value, v.asRead.spelled = v.asRead
  | .decimal d => by
    rw [Value.asRead]
    rcases d.asRead_cases with ⟨n, h⟩ | ⟨x, h⟩ | h <;> rw [h] <;> rfl
  | .range r => by rw [Value.asRead, Value.spelled, Interval.spelled_asRead r]
  | .expression e => by rw [Value.asRead, Value.spelled, Expression.spelled_asRead e]
  | .operator _ | .optionName _ | .member _ _ _ | .timestamp _ | .null | .bool _ | .int _ | .float _ | .text _ | .date _
  | .time _ | .bytes _ | .list _ | .tuple _ | .progression _ | .mapping _ | .option _ | .field _ => rfl

theorem Interval.spelled_asRead : ∀ r : Interval, r.asRead.spelled = r.asRead
  | ⟨lower, _, upper, _⟩ => by
    rw [Interval.asRead, Interval.spelled, Value.spelled_asRead lower, Value.spelled_asRead upper]

theorem FieldValue.spelled_asRead : ∀ f : FieldValue, f.asRead.spelled = f.asRead
  | ⟨value, _⟩ => by rw [FieldValue.asRead, FieldValue.spelled, Value.spelled_asRead value]

/-- What is read back is spelled as the grammar spells it. -/
theorem Expression.spelled_asRead : ∀ e : Expression, e.asRead.spelled = e.asRead
  | ⟨_, _, fields⟩ => by rw [Expression.asRead, Expression.spelled, spelledFields_asReadFields fields]

theorem spelledFields_asReadFields : ∀ fields, spelledFields (asReadFields fields) = asReadFields fields
  | [] => rfl
  | field :: rest => by
    rw [asReadFields, spelledFields, FieldValue.spelled_asRead field, spelledFields_asReadFields rest]

end

/-- Fields that obey the rules of an operator obey them as they are read. -/
theorem Expression.checkFields_asRead {operator : Operator} {fields : List FieldValue}
    (h : checkFields operator fields = .ok ()) : checkFields operator (fields.map FieldValue.asRead) = .ok () := by
  cases fields with
  | nil => cases h
  | cons first others =>
    obtain ⟨value, name⟩ := first
    -- only the first field is looked at, and whether there are others
    have hmany : (others.map FieldValue.asRead).isEmpty = others.isEmpty := by cases others <;> rfl
    rw [List.map_cons, FieldValue.asRead]
    unfold checkFields at h ⊢
    dsimp only at h ⊢
    rw [hmany]
    split at h
    · cases h
    · next hsingle =>
      rw [if_neg hsingle]
      cases operator with
      | and | or | not | term => rfl
      | near | phrase | beginning =>
        cases hs : value.text? with
        -- a value that is no text is an interval here
        | none =>
          rw [hs] at h
          cases h
        | some s =>
          rw [hs] at h
          rw [Value.asRead_of_text? hs]
          exact h
      | range =>
        cases hs : value.text? with
        | none =>
          cases value <;> simp [Value.text?] at hs h
          rfl
        | some s =>
          rw [Value.asRead_of_text? hs]
          cases value <;> simp [Value.text?] at hs h ⊢ <;> simp_all

end StructuredQuery
