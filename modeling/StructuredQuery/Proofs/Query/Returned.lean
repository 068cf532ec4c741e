import StructuredQuery.Proofs.Query.Accepted

/-!
What the reader of query texts can return. Numbers that are too large, bounds that are empty and brackets
that include a missing bound are refused or put right at every depth, so all that is left in an expression
that was read can be written again.
-/

namespace StructuredQuery

open Query Text

/-- A number that can be written: an integer within the limit of digits or a finite float. -/
inductive Value.IsWritableNumber : Value → Prop
  | int {n : Int} {text : String} (h : Integer.write n = .ok text) : IsWritableNumber (.int n)
  | float {x : Binary64} (h : x.isFinite) : IsWritableNumber (.float x)

def Value.IsFilledText (v : Value) : Prop :=
  ∃ s, v = .text s ∧ s ≠ ""

def Interval.Bound (r : Interval) (v : Value) : Prop :=
  (v = r.lower ∨ v = r.upper) ∧ v ≠ .null

structure Interval.Returned (r : Interval) : Prop where
  bounded : ∃ v, r.Bound v
  alike : (∀ v, r.Bound v → v.IsWritableNumber) ∨ ∀ v, r.Bound v → v.IsFilledText
  lower : r.lowerInclusive → r.lower ≠ .null
  upper : r.upperInclusive → r.upper ≠ .null

inductive Value.Returned : Value → Prop
  | text (s : String) : Returned (.text s)
  | number {v : Value} (h : v.IsWritableNumber) : Returned v
  | interval {r : Interval} (h : r.Returned) : Returned (.range r)
  | expression (e : Expression) : Returned (.expression e)

/-- An expression as the reader returns it, as far as its own options and fields go. -/
structure Expression.Returned (e : Expression) : Prop where
  rules : checkFields e.operator e.fields = .ok ()
  options : ∀ o ∈ e.options, o.name ∈ e.operator.accepted ∧ ∃ word, o.value = some word ∧ isWord word.toList
  names : ∀ f ∈ e.fields, ∀ n, f.name = some n →
    Terminal.fieldName.pattern.Matches n.toList ∧ Operator.ofText? n = none
  values : ∀ f ∈ e.fields, f.value.Returned

theorem Value.isWritableNumber_int {n : Int} (h : (digitsOfNat n.natAbs).length ≤ Integer.digitLimit) :
    (Value.int n).IsWritableNumber :=
  .int (Integer.write_of_length h)

/-- A bound that is a number is an integer or a float. -/
theorem Value.IsScalar.isWritableNumber {v : Value} (h : v.IsScalar) (hf : v.family? = some .number) :
    v.IsWritableNumber := by
  cases h with
  | text h => cases v <;> simp [Value.text?] at h <;> cases hf
  | int h => exact isWritableNumber_int h
  | float h => exact .float h

/-- A bound that is a text and spelled as it is is that text. -/
theorem Value.IsScalar.isFilledText {v : Value} (h : v.IsScalar) (hs : v.spelled = v)
    (hb : v.isBlank = false) (hf : v.family? = some .text) : v.IsFilledText := by
  cases h with
  | @text v s h =>
    obtain rfl : v = .text s := hs.symm.trans (spelled_of_text? h)
    refine ⟨s, rfl, ?_⟩
    rintro rfl
    cases hb
  | int => cases hf
  | float h => simp [family?, isNumber, h] at hf

/-- No scalar of a query text is a timestamp. -/
theorem Value.IsScalar.family?_ne_timestamp {v : Value} (h : v.IsScalar) : v.family? ≠ some .timestamp := by
  cases h with
  | text h => cases v <;> simp [Value.text?] at h <;> simp [family?, isNumber, text?]
  | int => simp [family?, isNumber]
  | float h => simp [family?, isNumber, h]

/-- Intervals of the grammar are as the reader returns them. -/
theorem Interval.Plain.returned {r : Interval} (h : r.Plain) (hs : r.spelled = r) : r.Returned := by
  obtain ⟨_, _, _, _, hmade⟩ := h.made
  have hvalid := valid_of_ofDescriptor hmade
  obtain ⟨hlb, hub⟩ := bounds_of_ofDescriptor hmade
  obtain ⟨family, hlf, huf⟩ := hvalid.family
  have hspelled : r.lower.spelled = r.lower ∧ r.upper.spelled = r.upper := by
    obtain ⟨lower, lowerInclusive, upper, upperInclusive⟩ := r
    rw [Interval.spelled, Interval.mk.injEq] at hs
    exact ⟨hs.1, hs.2.2.1⟩
  -- what is known of either side is known of a bound that is there
  have hbound (v : Value) (hv : r.Bound v) :
      v.IsScalar ∧ v.spelled = v ∧ v.isBlank = false ∧ v.family? = some family := by
    obtain ⟨rfl | rfl, hn⟩ := hv
    · exact ⟨h.lower.resolve_left hn, hspelled.1, hlb.resolve_left hn, hlf hn⟩
    · exact ⟨h.upper.resolve_left hn, hspelled.2, hub.resolve_left hn, huf hn⟩
  refine ⟨?_, ?_, hvalid.lower, hvalid.upper⟩
  · rcases hvalid.bounded with hn | hn
    · exact ⟨r.lower, .inl rfl, hn⟩
    · exact ⟨r.upper, .inr rfl, hn⟩
  · cases family with
    | number =>
      left
      intro v hv
      obtain ⟨hscalar, -, -, hf⟩ := hbound v hv
      exact hscalar.isWritableNumber hf
    | text =>
      right
      intro v hv
      obtain ⟨hscalar, hsame, hb, hf⟩ := hbound v hv
      exact hscalar.isFilledText hsame hb hf
    | timestamp =>
      left
      intro v hv
      obtain ⟨hscalar, -, -, hf⟩ := hbound v hv
      exact absurd hf hscalar.family?_ne_timestamp

/-- Every value that a field holds after reading is as the reader returns it. -/
theorem Value.Readable.returned {v : Value} (h : v.Readable) : v.Returned := by
  cases h with
  | text s => exact .text s
  | int h => exact .number (isWritableNumber_int h)
  | float h => exact .number (.float h)
  | interval h hs => exact .interval (h.returned hs)
  | expression e => exact .expression e

theorem Expression.Readable.returned {e : Expression} (h : e.Readable) : e.Returned :=
  ⟨h.rules, h.options, fun f hf => (h.fields f hf).name, fun f hf => (h.fields f hf).value.returned⟩

/-- Whatever the text, if an expression is read, then everywhere in it the rules of the operator hold, its
options are ones that the operator accepts and have words, names are spelled as the grammar has them and
name no operator, and fields hold texts, writable numbers, intervals of such bounds, or expressions. -/
theorem Expression.returned_of_ofText (text : String) (e : Expression) (h : ofText text = .ok e) :
    e.Everywhere Returned :=
  (readable_of_ofText h).imp fun _ => Readable.returned

/-- The case of an option that is not accepted, an empty bound and a bracket that includes a missing one. -/
theorem Expression.returned_of_ofText_mended :
    let e : Expression := ⟨.and, [⟨.boost, some "2"⟩], [⟨.range ⟨.null, false, .text "z", true⟩, some "title"⟩,
      ⟨.expression ⟨.not, [], [⟨.int (-7), none⟩]⟩, none⟩]⟩
    ofText "(and boost=2 distance=3 title:['','z'] not:-007)" = .ok e ∧ e.Everywhere Returned := by
  intro e
  have htree : Tree.ofText? "(and boost=2 distance=3 title:['','z'] not:-007)".toList =
      some (.node "and".toList [.option .boost "2".toList, .option .distance "3".toList,
        .field (some "title".toList) (.range true (some (.text [])) (some (.text ['z'])) true),
        .field (some "not".toList) (.scalar (.number ⟨true, "007".toList, [], none⟩))]) := by
    cbv
  have hread : ofText "(and boost=2 distance=3 title:['','z'] not:-007)" = .ok e := by
    have hvalue := ofText_of_tree (by decide) htree
    rw [String.ofList_toList] at hvalue
    exact hvalue.trans rfl
  exact ⟨hread, returned_of_ofText _ e hread⟩

end StructuredQuery
