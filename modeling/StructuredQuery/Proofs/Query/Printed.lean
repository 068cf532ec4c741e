import StructuredQuery.Proofs.Expression.AsRead
import StructuredQuery.Proofs.Query.Taken

/-!
Expressions that can be written, with decimals and timestamps among their scalars. Their text always follows
the grammar. It is read as the expression is, unless a number in it turns out to be too large for what it is
read as.
-/

namespace StructuredQuery

open Query Text

/-- Scalars that are written as one terminal: those that are read as they are spelled, finite decimals and
timestamps. -/
inductive Value.IsToken : Value → Prop
  | scalar {v : Value} (h : v.IsScalar) : IsToken v
  | decimal {d : Decimal} (h : d.isFinite) : IsToken (.decimal d)
  | timestamp (t : Timestamp) : IsToken (.timestamp t)

structure Interval.Printed (r : Interval) : Prop where
  sound : r.Sound
  lower : r.lower = .null ∨ r.lower.IsToken
  upper : r.upper = .null ∨ r.upper.IsToken

/-- What a field holds that can be written and is not taken over as it is. -/
inductive Value.Printed : Value → Prop
  | token {v : Value} (h : v.IsToken) (ho : ∀ s, v.text? = some s → isOpaque s.toList = false) : Printed v
  | interval {r : Interval} (h : r.Printed) : Printed (.range r)
  | expression (e : Expression) : Printed (.expression e)

/-- An expression that can be written, as far as its own options and fields go. -/
structure Expression.Printed (e : Expression) : Prop where
  rules : checkFields e.operator e.fields = .ok ()
  options : ∀ o ∈ e.options, o.name ∈ e.operator.accepted ∧ o.Valid
  names : ∀ f ∈ e.fields, ∀ n, f.name = some n →
    Terminal.fieldName.pattern.Matches n.toList ∧ Operator.ofText? n = none
  values : ∀ f ∈ e.fields, f.value.Printed

/-! ## Scalars and intervals -/

theorem Value.IsToken.ne_null {v : Value} (h : v.IsToken) : v ≠ .null := by
  rintro rfl
  cases h with
  | scalar h => exact h.ne_null rfl

theorem writeBound_decimal {d : Decimal} (h : d.isFinite) :
    writeBound (.decimal d) (Value.decimal d).written = .ok d.write.toList := by
  rw [Value.written]
  simp [writeBound, Value.isNumber, h]

/-- The text of a token is taken as a scalar, which has the value it is read back as, if any. -/
theorem Value.IsToken.exists_takesScalar {v : Value} (h : v.IsToken) :
    ∃ w, writeBound v v.written = .ok w ∧ TakesScalar w fun s => GivesIf v.asRead.IsScalar s.value v.asRead := by
  cases h with
  | scalar h =>
    obtain ⟨w, hw, hread⟩ := h.exists_takesScalar
    rw [h.asRead_eq]
    exact ⟨w, hw, hread.imp fun _ => givesIf_of_eq⟩
  | @decimal d h =>
    obtain ⟨t, ht⟩ := d.exists_number? h
    refine ⟨_, writeBound_decimal h, fun rest hr => ?_⟩
    obtain ⟨hnumber, hvalue⟩ := ht rest hr
    exact ⟨.number t, scalar?_of_number? hnumber, hvalue⟩
  | timestamp t =>
    refine ⟨t.quoted, rfl, ?_⟩
    rw [t.quoted_eq]
    refine (takesScalar_quote t.iso).imp ?_
    rintro _ rfl
    rw [Scalar.value, unescape_escape]
    exact rfl

/-- A token to match is written as a bound is, unless it is taken over as it is. -/
theorem Value.IsToken.writeContent_eq {v : Value} (h : v.IsToken)
    (ho : ∀ s, v.text? = some s → Text.isOpaque s.toList = false) :
    writeContent v v.written = writeBound v v.written := by
  cases h with
  | scalar h => exact h.writeContent_eq ho
  | decimal h => simp only [writeContent, writeBound, Value.isNumber, h, if_true]
  | timestamp t => rfl

/-- A bound is taken with the value that it is read back as, if it has one. -/
theorem exists_boundText_asRead {v : Value} (h : v = .null ∨ v.IsToken) :
    ∃ w, boundText v = .ok w ∧ TakesBound w fun b =>
      GivesIf (v.asRead = .null ∨ v.asRead.IsScalar) (boundValue b) v.asRead := by
  rcases h with rfl | h
  · refine ⟨[], rfl, takesBound_nil.imp ?_⟩
    rintro _ rfl
    exact rfl
  · obtain ⟨w, hw, hread⟩ := h.exists_takesScalar
    refine ⟨w, (boundText_of_ne_null h.ne_null).trans hw, hread.bound.imp ?_⟩
    rintro _ ⟨s, rfl, hv⟩
    exact hv.of_imp fun hs => hs.resolve_left (mt Value.asRead_eq_null_iff.1 h.ne_null)

/-- An interval that is made of the bounds of another, each given for its own side, is that one. -/
theorem Interval.givesIf_ofDescriptor {r : Interval} (hl : r.lower = .null ∨ r.lower.isBlank = false)
    (hu : r.upper = .null ∨ r.upper.isBlank = false) (hli : r.lowerInclusive → r.lower ≠ .null)
    (hui : r.upperInclusive → r.upper ≠ .null) :
    GivesIf r.Plain (ofDescriptor (if r.lowerInclusive then r.lower else .null)
      (if r.lowerInclusive then .null else r.lower) (if r.upperInclusive then r.upper else .null)
      (if r.upperInclusive then .null else r.upper)) r := by
  refine givesIf_iff.2 ⟨fun made hmade => ?_, fun hp => ?_⟩
  · obtain ⟨-, hmade⟩ := ofDescriptor_eq_ok hmade
    rw [side_given hl hli, side_given hu hui] at hmade
    obtain ⟨lower, lowerInclusive, upper, upperInclusive⟩ := r
    exact hmade
  · obtain ⟨_, _, _, _, hmade⟩ := hp.made
    exact (valid_of_ofDescriptor hmade).ofDescriptor_eq hl hu

/-- The text of an interval is taken with the interval that it is read back as, if that is one. -/
theorem Interval.Printed.exists_takesTerm {r : Interval} (h : r.Printed) :
    ∃ w, r.written = .ok w ∧ TakesTerm w fun term => GivesIf r.asRead.Plain term.value (.range r.asRead) := by
  obtain ⟨low, hlow, hreadLow⟩ := exists_boundText_asRead h.lower
  obtain ⟨high, hhigh, hreadHigh⟩ := exists_boundText_asRead h.upper
  obtain ⟨w, c, left, hw, hcs, hc, hread⟩ :=
    r.exists_flatTerm? h.sound.valid hlow hhigh hreadLow hreadHigh
  refine ⟨w, hw, ⟨c, left, hcs, by simp [hc]⟩, fun rest _ => ?_⟩
  obtain ⟨b, b', ht, hb, hb'⟩ := hread rest
  refine ⟨_, term?_of_flatTerm? ht, ?_⟩
  have hl : GivesIf r.asRead.Plain (boundValue b) r.lower.asRead :=
    hb.of_imp fun hp => r.lower_asRead ▸ hp.lower
  have hu : GivesIf r.asRead.Plain (boundValue b') r.upper.asRead :=
    hb'.of_imp fun hp => r.upper_asRead ▸ hp.upper
  obtain ⟨lower, lowerInclusive, upper, upperInclusive⟩ := r
  -- a bound is missing or blank once it is read back just if it was before
  have hbound {v : Value} (hv : v = .null ∨ v.isBlank = false) : v.asRead = .null ∨ v.asRead.isBlank = false := by
    rwa [Value.asRead_eq_null_iff, Value.isBlank_asRead]
  have hmade := Interval.givesIf_ofDescriptor
    (r := ⟨lower.asRead, lowerInclusive, upper.asRead, upperInclusive⟩) (hbound h.sound.lower)
    (hbound h.sound.upper) (fun hi => mt Value.asRead_eq_null_iff.1 (h.sound.valid.lower hi))
    (fun hi => mt Value.asRead_eq_null_iff.1 (h.sound.valid.upper hi))
  rw [Term.value]
  refine (givesIf_liftM hl).bind ((givesIf_liftM hu).bind ?_)
  exact hmade.map Value.range

/-! ## Fields -/

theorem Value.Plain.interval_plain {r : Interval} (h : (Value.range r).Plain) : r.Plain := by
  cases h with
  | scalar h => cases h with | text h => cases h
  | interval h => exact h

/-- A decimal that is read back as a plain value can be read. -/
theorem Decimal.isReadable_of_plain {d : Decimal} (h : d.asRead.Plain) : d.IsReadable := by
  rw [IsReadable]
  rcases d.asRead_cases with ⟨n, hd⟩ | ⟨x, hd⟩ | hd <;> rw [hd] at h ⊢ <;> cases h <;> assumption

theorem Value.IsToken.asRead_isScalar {v : Value} (h : v.IsToken) (hd : ∀ d, v = .decimal d → d.IsReadable) :
    v.asRead.IsScalar := by
  cases h with
  | scalar h =>
    cases h with
    | text h =>
      rw [asRead_of_text? h]
      exact .text rfl
    | int h => exact .int h
    | float h => exact .float h
  | @decimal d => exact hd d rfl
  | timestamp => exact .text rfl

theorem Value.IsToken.isScalar_of_plain {v : Value} (h : v.IsToken) (hp : v.asRead.Plain) : v.asRead.IsScalar := by
  refine h.asRead_isScalar ?_
  rintro d rfl
  exact Decimal.isReadable_of_plain hp

/-- The values that the parts of a query text are read as. -/
inductive Value.IsContent : Value → Prop
  | text (s : String) : IsContent (.text s)
  | int (n : Int) : IsContent (.int n)
  | float (x : Binary64) : IsContent (.float x)
  | decimal (d : Decimal) : IsContent (.decimal d)
  | interval (r : Interval) : IsContent (.range r)
  | expression (e : Expression) : IsContent (.expression e)

namespace Value

/-- What a printed value is read back as may stand in a query text. -/
theorem Printed.isContent_asRead {v : Value} (h : v.Printed) : v.asRead.IsContent := by
  cases h with
  | token h =>
    cases h with
    | scalar h =>
      cases h with
      | text h =>
        rw [asRead_of_text? h]
        exact .text _
      | int => exact .int _
      | float => exact .float _
    | @decimal d =>
      rw [asRead]
      rcases d.asRead_cases with ⟨n, h⟩ | ⟨x, h⟩ | h <;> rw [h]
      · exact .int n
      · exact .float x
      · exact .decimal d
    | timestamp => exact .text _
  | interval => exact .interval _
  | expression => exact .expression _

/-- What stands in a query text is what a field holds, or it is no number. -/
theorem IsContent.givesIf_content {v : Value} (h : v.IsContent) : GivesIf v.Plain v.content v := by
  cases h with
  | text | int | interval | expression => exact rfl
  | float x =>
    simp only [content, text?, Option.isSome_none, Bool.false_or]
    split
    · exact rfl
    · next hn =>
      -- a float that is no number is refused, but then it is not plain either
      have hnot : ¬ (Value.float x).Plain := fun hp => by
        cases hp with
        | scalar hs => cases hs with
          | text ht => cases ht
          | float hx => exact hn hx
      exact meets_unusable _ (fun _ _ => hnot) fun _ _ => hnot
  | decimal d =>
    have hnot : ¬ (Value.decimal d).Plain := fun hp => by
      cases hp with
      | scalar hs => cases hs with | text ht => cases ht
    simp only [content, text?, Option.isSome_none, Bool.false_or]
    split
    · exact rfl
    · exact meets_unusable _ (fun _ _ => hnot) fun _ _ => hnot

theorem IsContent.ne_field {v : Value} (h : v.IsContent) (f : FieldValue) : v ≠ .field f := by
  rintro rfl
  cases h

/-- A field of such a value that names no operator holds the value, if it can be used. -/
theorem IsContent.givesIf_ofNamed {name v : Value} {n : Option String} (h : v.IsContent)
    (ho : name.operator? = none) (hn : name.fieldName? = .ok n) (conditions : List Condition) :
    GivesIf v.Plain (FieldValue.ofNamed name v conditions) ⟨v, n⟩ := by
  rw [FieldValue.ofNamed_eq conditions ho hn h.ne_field]
  exact h.givesIf_content.map (FieldValue.mk · n)

theorem IsContent.reading_entry {v : Value} (h : v.IsContent) :
    v.reading.entry = .positional ((FieldValue.ofUnnamed v).map some) := by
  cases h <;> rfl

end Value

/-- A condition that is a given field, if what the field holds can be used. -/
def Condition.IsField (c : Condition) (f : FieldValue) : Prop :=
  ∃ candidate, c = .positional candidate ∧ GivesIf f.value.Plain candidate (some f)

theorem FieldValue.isField_condition {f : FieldValue} (h : f.value.IsContent) :
    f.condition.reading.entry.IsField f := by
  obtain ⟨v, name⟩ := f
  cases name with
  | none => exact ⟨_, h.reading_entry, (h.givesIf_ofNamed rfl rfl []).map some⟩
  | some n => exact ⟨_, rfl, rfl⟩

section Fields

variable {p : Prop}

/-- What a field holds is taken as it is read if nested expressions are. -/
theorem Value.Printed.exists_takesTerm {v : Value} (h : v.Printed) (hp : p → v.asRead.Plain)
    (hnested : ∀ e, v = .expression e → ∃ left, e.written = .ok ('(' :: left) ∧
      TakesTree ('(' :: left) fun tree => GivesIf p tree.value e.asRead) :
    ∃ w, writeContent v v.written = .ok w ∧ TakesTerm w fun term => GivesIf p term.value v.asRead := by
  -- a token is taken as a scalar, an interval as such, a nested expression by what is known of it
  cases h with
  | token h ho =>
    obtain ⟨w, hw, hread⟩ := h.exists_takesScalar
    refine ⟨w, (h.writeContent_eq ho).trans hw, hread.term.imp ?_⟩
    rintro _ ⟨s, rfl, hs⟩
    rw [Term.value]
    exact givesIf_liftM (hs.of_imp fun hq => h.isScalar_of_plain (hp hq))
  | interval h =>
    obtain ⟨w, hw, hread⟩ := h.exists_takesTerm
    refine ⟨w, ?_, hread.imp fun term ht => ht.of_imp fun hq => (hp hq).interval_plain⟩
    rw [Value.written]
    exact hw
  | expression e =>
    obtain ⟨left, hw, hread⟩ := hnested e rfl
    refine ⟨_, ?_, hread.term.imp ?_⟩
    · rw [Value.written]
      exact hw
    · rintro _ ⟨tree, rfl, ht⟩
      rw [Term.value]
      exact ht.map Value.expression

/-- A printed field is taken as an item, and its condition is that of the field read back. -/
theorem FieldValue.exists_takesItem {f : FieldValue} (hv : f.value.Printed) (hp : p → f.value.asRead.Plain)
    (hname : ∀ n, f.name = some n →
      Terminal.fieldName.pattern.Matches n.toList ∧ Operator.ofText? n = none)
    (hnested : ∀ e, f.value = .expression e → ∃ left, e.written = .ok ('(' :: left) ∧
      TakesTree ('(' :: left) fun tree => GivesIf p tree.value e.asRead) :
    ∃ w, f.written = .ok w ∧ TakesItem w fun item => GivesIf p item.value f.asRead.condition := by
  obtain ⟨v, name⟩ := f
  obtain ⟨w, hw, hread⟩ := hv.exists_takesTerm hp hnested
  rw [FieldValue.written, hw, FieldValue.asRead]
  cases name with
  | none =>
    refine ⟨w, rfl, hread.item.imp ?_⟩
    rintro _ ⟨term, rfl, ht⟩
    rw [Item.value]
    exact ht
  | some n =>
    obtain ⟨hn, ho⟩ := hname n rfl
    obtain ⟨c, left, rfl, -⟩ := hread.front
    have hoperator : (Value.text n).operator? = none := ho
    have hfield := Value.fieldName?_text (ne_empty_of_matches_fieldName hn)
    -- the name is one of the grammar and names no operator, so it stays a name when it is read
    have hmade := hv.isContent_asRead.givesIf_ofNamed hoperator hfield v.asRead.conditions
    refine ⟨_, rfl, (hread.named hn).imp ?_⟩
    rintro _ ⟨term, rfl, ht⟩
    rw [Item.value, String.ofList_toList]
    exact GivesIf.bind ht ((hmade.of_imp hp).map Value.field)

end Fields

/-! ## Expressions -/

namespace Expression

/-- Conditions of fields give these fields in their order. -/
theorem eq_ofField_of_mapM {cs : List Condition} {fields : List FieldValue} {found : List (Option FieldValue)}
    (h : List.Forall₂ Condition.IsField cs fields)
    (hm : (cs.filterMap Condition.positional?).mapM id = .ok found) : cs = fields.map ofField := by
  induction h generalizing found with
  | nil => rfl
  | cons hc _ ih =>
    obtain ⟨candidate, rfl, hgives⟩ := hc
    have hpositional : Condition.positional? (.positional candidate) = some candidate := rfl
    rw [List.filterMap_cons_some hpositional, List.mapM_cons] at hm
    obtain ⟨x, hx, hm⟩ := bind_eq_ok_iff.1 hm
    obtain ⟨more, hmore, -⟩ := bind_eq_ok_iff.1 hm
    obtain rfl : candidate = .ok x := hx
    obtain rfl := hgives
    rw [List.map_cons, ← ih hmore]
    rfl

/-- From options and conditions that are given fields, if any, an expression of those parts is made. -/
theorem eq_of_ofConditions {operator : Operator} {options : List OperatorOption} {cs : List Condition}
    {fields : List FieldValue} {e : Expression} (ho : ∀ o ∈ options, o.name ∈ operator.accepted)
    (h : List.Forall₂ Condition.IsField cs fields)
    (he : ofConditions operator (options.map .option ++ cs) = .ok e) : e = ⟨operator, options, fields⟩ := by
  have hfields := fieldsOf_of_ofConditions he
  rw [fieldsOf, List.filterMap_append, filterMap_option _ fun _ => rfl, List.nil_append] at hfields
  obtain ⟨found, hfound, -⟩ := bind_eq_ok_iff.1 hfields
  rw [eq_ofField_of_mapM h hfound] at he
  exact (ofConditions_parts_eq_ok ho he).2

/-- The parts of an expression that is read back make it again, if it is one. -/
theorem Printed.givesIf_new {e : Expression} (h : e.Printed) :
    GivesIf e.asRead.Plain (Expression.new (.text e.operator.text)
      (.list (e.options.map .option ++ e.fields.map fun f => f.asRead.condition))) e.asRead := by
  obtain ⟨operator, options, fields⟩ := e
  have hoperator : (Value.text operator.text).operator? = some operator := Operator.ofText?_text operator
  refine givesIf_iff.2 ⟨fun e he => ?_, fun hp => ?_⟩
  · have hcs : List.Forall₂ Condition.IsField (fields.map fun f => f.asRead.condition.reading.entry)
        (fields.map FieldValue.asRead) := by
      rw [List.forall₂_map_left_iff, List.forall₂_map_right_iff]
      refine List.forall₂_same.2 fun f hf => f.asRead.isField_condition ?_
      rw [FieldValue.value_asRead]
      exact (h.values f hf).isContent_asRead
    rw [Expression.new, hoperator, Value.conditions_list, List.map_append, List.map_map, List.map_map] at he
    rw [Expression.asRead, asReadFields_eq_map]
    exact eq_of_ofConditions (fun o ho => (h.options o ho).1) hcs he
  · -- what is plain is made of its own parts, and those are spelled as they are
    have hnew := hp.new_spelled
    rw [spelled_asRead] at hnew
    simp only [asRead, asReadFields_eq_map, List.map_map, Function.comp_def, FieldValue.spelled_asRead] at hnew ⊢
    exact hnew

end Expression

/-- The parts of an expression that can be written are taken as items if nested expressions are. -/
theorem Expression.Printed.exists_takesItem {p : Prop} {e : Expression} (h : e.Printed)
    (hp : p → e.asRead.Plain)
    (hnested : ∀ f ∈ e.fields, ∀ inner, f.value = .expression inner → ∃ left, inner.written = .ok ('(' :: left) ∧
      TakesTree ('(' :: left) fun tree => GivesIf p tree.value inner.asRead) :
    ∃ ws, writtenFields e.fields = .ok ws ∧
      List.Forall₂ (fun w v => TakesItem w fun item => GivesIf p item.value v)
        (e.options.map OperatorOption.written ++ ws)
        (e.options.map .option ++ e.fields.map fun f => f.asRead.condition) := by
  have hvalues (f : FieldValue) (hf : f ∈ e.fields) (hq : p) : f.value.asRead.Plain :=
    f.value_asRead ▸ (hp hq).values _ (mem_fields_asRead hf)
  obtain ⟨ws, hws, hreads⟩ := exists_writtenFields fun f hf =>
    FieldValue.exists_takesItem (h.values f hf) (hvalues f hf) (h.names f hf) (hnested f hf)
  refine ⟨ws, hws, List.rel_append ?_ (List.forall₂_map_right_iff.2 hreads)⟩
  rw [List.forall₂_map_left_iff, List.forall₂_map_right_iff]
  refine List.forall₂_same.2 fun o ho => (readsItem_written (h.options o ho).2).imp fun _ => givesIf_of_eq

theorem Expression.Everywhere.nested_asRead {P : Expression → Prop} {e inner : Expression} {f : FieldValue}
    (h : e.asRead.Everywhere P) (hf : f ∈ e.fields) (hi : f.value = .expression inner) :
    inner.asRead.Everywhere P := by
  refine h.nested _ (mem_fields_asRead hf) inner.asRead ?_
  rw [FieldValue.value_asRead, hi, Value.asRead]

/-- The text of an expression that can be written follows the grammar, and is read as the expression is if that
is plain. -/
theorem Expression.Everywhere.exists_takesTree {e : Expression} (h : e.Everywhere Printed) :
    ∃ left, e.written = .ok ('(' :: left) ∧
      TakesTree ('(' :: left) fun tree => GivesIf (e.asRead.Everywhere Plain) tree.value e.asRead := by
  induction h with
  | intro e here _ ih =>
    obtain ⟨ws, hws, hreads⟩ := here.exists_takesItem Everywhere.here fun f hf inner hi => by
      obtain ⟨left, hw, hread⟩ := ih f hf inner hi
      exact ⟨left, hw, hread.imp fun tree ht => ht.of_imp fun hp => hp.nested_asRead hf hi⟩
    refine ⟨_, ?_, (takesTree_of_takesItem e.operator hreads).imp ?_⟩
    · obtain ⟨operator, options, fields⟩ := e
      rw [Expression.written, hws]
      rfl
    · rintro _ ⟨items, rfl, hvs⟩
      rw [Tree.value, String.ofList_toList]
      exact (givesIf_itemValues hvs).bind (here.givesIf_new.of_imp fun hp => hp.here)

/-- Behind the operator each part of an expression that can be written stands behind a space. -/
theorem Expression.Everywhere.exists_written {e : Expression} (h : e.Everywhere Printed) :
    ∃ ws, writtenFields e.fields = .ok ws ∧ e.written = .ok ('(' :: (e.operator.text.toList ++
      ((e.options.map OperatorOption.written ++ ws).flatMap (' ' :: ·) ++ [')']))) := by
  obtain ⟨ws, hws, hreads⟩ := h.here.exists_takesItem (p := False) False.elim fun f hf inner hi => by
    obtain ⟨left, hw, hread⟩ := (h.nested f hf inner hi).exists_takesTree
    exact ⟨left, hw, hread.imp fun tree ht => ht.of_imp False.elim⟩
  refine ⟨ws, hws, ?_⟩
  obtain ⟨operator, options, fields⟩ := e
  have hne : operator.text.toList ≠ [] := by cases operator <;> decide
  have hwords := joinWords_cons (options.map OperatorOption.written ++ ws) hne
  rw [filter_of_takesItem hreads] at hwords
  rw [Expression.written, hws]
  change Except.ok ('(' :: (joinWords (operator.text.toList :: (options.map OperatorOption.written ++ ws)) ++
    [')'])) = _
  rw [hwords, List.append_assoc]

/-- The text of an expression that can be written follows the grammar, and is read as the expression is if that is
plain. -/
theorem Expression.Everywhere.givesIf_ofText {e : Expression} {text : String} (h : e.Everywhere Printed)
    (hw : e.render = .ok text) :
    (∃ node, Derivation text.toList node) ∧ GivesIf (e.asRead.Everywhere Plain) (ofText text) e.asRead := by
  obtain ⟨left, hwritten, htakes⟩ := h.exists_takesTree
  obtain ⟨w, hw', rfl⟩ := exists_of_render hw
  obtain rfl := Except.ok.inj (hwritten.symm.trans hw')
  obtain ⟨tree, htree, hvalue⟩ := htakes.exists_ofText?
  obtain ⟨node, hnode, -⟩ := exists_derivation (skipSpaces_of_front (by decide +kernel)) htree
  rw [ofText_of_tree (trim_of_written hwritten) htree, String.toList_ofList]
  exact ⟨⟨node, hnode⟩, hvalue⟩

end StructuredQuery
