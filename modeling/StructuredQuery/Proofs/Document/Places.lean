import StructuredQuery.Document.Load
import StructuredQuery.Proofs.Document.Rows
import StructuredQuery.Proofs.Expression.Middle
import StructuredQuery.Proofs.Expression.Reading

/-!
Places in query documents. Whatever stands within tables among conditions comes to the expressions of a document
through the operators above it. Under any other name an array or a table gives no field, so only the value of an
option may hold it, and there it need only be readable.
-/

namespace StructuredQuery.Document

def build (data : Value) : Except Error (List Expression) := do
  expressions (← queries data)

/-- Where a table stands: by itself, or among the items of an array. -/
inductive Slot
  | alone
  | among (before after : List Value)

def Slot.fill : Slot → Value → Value
  | .alone, v => v
  | .among before after, v => .list (before ++ v :: after)

/-- A table among conditions, with a gap under one of its keys. Not all of them name bounds, so it is no interval. -/
structure Level where
  slot : Slot
  before : List (Value × Value)
  name : String
  after : List (Value × Value)
  outside : ∃ key ∈ before.map (·.1) ++ .text name :: after.map (·.1), Interval.isDescriptorKey key = false

def Level.fill (l : Level) (v : Value) : Value :=
  l.slot.fill (.mapping (l.before ++ (.text l.name, v) :: l.after))

def fillAll (levels : List Level) (v : Value) : Value :=
  levels.foldr Level.fill v

/-- Keys lead from the conditions of an operator into the value of an option: of its own, or of an operator among
them. -/
inductive LeadsToOption : Operator → List String → Prop
  | here {operator : Operator} {name : String} (rest : List String) (h : operator.takes name) :
      LeadsToOption operator (name :: rest)
  | nested {operator inner : Operator} {name : String} {rest : List String}
      (ho : Operator.ofText? name = some inner) (h : LeadsToOption inner rest) : LeadsToOption operator (name :: rest)

/-! ## The conditions around one -/

/-- The conditions of an operator under its name. -/
def nested (name : String) (r : Except Error (List Value)) : Except Error (List Value) :=
  r.map fun vs => [.tuple [.text name, .list vs]]

/-- A table that is no interval gives the pair of one entry among those of the others. -/
theorem conditions_mapping_middle {es fs : List (Value × Value)} {name : String} {v : Value}
    (hr : isRangeTable (es ++ (.text name, v) :: fs) = false) :
    conditions (.mapping (es ++ (.text name, v) :: fs)) =
      join (pairs es) (join (pair (.text name) v) (pairs fs)) := by
  rw [conditions, if_neg (by simp [hr]), pairs_append, pairs_cons]

/-- The conditions of one item stand among those of the others. -/
theorem conditions_list_middle (before after : List Value) (x : Value) :
    conditions (.list (before ++ x :: after)) =
      join (conditionsOfItems before) (join (conditionsOfItems [x]) (conditionsOfItems after)) := by
  rw [conditions, conditionsOfItems_append, conditionsOfItems_cons]

/-- An array with a part that is no scalar is no array of bounds, so under any name it is a row of conditions. -/
theorem namedValue_list {v : Value} (hv : isScalar v = false) (before after : List Value) (name : String) :
    namedValue name (.list (before ++ v :: after)) = (conditions (.list (before ++ v :: after))).map .list := by
  cases ho : Operator.ofText? name with
  | some operator => exact namedValue_operator ho _
  | none =>
    have hbounds : bounds? (before ++ v :: after) = none := by
      unfold bounds?
      split
      · next low high heq =>
        have hmem : v ∈ [low, high] := by simp [← heq]
        rcases List.mem_pair.1 hmem with rfl | rfl <;> simp [hv]
      · rfl
    simp only [namedValue, conditions, ho, hbounds, Option.isSome_none, Bool.false_eq_true, if_false]

namespace Level

/-- What stands before the gap and behind it, as conditions. -/
def conditionsBefore (l : Level) : Except Error (List Value) :=
  match l.slot with
  | .alone => pairs l.before
  | .among before _ => join (conditionsOfItems before) (pairs l.before)

def conditionsAfter (l : Level) : Except Error (List Value) :=
  match l.slot with
  | .alone => pairs l.after
  | .among _ after => join (pairs l.after) (conditionsOfItems after)

variable (l : Level) (v : Value)

theorem isRangeTable_eq_false : isRangeTable (l.before ++ (.text l.name, v) :: l.after) = false := by
  obtain ⟨key, hk, houtside⟩ := l.outside
  have hkeys : key ∈ (l.before ++ (.text l.name, v) :: l.after).map (·.1) := by simpa using hk
  obtain ⟨entry, he, rfl⟩ := List.mem_map.1 hkeys
  rw [isRangeTable, Bool.and_eq_false_iff]
  exact .inr (List.all_eq_false.2 ⟨entry, he, by simp [houtside]⟩)

/-- A table gives the pair at the gap among the conditions around it. -/
theorem conditions_fill : conditions (l.fill v) =
    join l.conditionsBefore (join (pair (.text l.name) v) l.conditionsAfter) := by
  have htable := conditions_mapping_middle (l.isRangeTable_eq_false v)
  rw [fill, conditionsBefore, conditionsAfter]
  cases l.slot with
  | alone => exact htable
  | among before after =>
    have hitem : conditionsOfItems [.mapping (l.before ++ (.text l.name, v) :: l.after)] =
        conditions (.mapping (l.before ++ (.text l.name, v) :: l.after)) := by
      rw [conditionsOfItems_mapping, conditionsOfItems, join_ok_nil]
    rw [Slot.fill, conditions_list_middle, hitem, htable]
    simp only [join_assoc]

/-- Whatever the name over it is, it stands for a row of conditions. -/
theorem namedValue_fill (name : String) : namedValue name (l.fill v) = (conditions (l.fill v)).map .list := by
  rw [fill]
  cases l.slot with
  | among before after => exact namedValue_list rfl before after name
  | alone =>
    cases ho : Operator.ofText? name with
    | some operator => exact namedValue_operator ho _
    | none =>
      have hrange := l.isRangeTable_eq_false v
      simp only [Slot.fill, namedValue, conditions, hrange, Bool.false_eq_true, if_false]

end Level

/-- Whatever name it stands under, it stands there for a row of conditions. -/
def IsRow (v : Value) : Prop :=
  ∀ name, pair (.text name) v = nested name (conditions v)

/-- Filled tables are condition lists under any name. -/
theorem Level.isRow_fill (l : Level) (v : Value) : IsRow (l.fill v) := by
  intro name
  rw [pair_text, l.namedValue_fill, nested]
  cases conditions (l.fill v) <;> rfl

theorem isRow_list {v : Value} (hv : isScalar v = false) (before after : List Value) :
    IsRow (.list (before ++ v :: after)) := by
  intro name
  rw [pair_text, namedValue_list hv, nested]
  cases conditions (.list (before ++ v :: after)) <;> rfl

/-- Tables in one another are condition lists under any name. -/
theorem isRow_fillAll (outer : List Level) {v : Value} (h : IsRow v) : IsRow (fillAll outer v) := by
  cases outer with
  | nil => exact h
  | cons l rest => exact l.isRow_fill (fillAll rest v)

/-- A table can be read if what stands around the gap can, and the entry of the gap. -/
theorem Level.reads_iff (l : Level) (v : Value) : (∃ vs, conditions (l.fill v) = .ok vs) ↔
    (∃ bs, l.conditionsBefore = .ok bs) ∧ (∃ ms, pair (.text l.name) v = .ok ms) ∧
      ∃ as, l.conditionsAfter = .ok as := by
  rw [l.conditions_fill, exists_join_iff, exists_join_iff]

/-! ## A pair among the conditions of an expression -/

section

/-- The expression of an operator with the conditions that stand under it. -/
def expression (operator : Operator) (v : Value) : Except Error Expression := do
  Expression.ofConditions operator (Value.list (← conditions v)).conditions

variable {operator known : Operator} {name : String} {before after : Except Error (List Value)} {e : Expression}

/-- One result among the conditions of an expression. -/
theorem expression_middle_iff {middle : Except Error (List Value)} {v : Value}
    (hv : conditions v = join before (join middle after)) :
    expression operator v = .ok e ↔ ∃ bs ms as, before = .ok bs ∧ middle = .ok ms ∧ after = .ok as ∧
      Expression.ofConditions operator ((Value.list bs).conditions ++
        ((Value.list ms).conditions ++ (Value.list as).conditions)) = .ok e := by
  simp only [expression, hv, bind_eq_ok_iff, join_eq_ok_iff, Value.conditions_list]
  constructor
  · rintro ⟨_, ⟨bs, _, hb, ⟨ms, as, hm, ha, rfl⟩, rfl⟩, he⟩
    exact ⟨bs, ms, as, hb, hm, ha, by simpa using he⟩
  · rintro ⟨bs, ms, as, hb, hm, ha, he⟩
    exact ⟨_, ⟨bs, _, hb, ⟨ms, as, hm, ha, rfl⟩, rfl⟩, by simpa using he⟩

/-- The name of an operator names no option. -/
theorem optionName_of_operator (ho : Operator.ofText? name = some known) : OptionName.ofText? name = none := by
  rw [Operator.eq_text_of_ofText? ho]
  cases known <;> decide

/-- The conditions under an operator are the condition of a nested expression. -/
theorem reading_pair_operator (ho : Operator.ofText? name = some known) (vs : List Value) :
    (Value.tuple [.text name, .list vs]).reading.entry =
      .named name (.list vs) ((Expression.ofConditions known (Value.list vs).conditions).map
        fun e => ⟨.expression e, none⟩) := by
  have hne : name.isEmpty = false := by
    rw [Operator.eq_text_of_ofText? ho]
    cases known <;> decide
  have hfield : FieldValue.ofNamed (.text name) (.list vs) (Value.list vs).reading.conditions =
      (Expression.ofConditions known (Value.list vs).conditions).map fun e => ⟨.expression e, none⟩ := by
    simp only [FieldValue.ofNamed, Value.operator?, Value.text?, Option.bind_some, ho]
    rw [Value.conditions]
    cases Expression.ofConditions known (Value.list vs).reading.conditions <;> rfl
  rw [Value.reading_pair, Reading.single, Condition.ofPair, ← hfield]
  simp only [Value.text?, hne, Bool.false_eq_true, if_false]

/-- What stands under an operator within an expression counts through its own expression. -/
theorem expression_nested_iff (ho : Operator.ofText? name = some known) {v inner : Value}
    (hv : conditions v = join before (join (nested name (conditions inner)) after)) :
    expression operator v = .ok e ↔ ∃ bs as i, before = .ok bs ∧ after = .ok as ∧
      expression known inner = .ok i ∧
      Expression.ofConditions operator ((Value.list bs).conditions ++
        .named name .null (.ok ⟨.expression i, none⟩) :: (Value.list as).conditions) = .ok e := by
  have hentry (vs : List Value) : (Value.list [.tuple [.text name, .list vs]]).conditions =
      [.named name (.list vs) ((Expression.ofConditions known (Value.list vs).conditions).map
        fun i => ⟨.expression i, none⟩)] := by
    rw [Value.conditions_list, List.map_singleton, reading_pair_operator ho]
  have hoption := optionName_of_operator ho
  rw [expression_middle_iff hv]
  constructor
  · rintro ⟨bs, ms, as, hb, hm, ha, he⟩
    obtain ⟨vs, hvs, rfl⟩ := map_eq_ok_iff.1 hm
    rw [hentry, List.singleton_append, Expression.ofConditions_named_iff hoption] at he
    obtain ⟨f, hf, he⟩ := he
    obtain ⟨i, hi, rfl⟩ := map_eq_ok_iff.1 hf
    exact ⟨bs, as, i, hb, ha, bind_eq_ok_iff.2 ⟨vs, hvs, hi⟩, he⟩
  · rintro ⟨bs, as, i, hb, ha, hi, he⟩
    obtain ⟨vs, hvs, hi⟩ := bind_eq_ok_iff.1 hi
    refine ⟨bs, _, as, hb, map_eq_ok_iff.2 ⟨vs, hvs, rfl⟩, ha, ?_⟩
    rw [hentry, List.singleton_append, Expression.ofConditions_named_iff hoption]
    exact ⟨_, map_eq_ok_iff.2 ⟨i, hi, rfl⟩, he⟩

/-- A pair is named by its first part if that is a text that is not empty. -/
def isPairName (v : Value) : Bool :=
  v.text?.any fun s => !s.isEmpty

/-- A pair that is not named is matched as the interval between its parts. -/
theorem ofPair_of_not_isPairName {lower upper : Value} (h : isPairName lower = false) (reading : Reading) :
    Condition.ofPair lower upper reading =
      .positional ((Interval.ofBounds lower upper).map fun r => some ⟨.range r, none⟩) := by
  have hunnamed : (FieldValue.ofUnnamed (.tuple [lower, upper])).map some =
      (Interval.ofBounds lower upper).map fun r => some ⟨.range r, none⟩ := by
    change (((Interval.ofBounds lower upper).map Value.range >>=
      fun v => pure (FieldValue.mk v none)).map some) = _
    cases Interval.ofBounds lower upper <;> rfl
  rw [← hunnamed]
  unfold Condition.ofPair
  split
  · next s hs =>
    have hempty : s.isEmpty := by simpa [isPairName, hs] using h
    rw [if_pos hempty]
  · rfl

/-- A condition list under a name is one named pair of the expression. -/
theorem expression_row_iff {before after r : Except Error (List Value)} {v : Value}
    (hv : conditions v = join before (join (nested name r) after)) :
    expression operator v = .ok e ↔ ∃ bs vs as, before = .ok bs ∧ r = .ok vs ∧ after = .ok as ∧
      Expression.ofConditions operator ((Value.list bs).conditions ++
        Condition.ofPair (.text name) (.list vs) (Value.list vs).reading :: (Value.list as).conditions) = .ok e := by
  have hentry (vs : List Value) : (Value.list [.tuple [.text name, .list vs]]).conditions =
      [Condition.ofPair (.text name) (.list vs) (Value.list vs).reading] := by
    rw [Value.conditions_list, List.map_singleton, Value.reading_pair]
    rfl
  rw [expression_middle_iff hv]
  constructor
  · rintro ⟨bs, ms, as, hb, hm, ha, he⟩
    obtain ⟨vs, hvs, rfl⟩ := map_eq_ok_iff.1 hm
    rw [hentry, List.singleton_append] at he
    exact ⟨bs, vs, as, hb, hvs, ha, he⟩
  · rintro ⟨bs, vs, as, hb, hvs, ha, he⟩
    refine ⟨bs, _, as, hb, map_eq_ok_iff.2 ⟨vs, hvs, rfl⟩, ha, ?_⟩
    rwa [hentry, List.singleton_append]

/-- What has no family makes no interval. -/
theorem ofBounds_ne_ok {lower upper : Value} {r : Interval} (hb : upper.isBlank = false) (hf : upper.family? = none) :
    Interval.ofBounds lower upper ≠ .ok r := by
  intro h
  obtain ⟨_, hcheck, -⟩ := bind_eq_ok_iff.1 h
  obtain ⟨-, family, hfamily⟩ := Interval.family_of_check hcheck
  have hupper := hfamily upper (by simp) hb
  rw [hf] at hupper
  cases hupper

/-- A name that is not empty makes a named pair. -/
theorem ofPair_of_ne_empty (hn : name ≠ "") (w : Value) (reading : Reading) :
    Condition.ofPair (.text name) w reading =
      .named name w (FieldValue.ofNamed (.text name) w reading.conditions) := by
  have hempty : name.isEmpty = false := by simpa using hn
  simp only [Condition.ofPair, Value.text?, hempty, Bool.false_eq_true, if_false]

section

variable {before after : List Condition} {w : Value} {reading : Reading}

/-- An empty name makes bounds of itself and the value. -/
theorem ofConditions_empty_ne_ok (hb : w.isBlank = false) (hf : w.family? = none) :
    Expression.ofConditions operator (before ++ Condition.ofPair (.text "") w reading :: after) ≠ .ok e := by
  intro h
  rw [ofPair_of_not_isPairName rfl] at h
  obtain ⟨_, hfound, -⟩ := Expression.ofConditions_positional_iff.1 h
  obtain ⟨r, hr, -⟩ := map_eq_ok_iff.1 hfound
  exact ofBounds_ne_ok hb hf hr

/-- A value that no field can hold must not stand under a name for a field. -/
theorem ofConditions_unusable_ne_ok (ho : Operator.ofText? name = none) (hk : operator.takes name = false)
    (hb : w.isBlank = false) (hf : w.family? = none) (hw : ∀ f, w ≠ .field f) (hc : ∀ x, w.content ≠ .ok x) :
    Expression.ofConditions operator (before ++ Condition.ofPair (.text name) w reading :: after) ≠ .ok e := by
  by_cases hn : name = ""
  · exact hn ▸ ofConditions_empty_ne_ok hb hf
  · intro h
    have hoperator : (Value.text name).operator? = none := ho
    rw [ofPair_of_ne_empty hn] at h
    obtain ⟨f, hmade⟩ := Expression.exists_field_of_named hk h
    rw [FieldValue.ofNamed_eq _ hoperator (Value.fieldName?_text hn) hw] at hmade
    obtain ⟨x, hx, -⟩ := map_eq_ok_iff.1 hmade
    exact hc x hx

end

/-- No field can hold a list. -/
theorem content_list_ne_ok (vs : List Value) (x : Value) : (Value.list vs).content ≠ .ok x := by
  intro h
  obtain ⟨_, -, hthrow⟩ := bind_eq_ok_iff.1 h
  cases hthrow

theorem ne_empty_of_takes (h : operator.takes name) : name ≠ "" := by
  rintro rfl
  cases h

end

/-! ## Around a table -/

/-- Two values that can both be read as conditions, or neither, and that give the same expressions. -/
structure Alike (v v' : Value) : Prop where
  reads : (∃ vs, conditions v = .ok vs) ↔ ∃ vs, conditions v' = .ok vs
  expressions : ∀ operator e, expression operator v = .ok e ↔ expression operator v' = .ok e

section

variable {operator : Operator} {e : Expression} {v v' : Value}

theorem exists_nested_iff {name : String} {r : Except Error (List Value)} :
    (∃ ms, nested name r = .ok ms) ↔ ∃ vs, r = .ok vs := by
  cases r <;> simp [nested, Except.map]

theorem IsRow.conditions_fill (hv : IsRow v) (l : Level) : conditions (l.fill v) =
    join l.conditionsBefore (join (nested l.name (conditions v)) l.conditionsAfter) := by
  rw [l.conditions_fill, hv l.name]

theorem reads_fill_iff (hv : IsRow v) (hv' : IsRow v')
    (h : (∃ vs, conditions v = .ok vs) ↔ ∃ vs, conditions v' = .ok vs) (l : Level) :
    (∃ vs, conditions (l.fill v) = .ok vs) ↔ ∃ vs, conditions (l.fill v') = .ok vs := by
  rw [l.reads_iff, l.reads_iff, hv l.name, hv' l.name, exists_nested_iff, exists_nested_iff, h]

/-- Whether a document can be read does not depend on which of two readable values is at the gap. -/
theorem reads_fillAll_iff (hv : IsRow v) (hv' : IsRow v')
    (h : (∃ vs, conditions v = .ok vs) ↔ ∃ vs, conditions v' = .ok vs) (levels : List Level) :
    (∃ vs, conditions (fillAll levels v) = .ok vs) ↔ ∃ vs, conditions (fillAll levels v') = .ok vs := by
  induction levels with
  | nil => exact h
  | cons l rest ih => exact reads_fill_iff (isRow_fillAll rest hv) (isRow_fillAll rest hv') ih l

/-- A row under an operator counts through its expression. -/
theorem expression_fill_operator_iff {inner : Operator} {l : Level} (ho : Operator.ofText? l.name = some inner)
    (hv : IsRow v) (hv' : IsRow v') (h : ∀ i, expression inner v = .ok i ↔ expression inner v' = .ok i) :
    expression operator (l.fill v) = .ok e ↔ expression operator (l.fill v') = .ok e := by
  rw [expression_nested_iff ho (hv.conditions_fill l), expression_nested_iff ho (hv'.conditions_fill l)]
  simp only [h]

/-- No row has a word, so as the value of an option it is never looked at. -/
theorem expression_fill_option_iff {l : Level} (hk : operator.takes l.name) (hv : IsRow v) (hv' : IsRow v')
    (h : (∃ vs, conditions v = .ok vs) ↔ ∃ vs, conditions v' = .ok vs) :
    expression operator (l.fill v) = .ok e ↔ expression operator (l.fill v') = .ok e := by
  have hsame (bs vs vs' as : List Value) :
      Expression.ofConditions operator ((Value.list bs).conditions ++
        Condition.ofPair (.text l.name) (.list vs) (Value.list vs).reading :: (Value.list as).conditions) =
      Expression.ofConditions operator ((Value.list bs).conditions ++
        Condition.ofPair (.text l.name) (.list vs') (Value.list vs').reading :: (Value.list as).conditions) := by
    have hn := ne_empty_of_takes hk
    have hoption (key : OptionName) : OperatorOption.new (.optionName key) (.list vs) =
        OperatorOption.new (.optionName key) (.list vs') := rfl
    rw [ofPair_of_ne_empty hn, ofPair_of_ne_empty hn]
    exact Expression.ofConditions_option_congr hk hoption _ _
  rw [expression_row_iff (hv.conditions_fill l), expression_row_iff (hv'.conditions_fill l)]
  constructor
  · rintro ⟨bs, vs, as, hb, hvs, ha, he⟩
    obtain ⟨vs', hvs'⟩ := h.1 ⟨vs, hvs⟩
    exact ⟨bs, vs', as, hb, hvs', ha, (hsame bs vs vs' as).symm.trans he⟩
  · rintro ⟨bs, vs', as, hb, hvs', ha, he⟩
    obtain ⟨vs, hvs⟩ := h.2 ⟨vs', hvs'⟩
    exact ⟨bs, vs, as, hb, hvs, ha, (hsame bs vs vs' as).trans he⟩

/-- Under any other name it gives no field. -/
theorem expression_fill_ne_ok {l : Level} (ho : Operator.ofText? l.name = none) (hk : operator.takes l.name = false)
    (hv : IsRow v) : expression operator (l.fill v) ≠ .ok e := by
  intro h
  obtain ⟨bs, vs, as, -, -, -, he⟩ := (expression_row_iff (hv.conditions_fill l)).1 h
  exact ofConditions_unusable_ne_ok ho hk rfl rfl (by simp) (content_list_ne_ok vs) he

/-- Values that are alike make tables that are. -/
theorem Alike.fill (h : Alike v v') (hv : IsRow v) (hv' : IsRow v') (l : Level) : Alike (l.fill v) (l.fill v') := by
  refine ⟨reads_fill_iff hv hv' h.reads l, fun operator e => ?_⟩
  cases ho : Operator.ofText? l.name with
  | some inner => exact expression_fill_operator_iff ho hv hv' (h.expressions inner)
  | none =>
    cases hk : operator.takes l.name with
    | true => exact expression_fill_option_iff hk hv hv' h.reads
    | false => exact iff_of_false (expression_fill_ne_ok ho hk hv) (expression_fill_ne_ok ho hk hv')

/-- Values that are alike make tables in one another that are alike. -/
theorem Alike.fillAll (h : Alike v v') (hv : IsRow v) (hv' : IsRow v') (outer : List Level) :
    Alike (fillAll outer v) (fillAll outer v') := by
  induction outer with
  | nil => exact h
  | cons l rest ih => exact ih.fill (isRow_fillAll rest hv) (isRow_fillAll rest hv') l

/-- Within the value of an option it is enough that both can be read. -/
theorem expression_fillAll_iff_within (hv : IsRow v) (hv' : IsRow v')
    (h : (∃ vs, conditions v = .ok vs) ↔ ∃ vs, conditions v' = .ok vs) {levels : List Level}
    (hin : LeadsToOption operator (levels.map Level.name)) :
    expression operator (fillAll levels v) = .ok e ↔ expression operator (fillAll levels v') = .ok e := by
  induction levels generalizing operator e with
  | nil => cases hin
  | cons l rest ih =>
    have hrow := isRow_fillAll rest hv
    have hrow' := isRow_fillAll rest hv'
    cases hin with
    | here _ hk => exact expression_fill_option_iff hk hrow hrow' (reads_fillAll_iff hv hv' h rest)
    | nested ho hin => exact expression_fill_operator_iff ho hrow hrow' fun i => ih hin

/-- Elsewhere it is enough that both give the same expressions. -/
theorem expression_fillAll_iff_outside (hv : IsRow v) (hv' : IsRow v')
    (h : ∀ operator e, expression operator v = .ok e ↔ expression operator v' = .ok e) {levels : List Level}
    (hout : ¬LeadsToOption operator (levels.map Level.name)) :
    expression operator (fillAll levels v) = .ok e ↔ expression operator (fillAll levels v') = .ok e := by
  induction levels generalizing operator e with
  | nil => exact h operator e
  | cons l rest ih =>
    have hrow := isRow_fillAll rest hv
    have hrow' := isRow_fillAll rest hv'
    cases ho : Operator.ofText? l.name with
    | some inner => exact expression_fill_operator_iff ho hrow hrow' fun i => ih fun hin => hout (.nested ho hin)
    | none =>
      have hk : operator.takes l.name = false := by simpa using fun hk => hout (.here _ hk)
      exact iff_of_false (expression_fill_ne_ok ho hk hrow) (expression_fill_ne_ok ho hk hrow')

/-- What gives expressions that are apart does so through the operators above it. -/
theorem apart_fillAll (hv : IsRow v) (hv' : IsRow v')
    (h : ∀ operator e e', expression operator v = .ok e → expression operator v' = .ok e' → e.Apart e')
    {levels : List Level} (hout : ¬LeadsToOption operator (levels.map Level.name)) {e' : Expression}
    (he : expression operator (fillAll levels v) = .ok e) (he' : expression operator (fillAll levels v') = .ok e') :
    e.Apart e' := by
  induction levels generalizing operator e e' with
  | nil => exact h operator e e' he he'
  | cons l rest ih =>
    have hrow := isRow_fillAll rest hv
    have hrow' := isRow_fillAll rest hv'
    cases ho : Operator.ofText? l.name with
    | some inner =>
      obtain ⟨bs, as, i, hb, ha, hi, he⟩ := (expression_nested_iff ho (hrow.conditions_fill l)).1 he
      obtain ⟨bs', as', i', hb', ha', hi', he'⟩ := (expression_nested_iff ho (hrow'.conditions_fill l)).1 he'
      obtain rfl := Except.ok.inj (hb.symm.trans hb')
      obtain rfl := Except.ok.inj (ha.symm.trans ha')
      have hapart := ih (fun hin => hout (.nested ho hin)) hi hi'
      exact Expression.apart_of_nested hapart (optionName_of_operator ho) he he'
    | none =>
      have hk : operator.takes l.name = false := by simpa using fun hk => hout (.here _ hk)
      exact absurd he (expression_fill_ne_ok ho hk hrow)

/-- What cannot be read cannot be read within other tables. -/
theorem conditions_fillAll_ne_ok (hv : IsRow v) (h : ∀ vs, conditions v ≠ .ok vs) (outer : List Level) :
    ∀ vs, conditions (fillAll outer v) ≠ .ok vs := by
  induction outer with
  | nil => exact h
  | cons l rest ih =>
    intro vs hvs
    obtain ⟨-, hrow, -⟩ := (l.reads_iff (fillAll rest v)).1 ⟨vs, hvs⟩
    rw [isRow_fillAll rest hv l.name, exists_nested_iff] at hrow
    obtain ⟨ms, hms⟩ := hrow
    exact ih ms hms

/-- What gives no expression gives none within other tables, unless it gets into the value of an option. -/
theorem expression_fillAll_ne_ok (hv : IsRow v) (h : ∀ operator e, expression operator v ≠ .ok e)
    (outer : List Level) (hout : ¬LeadsToOption operator (outer.map Level.name)) :
    ∀ e, expression operator (fillAll outer v) ≠ .ok e := by
  induction outer generalizing operator with
  | nil => exact h operator
  | cons l rest ih =>
    -- the induction is on the tables from the outermost one, with the operator whose conditions it is among
    intro e he
    have hrow := isRow_fillAll rest hv
    cases ho : Operator.ofText? l.name with
    | some inner =>
      obtain ⟨_, _, i, -, -, hi, -⟩ := (expression_nested_iff ho (hrow.conditions_fill l)).1 he
      exact ih (fun hin => hout (.nested ho hin)) i hi
    | none =>
      have hk : operator.takes l.name = false := by simpa using fun hk => hout (.here _ hk)
      exact expression_fill_ne_ok ho hk hrow he

end

/-! ## The queries of a document -/

section

variable {operator : Operator} {name : String} {before after : Except Error (List Value)} {e : Expression}

def queriesOfTables (tables : List Value) : Except Error (List Value) := do
  return (← tables.mapM queriesOfTable).flatten

/-- The queries of tables come one after the other. -/
theorem queriesOfTables_append (ts us : List Value) :
    queriesOfTables (ts ++ us) = join (queriesOfTables ts) (queriesOfTables us) := by
  rw [queriesOfTables, List.mapM_append, queriesOfTables, queriesOfTables]
  cases ts.mapM queriesOfTable with
  | error e => rfl
  | ok xs =>
    cases us.mapM queriesOfTable with
    | error e => rfl
    | ok ys => exact congrArg Except.ok List.flatten_append

theorem queriesOfTables_singleton (t : Value) : queriesOfTables [t] = queriesOfTable t := by
  rw [queriesOfTables, List.mapM_cons, List.mapM_nil]
  cases queriesOfTable t with
  | error e => rfl
  | ok qs => exact congrArg Except.ok (List.append_nil qs)

/-- The queries of the entries of one table come one after the other. -/
theorem queriesOfTable_append (es fs : List (Value × Value)) :
    queriesOfTable (.mapping (es ++ fs)) = join (queriesOfTable (.mapping es)) (queriesOfTable (.mapping fs)) := by
  simp only [queriesOfTable, List.mapM_append]
  rfl

/-- Each entry gives one query: an operator with its conditions. -/
theorem queriesOfTable_singleton (name : String) (v : Value) :
    queriesOfTable (.mapping [(.text name, v)]) = nested name (conditions v) := by
  have hname : (Value.text name).asText = .ok name := congrArg Except.ok String.ofList_toList
  rw [queriesOfTable, List.mapM_cons, List.mapM_nil]
  dsimp only
  rw [hname]
  cases hv : conditions v <;> simp [nested] <;> rfl

/-- One query among those of the other entries. -/
theorem queriesOfTable_middle (es fs : List (Value × Value)) (name : String) (v : Value) :
    queriesOfTable (.mapping (es ++ (.text name, v) :: fs)) = join (queriesOfTable (.mapping es))
      (join (nested name (conditions v)) (queriesOfTable (.mapping fs))) := by
  have hsplit : (.text name, v) :: fs = [(.text name, v)] ++ fs := rfl
  rw [hsplit, queriesOfTable_append, queriesOfTable_append, queriesOfTable_singleton]

/-- Of the tables of a document, one entry gives one pair, among those that the rest gives. -/
theorem queriesOfTables_middle (before after : List Value) (es fs : List (Value × Value)) (name : String)
    (v : Value) :
    queriesOfTables (before ++ .mapping (es ++ (.text name, v) :: fs) :: after) =
      join (join (queriesOfTables before) (queriesOfTable (.mapping es)))
        (join (nested name (conditions v)) (join (queriesOfTable (.mapping fs)) (queriesOfTables after))) := by
  have hsplit (t : Value) : t :: after = [t] ++ after := rfl
  rw [hsplit, queriesOfTables_append, queriesOfTables_append, queriesOfTables_singleton, queriesOfTable_middle]
  simp only [join_assoc]

/-- One of the queries of a document is that of an entry of one of its tables. -/
theorem queries_middle {data v : Value} {before after : List Value} {es fs : List (Value × Value)}
    (h : tables data = .ok (before ++ .mapping (es ++ (.text name, v) :: fs) :: after)) :
    queries data = join (join (queriesOfTables before) (queriesOfTable (.mapping es)))
      (join (nested name (conditions v)) (join (queriesOfTable (.mapping fs)) (queriesOfTables after))) := by
  rw [queries, h]
  exact queriesOfTables_middle before after es fs name v

/-- The expression of a name that ought to be an operator, with the conditions that stand under it. -/
def queryExpression (name : String) (v : Value) : Except Error Expression := do
  Expression.new (.text name) (.list (← conditions v))

/-- Under an operator a query is the expression of its conditions. -/
theorem queryExpression_operator (ho : Operator.ofText? name = some operator) (v : Value) :
    queryExpression name v = expression operator v := by
  have hoperator : (Value.text name).operator? = some operator := ho
  rw [queryExpression, expression]
  simp only [Expression.new, hoperator]

/-- A name that is no operator gives no expression. -/
theorem queryExpression_ne_ok (ho : Operator.ofText? name = none) (v : Value) : queryExpression name v ≠ .ok e := by
  have hoperator : (Value.text name).operator? = none := ho
  intro h
  obtain ⟨vs, -, h⟩ := bind_eq_ok_iff.1 h
  simp only [Expression.new, hoperator] at h
  obtain ⟨_, -, hthrow⟩ := bind_eq_ok_iff.1 h
  cases hthrow

/-- A document builds what the queries before and behind one query build, and its expression. -/
theorem build_query_iff {data v : Value} {es : List Expression}
    (hq : queries data = join before (join (nested name (conditions v)) after)) :
    build data = .ok es ↔ ∃ bs as first e last, before = .ok bs ∧ after = .ok as ∧
      bs.mapM Expression.ofEntry = .ok first ∧ queryExpression name v = .ok e ∧
      as.mapM Expression.ofEntry = .ok last ∧ es = first ++ e :: last := by
  have hbuild : build data = .ok es ↔ ∃ qs, queries data = .ok qs ∧ qs.mapM Expression.ofEntry = .ok es :=
    bind_eq_ok_iff
  rw [hbuild, hq]
  simp only [join_eq_ok_iff]
  constructor
  -- the rows of queries and of expressions are taken apart at the same place
  · rintro ⟨_, ⟨bs, _, hb, ⟨ms, as, hm, ha, rfl⟩, rfl⟩, he⟩
    obtain ⟨vs, hvs, rfl⟩ := map_eq_ok_iff.1 hm
    rw [List.mapM_append, List.singleton_append, List.mapM_cons, Expression.ofEntry] at he
    obtain ⟨first, hfirst, he⟩ := bind_eq_ok_iff.1 he
    obtain ⟨_, hrest, he⟩ := bind_eq_ok_iff.1 he
    obtain ⟨e, hvalue, hrest⟩ := bind_eq_ok_iff.1 hrest
    obtain ⟨last, hlast, hrest⟩ := bind_eq_ok_iff.1 hrest
    obtain rfl := Except.ok.inj hrest
    exact ⟨bs, as, first, e, last, hb, ha, hfirst, bind_eq_ok_iff.2 ⟨vs, hvs, hvalue⟩, hlast,
      (Except.ok.inj he).symm⟩
  · rintro ⟨bs, as, first, e, last, hb, ha, hfirst, hvalue, hlast, rfl⟩
    obtain ⟨vs, hvs, hvalue⟩ := bind_eq_ok_iff.1 hvalue
    refine ⟨_, ⟨bs, _, hb, ⟨_, as, map_eq_ok_iff.2 ⟨vs, hvs, rfl⟩, ha, rfl⟩, rfl⟩, ?_⟩
    rw [List.mapM_append, List.singleton_append, List.mapM_cons, Expression.ofEntry, hfirst, hvalue, hlast]
    rfl

/-- A document with conditions that cannot be read builds nothing. -/
theorem build_ne_ok_of_conditions {data v : Value}
    (hq : queries data = join before (join (nested name (conditions v)) after))
    (h : ∀ vs, conditions v ≠ .ok vs) (es : List Expression) : build data ≠ .ok es := by
  intro hes
  obtain ⟨_, _, _, e, _, -, -, -, he, -⟩ := (build_query_iff hq).1 hes
  obtain ⟨vs, hvs, -⟩ := bind_eq_ok_iff.1 he
  exact h vs hvs

end

end StructuredQuery.Document
