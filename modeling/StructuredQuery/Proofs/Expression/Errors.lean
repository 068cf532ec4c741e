import StructuredQuery.Proofs.Expression.Reading
import StructuredQuery.Proofs.Query.Evaluation

/-!
The errors of making values, fields and expressions. None of them says that a text cannot be read, so that
verdict is left to the grammar. Nearly all of them name a rule that was broken; the others are failures to
write a number.
-/

namespace StructuredQuery

/-- Whether a cause is that a rule of expressions or of intervals was broken. -/
def Error.breaksRule : Error → Bool
  | unknownOperator _ => true
  | noFieldValues _ => true
  | tooManyFieldValues _ _ => true
  | multipleWordsRequired => true
  | textRequired _ => true
  | rangeRequired => true
  | unusableValue _ _ => true
  | openRange => true
  | rangeType _ => true
  | _ => false

/-- The rules of operators are among those that a query may break. -/
theorem Expression.IsRuleError.breaksRule {e : Error} (h : IsRuleError e) : e.breaksRule := by
  cases h <;> rfl

/-- Who breaks a rule has been read. -/
theorem Error.isUnreadable_of_breaksRule {e : Error} (h : e.breaksRule) : e.isUnreadable = false := by
  cases e <;> first | rfl | cases h

abbrev Breaks {α : Type} (r : Except Error α) : Prop :=
  Meets (fun _ => True) (fun e => e.breaksRule) r

/-- A result whose error does not say that a text cannot be read. -/
abbrev Makes {α : Type} (r : Except Error α) : Prop :=
  Meets (fun _ => True) (fun e => e.isUnreadable = false) r

theorem makes_liftM {α : Type} (r : Except Fault α) : Makes (liftM r : Except Error α) :=
  meets_liftM (fun _ _ => trivial) fun _ _ => rfl

/-- The bounds of an interval are refused by the rules only. -/
theorem Interval.breaks_check (bounds : List Value) : Breaks (check bounds) := by
  unfold check
  dsimp only
  split
  · rfl
  · split
    · trivial
    · rfl

theorem Interval.breaks_ofBounds (lower upper : Value) : Breaks (ofBounds lower upper) :=
  (breaks_check _).bind fun _ _ _ => trivial

theorem Interval.breaks_ofDescriptor (lower lowerExclusive upper upperExclusive : Value) :
    Breaks (ofDescriptor lower lowerExclusive upper upperExclusive) :=
  (breaks_check _).bind fun _ _ _ => trivial

/-- What a field cannot hold breaks a rule, unless it cannot even be shown. -/
theorem Value.meets_content {v : Value} {E : Error → Prop} (hrule : ∀ e, e.breaksRule → E e)
    (hfault : ∀ f, v.shown = .error f → E (.fault f)) : Meets (fun _ => True) E v.content := by
  have hrange {r : Except Error Interval} (hr : Breaks r) : Meets (fun _ => True) E (r.map Value.range) :=
    (hr.imp_error hrule).map fun _ _ => trivial
  unfold content
  split
  · trivial
  · trivial
  · next p =>
    refine hrange ?_
    unfold Interval.ofProgression
    split
    · exact Interval.breaks_ofBounds _ _
    · rfl
  · next lower upper => exact hrange (Interval.breaks_ofBounds lower upper)
  · trivial
  · trivial
  · trivial
  · split
    · trivial
    · exact v.meets_unusable hfault fun _ _ => hrule _ rfl

theorem Expression.makes_ofConditions {operator : Operator} {conditions : List Condition}
    (h : ∀ c ∈ conditions,
      c.Holds (fun _ => True) (fun _ => True) (fun _ => True) fun e => e.isUnreadable = false) :
    Makes (ofConditions operator conditions) := by
  have hmade := meets_ofConditions operator h (fun _ _ _ _ => trivial) (fun _ _ _ _ _ => rfl)
    fun e he => e.isUnreadable_of_breaksRule he.breaksRule
  exact hmade.imp fun _ _ => trivial

/-- The reading of any value gives only such errors. -/
theorem readingInvariant_makes : ReadingInvariant (fun _ => True) (fun _ => True) (fun _ => True)
    (fun _ => True) (fun e => e.isUnreadable = false) where
  option _ _ := trivial
  field _ _ := trivial
  items _ _ _ _ := trivial
  parts _ _ _ _ := trivial
  entries _ _ _ _ := ⟨trivial, trivial⟩
  unnamed := trivial
  text _ _ _ := trivial
  named _ value _ _ _ h :=
    FieldValue.meets_ofNamed
      (fun _ _ => (Expression.makes_ofConditions h).imp fun _ _ => trivial)
      (fun _ _ _ _ _ => trivial)
      (fun _ _ _ _ => value.meets_content (fun e => e.isUnreadable_of_breaksRule) fun _ _ => rfl)
      fun _ _ => rfl

theorem FieldValue.makes_new (name value : Value) : Makes (new name value) :=
  readingInvariant_makes.new trivial trivial

/-- Whatever an expression is made of, its refusal is not that of a text. -/
theorem Expression.makes_new (operator conditions : Value) : Makes (new operator conditions) := by
  unfold new
  split
  · exact makes_ofConditions (readingInvariant_makes.reads conditions trivial).2
  · exact (makes_liftM operator.asText).bind fun _ _ _ => rfl

namespace Query

/-- A number or string that stands in a text has its value, or its digits are too many. -/
theorem ScalarNode.makes_value (s : ScalarNode) : Makes s.value := by
  cases s with
  | number token =>
    rw [ScalarNode.value]
    split
    · exact makes_liftM _
    · rfl
  | string token => trivial

theorem makes_boundNodeValue (b : Option ScalarNode) : Makes (boundNodeValue b) := by
  cases b with
  | none => trivial
  | some s => exact s.makes_value

mutual

theorem TermNode.makes_value : ∀ t : TermNode, Makes t.value
  | .scalar s => by
    rw [TermNode.value]
    exact s.makes_value
  | .range opening lower comma upper closing => by
    rw [TermNode.value]
    refine (makes_boundNodeValue lower).bind fun _ _ _ => (makes_boundNodeValue upper).bind fun _ _ _ => ?_
    exact ((Interval.breaks_ofDescriptor _ _ _ _).imp_error fun e => e.isUnreadable_of_breaksRule).map
      fun _ _ => trivial
  | .expr e => by
    rw [TermNode.value]
    exact (ExprNode.makes_value e).map fun _ _ => trivial

theorem ItemNode.makes_value : ∀ i : ItemNode, Makes i.value
  | .option name equals word => by
    rw [ItemNode.value, optionOf]
    exact (makes_liftM _).bind fun _ _ _ => trivial
  | .named name colon value => by
    rw [ItemNode.value]
    apply (TermNode.makes_value value).bind
    intro v _ _
    exact (FieldValue.makes_new _ v).map fun _ _ => trivial
  | .bare value => by
    rw [ItemNode.value]
    exact TermNode.makes_value value

theorem makes_itemNodeValues : ∀ items : List ItemNode, Makes (itemNodeValues items)
  | [] => by
    rw [itemNodeValues]
    trivial
  | item :: rest => by
    rw [itemNodeValues]
    apply (ItemNode.makes_value item).bind
    intro _ _ _
    exact (makes_itemNodeValues rest).bind fun _ _ _ => trivial

/-- A text that has a derivation may break a rule, but it can be read. -/
theorem ExprNode.makes_value : ∀ e : ExprNode, Makes e.value
  | .node opening operator items closing => by
    rw [ExprNode.value]
    exact (makes_itemNodeValues items).bind fun _ _ _ => Expression.makes_new _ _

end

end Query

end StructuredQuery
