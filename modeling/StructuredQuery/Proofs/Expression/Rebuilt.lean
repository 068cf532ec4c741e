import StructuredQuery.Proofs.Expression.Errors
import StructuredQuery.Proofs.Expression.Sorting

/-!
Expressions made again from their own parts. The options of an expression are finished ones that its operator
accepts, and its fields are finished fields, so they are sorted to where they came from, in whatever way the two are
mixed.
-/

namespace StructuredQuery.Expression

/-- A condition list of finished options and fields, in which the options keep their order and so do the fields. -/
inductive Mixes : List OperatorOption → List FieldValue → List Value → Prop
  | nil : Mixes [] [] []
  | option (o : OperatorOption) {options : List OperatorOption} {fields : List FieldValue} {vs : List Value}
      (h : Mixes options fields vs) : Mixes (o :: options) fields (.option o :: vs)
  | field (f : FieldValue) {options : List OperatorOption} {fields : List FieldValue} {vs : List Value}
      (h : Mixes options fields vs) : Mixes options (f :: fields) (.field f :: vs)

variable {operator : Operator}

/-- Such a list sorts into its options and its fields, if the operator accepts all of the options. -/
theorem Mixes.sort_eq {options : List OperatorOption} {fields : List FieldValue} {vs : List Value}
    (h : Mixes options fields vs) (ho : ∀ o ∈ options, o.name ∈ operator.accepted) :
    sort operator vs = { accepted := options, values := fields.map .field } := by
  induction h with
  | nil => rfl
  | option o _ ih =>
    have hrole : (Value.option o).role operator = .accepted o := if_pos (ho o List.mem_cons_self)
    rw [sort, hrole, ih fun p hp => ho p (List.mem_cons_of_mem o hp)]
    rfl
  | field f _ ih =>
    rw [sort, ih ho]
    rfl

/-- No option is found among no pairs, and every finished field is a field of its own. -/
theorem options_parts (options : List OperatorOption) (fields : List FieldValue) :
    Sorted.Options operator { accepted := options, values := fields.map .field } options := by
  refine ⟨operator.accepted.map fun _ => none, ?_, ?_⟩
  · rw [List.forall₂_map_right_iff]
    exact List.forall₂_same.2 fun name _ => .missing
  · have hnone : (operator.accepted.map fun _ => (none : Option OperatorOption)).filterMap id = [] :=
      List.filterMap_eq_nil_iff.2 fun o ho => by
        obtain ⟨_, -, rfl⟩ := List.mem_map.1 ho
        rfl
    rw [hnone, List.append_nil]

theorem fields_parts (options : List OperatorOption) (fields : List FieldValue) :
    Sorted.Fields { accepted := options, values := fields.map .field } fields := by
  refine ⟨fields.map some, [], ?_, .nil, ?_⟩
  · rw [List.forall₂_map_left_iff, List.forall₂_map_right_iff]
    exact List.forall₂_same.2 fun f _ => rfl
  · rw [List.filterMap_map, List.append_nil]
    exact List.filterMap_some.symm

/-- The options of an expression that was made are accepted by its operator, and its fields pass the check. -/
theorem accepted_and_checked_of_new {o conditions : Value} {e : Expression} (h : new o conditions = .ok e) :
    (∀ p ∈ e.options, p.name ∈ e.operator.accepted) ∧ checkFields e.operator e.fields = .ok () := by
  unfold new at h
  split at h
  · next operator _ =>
    have hread := (readingInvariant_makes.reads conditions trivial).2
    have hmade := meets_ofConditions operator hread (fun _ _ _ _ => trivial) (fun _ _ _ _ _ => rfl)
      fun e he => e.isUnreadable_of_breaksRule he.breaksRule
    obtain ⟨rfl, hoptions, -, hcheck⟩ := hmade.of_ok h
    exact ⟨fun p hp => (hoptions p hp).1, hcheck⟩
  · obtain ⟨_, -, h⟩ := bind_eq_ok_iff.1 h
    cases h

/-- Whatever an expression was made of, its options and its fields make it again, in any list in which both keep
their order. -/
theorem new_list_of_parts {o conditions : Value} {e : Expression} (h : new o conditions = .ok e) {vs : List Value}
    (hvs : Mixes e.options e.fields vs) : new (.operator e.operator) (.list vs) = .ok e := by
  obtain ⟨haccepted, hcheck⟩ := accepted_and_checked_of_new h
  have hself : (Value.operator e.operator).operator? = some e.operator := Operator.ofText?_text e.operator
  rw [new_list_eq_ok_iff hself, hvs.sort_eq haccepted]
  exact ⟨rfl, options_parts e.options e.fields, fields_parts e.options e.fields, hcheck⟩

/-- An option given twice, a renamed field and a nested expression, made again with the options apart. -/
theorem new_list_of_parts_apart :
    let title : FieldValue := ⟨.text "star", some "title"⟩
    let nested : FieldValue := ⟨.expression ⟨.not, [], [⟨.text "trek", none⟩]⟩, none⟩
    let e : Expression := ⟨.and, [⟨.boost, some "2"⟩, ⟨.boost, some "3"⟩], [title, nested]⟩
    let given : Value := .list [.tuple [.text "boost", .text "3"],
      .tuple [.text "title", .field ⟨.text "star", some "name"⟩], .tuple [.text "not", .list [.text "trek"]],
      .option ⟨.boost, some "2"⟩]
    let vs : List Value := [.field title, .option ⟨.boost, some "2"⟩, .field nested, .option ⟨.boost, some "3"⟩]
    new (.text "and") given = .ok e ∧ Mixes e.options e.fields vs ∧
      new (.operator .and) (.list vs) = .ok e := by
  intro title nested e given vs
  have hmade : new (.text "and") given = .ok e := rfl
  have hmixes : Mixes e.options e.fields vs := .field title (.option _ (.field nested (.option _ .nil)))
  exact ⟨hmade, hmixes, new_list_of_parts hmade hmixes⟩

end StructuredQuery.Expression
