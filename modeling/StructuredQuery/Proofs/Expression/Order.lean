import Mathlib.Logic.Relation
import StructuredQuery.Expression.Builder
import StructuredQuery.Proofs.Expression.Sorting

/-!
The order of conditions. Positional entries and named pairs may be mixed in any way, and a pair for an option
may stand anywhere among the pairs with other keys: the same expression is made, or the same error. So a
builder makes of conditions and named conditions what the one list of them makes.
-/

namespace StructuredQuery

/-- Neither nothing nor a named pair. -/
def Value.isPositional (v : Value) : Bool :=
  !v.isNull && v.namedPair?.isNone

namespace Expression

/-- One pair for an option has moved past a pair with another key. -/
inductive Passes (operator : Operator) : List (Value × Value) → List (Value × Value) → Prop
  | intro (before after : List (Value × Value)) {p q : Value × Value}
      (hp : ∃ name ∈ operator.accepted, p.1.optionName? = some name) (hk : p.1.text? ≠ q.1.text?) :
      Passes operator (before ++ p :: q :: after) (before ++ q :: p :: after)

/-- Two condition lists with the same positional entries in the same order, and with named pairs that differ
only by moving pairs for options past pairs with other keys. -/
structure Reordered (operator : Operator) (vs ws : List Value) : Prop where
  positional : vs.filter Value.isPositional = ws.filter Value.isPositional
  named : Relation.EqvGen (Passes operator) (vs.filterMap Value.namedPair?) (ws.filterMap Value.namedPair?)

/-! ## What a list sorts into, by its positional entries and its named pairs -/

variable {operator : Operator}

/-- A positional entry is put with no named pair. -/
theorem add_of_isPositional (operator : Operator) {v : Value} (h : v.isPositional) (s : Sorted) :
    (s.add (v.role operator)).forOptions = s.forOptions ∧ (s.add (v.role operator)).named = s.named := by
  obtain ⟨hnull, hp⟩ : v.isNull = false ∧ v.namedPair? = none := by simpa [Value.isPositional] using h
  unfold Value.role
  split
  · cases hnull
  · split <;> exact ⟨rfl, rfl⟩
  · rw [hp]
    exact ⟨rfl, rfl⟩

/-- What has another role leaves the options as they were. -/
theorem add_accepted_congr {s t : Sorted} (r : Role) (h : s.accepted = t.accepted) :
    (s.add r).accepted = (t.add r).accepted := by
  cases r <;> simp only [Sorted.add, h]

/-- What has another role leaves the values as they were. -/
theorem add_values_congr {s t : Sorted} (r : Role) (h : s.values = t.values) :
    (s.add r).values = (t.add r).values := by
  cases r <;> simp only [Sorted.add, h]

/-- What is sorted of a list in terms of its positional entries and its named pairs. -/
structure SortedApart (operator : Operator) (vs : List Value) : Prop where
  accepted : (sort operator vs).accepted = (sort operator (vs.filter Value.isPositional)).accepted
  values : (sort operator vs).values = (sort operator (vs.filter Value.isPositional)).values
  forOptions : (sort operator vs).forOptions = (vs.filterMap Value.namedPair?).filterMap operator.forOption?
  named : (sort operator vs).named =
    (vs.filterMap Value.namedPair?).filter fun p => (operator.forOption? p).isNone

/-- The roles of a list are sorted apart from one another. -/
theorem sortedApart (operator : Operator) (vs : List Value) : SortedApart operator vs := by
  induction vs with
  | nil => exact ⟨rfl, rfl, rfl, rfl⟩
  | cons v vs ih =>
    obtain ⟨haccepted, hvalues, hforOptions, hnamed⟩ := ih
    cases hp : v.namedPair? with
    | some p =>
      -- a named pair goes to the pairs for options or to those for fields
      have hpos : ¬v.isPositional := by simp [Value.isPositional, hp]
      cases ho : operator.forOption? p with
      | some o =>
        constructor <;> rw [sort, Value.role_of_forOption hp ho]
        · rwa [List.filter_cons_of_neg hpos]
        · rwa [List.filter_cons_of_neg hpos]
        · rw [List.filterMap_cons_some hp, List.filterMap_cons_some ho, ← hforOptions]
          rfl
        · rwa [List.filterMap_cons_some hp, List.filter_cons_of_neg (by simp [ho])]
      | none =>
        constructor <;> rw [sort, Value.role_of_named hp ho]
        · rwa [List.filter_cons_of_neg hpos]
        · rwa [List.filter_cons_of_neg hpos]
        · rwa [List.filterMap_cons_some hp, List.filterMap_cons_none ho]
        · rw [List.filterMap_cons_some hp, List.filter_cons_of_pos (by simp [ho]), ← hnamed]
          rfl
    | none =>
      by_cases hnull : v = .null
      · subst hnull
        exact ⟨haccepted, hvalues, hforOptions, hnamed⟩
      have hpos : v.isPositional := by simp [Value.isPositional, hp, Value.isNull_of_ne_null hnull]
      obtain ⟨hf, hn⟩ := add_of_isPositional operator hpos (sort operator vs)
      constructor
      · rw [List.filter_cons_of_pos hpos]
        exact add_accepted_congr _ haccepted
      · rw [List.filter_cons_of_pos hpos]
        exact add_values_congr _ hvalues
      · rw [List.filterMap_cons_none hp]
        exact hf.trans hforOptions
      · rw [List.filterMap_cons_none hp]
        exact hn.trans hnamed

/-! ## Moving pairs for options -/

/-- Pairs that give the same to every option and the same named fields. -/
structure SamePairs (operator : Operator) (ps qs : List (Value × Value)) : Prop where
  first : ∀ name, (ps.filterMap operator.forOption?).find? (·.1 = name) =
    (qs.filterMap operator.forOption?).find? (·.1 = name)
  named : (ps.filter fun p => (operator.forOption? p).isNone) = qs.filter fun p => (operator.forOption? p).isNone

theorem text?_of_optionName? {key : Value} {name : OptionName} (h : key.optionName? = some name) :
    key.text? = some name.text := by
  obtain ⟨s, hs, hname⟩ := Option.bind_eq_some_iff.1 h
  rw [hs, OptionName.eq_text_of_ofText? hname]

/-- The first hit does not depend on the order of two neighbours that are not both hits. -/
theorem find?_swap {α : Type} {P : α → Bool} {a b : α} (h : P a → P b → False) (rest : List α) :
    (a :: b :: rest).find? P = (b :: a :: rest).find? P := by
  simp only [List.find?_cons]
  cases ha : P a with
  | false => rfl
  | true =>
    have hb : P b = false := Bool.eq_false_iff.2 (h ha)
    simp only [hb]

theorem filter_swap {α : Type} {P : α → Bool} {a b : α} (h : ¬P a) (before after : List α) :
    (before ++ a :: b :: after).filter P = (before ++ b :: a :: after).filter P := by
  have hdrop (rest : List α) : (a :: rest).filter P = rest.filter P := List.filter_cons_of_neg h
  rw [List.filter_append, List.filter_append, hdrop, List.filter_cons, List.filter_cons, hdrop]

/-- One move keeps the first pair of every key, and is not seen by pairs for no option. -/
theorem Passes.samePairs {ps qs : List (Value × Value)} (h : Passes operator ps qs) :
    SamePairs operator ps qs := by
  cases h with
  | @intro before after p q hoption hk =>
    obtain ⟨name, hn, hname⟩ := hoption
    have hp : operator.forOption? p = some (name, p.2) := Operator.forOption?_eq_some_iff.2 ⟨hname, hn, rfl⟩
    constructor
    · intro other
      rw [List.filterMap_append, List.filterMap_append, List.find?_append, List.find?_append]
      apply congrArg
      cases hq : operator.forOption? q with
      | none =>
        rw [List.filterMap_cons_some hp, List.filterMap_cons_none hq, List.filterMap_cons_none hq,
          List.filterMap_cons_some hp]
      | some o =>
        -- both are for options, but for different ones, as their keys are different texts
        have hne : o.1 ≠ name := by
          rintro rfl
          obtain ⟨hother, -⟩ := Operator.forOption?_eq_some_iff.1 hq
          exact hk ((text?_of_optionName? hname).trans (text?_of_optionName? hother).symm)
        rw [List.filterMap_cons_some hp, List.filterMap_cons_some hq, List.filterMap_cons_some hq,
          List.filterMap_cons_some hp]
        apply find?_swap
        intro hfirst hsecond
        exact hne ((of_decide_eq_true hsecond).trans (of_decide_eq_true hfirst).symm)
    · -- the pair that moves is for an option, so it is none of the named fields
      have hnot : ¬(operator.forOption? p).isNone := by simp [hp]
      exact filter_swap (P := fun p => (operator.forOption? p).isNone) hnot before after

/-- Neither do any number of moves, in either direction. -/
theorem samePairs_of_moves {ps qs : List (Value × Value)} (h : Relation.EqvGen (Passes operator) ps qs) :
    SamePairs operator ps qs := by
  induction h with
  | rel _ _ h => exact h.samePairs
  | refl => exact ⟨fun _ => rfl, rfl⟩
  | symm _ _ _ ih => exact ⟨fun name => (ih.first name).symm, ih.named.symm⟩
  | trans _ _ _ _ _ ih ih' =>
    exact ⟨fun name => (ih.first name).trans (ih'.first name), ih.named.trans ih'.named⟩

/-- Sorted lists that agree make the same expression or the same error. -/
theorem ofConditions_congr {conditions conditions' : List Condition} {s t : Sorted}
    (h : s.Finds operator conditions) (h' : t.Finds operator conditions') (haccepted : s.accepted = t.accepted)
    (hvalues : s.values = t.values) (hnamed : s.named = t.named)
    (hfirst : ∀ name, s.forOptions.find? (·.1 = name) = t.forOptions.find? (·.1 = name)) :
    ofConditions operator conditions = ofConditions operator conditions' := by
  have hoption : optionOf s.forOptions = optionOf t.forOptions := by
    funext name
    rw [optionOf, optionOf, hfirst name]
  have hoptions : optionsOf operator conditions = optionsOf operator conditions' := by
    rw [h.optionsOf_eq, h'.optionsOf_eq, hoption, haccepted]
  have hfields : fieldsOf operator conditions = fieldsOf operator conditions' := by
    rw [h.fieldsOf_eq, h'.fieldsOf_eq, hvalues, hnamed]
  rw [ofConditions, ofConditions, hoptions, hfields]

/-- Reordered condition lists make the same expression. -/
theorem new_list_eq_of_reordered {o : Value} (ho : o.operator? = some operator) {vs ws : List Value}
    (h : Reordered operator vs ws) : new o (.list vs) = new o (.list ws) := by
  obtain ⟨hpositional, hmoved⟩ := h
  have hv := sortedApart operator vs
  have hw := sortedApart operator ws
  have hpairs := samePairs_of_moves hmoved
  rw [new, new, ho]
  dsimp only
  rw [Value.conditions_list, Value.conditions_list]
  apply ofConditions_congr (finds_sort operator vs) (finds_sort operator ws)
  · rw [hv.accepted, hw.accepted, hpositional]
  · rw [hv.values, hw.values, hpositional]
  · rw [hv.named, hw.named, hpairs.named]
  · intro name
    rw [hv.forOptions, hw.forOptions, hpairs.first name]

/-! ## Builders -/

def namedPairs (named : List (String × Value)) : List Value :=
  named.map fun (key, value) => .tuple [.text key, value]

theorem gather_of_not_list {given : List Value} (h : ∀ items, given ≠ [.list items])
    (named : List (String × Value)) : gather given named = given ++ namedPairs named := by
  unfold gather
  split
  · exact absurd rfl (h _)
  · rfl

theorem gather_list (items : List Value) : gather [.list items] [] = items := by
  rw [gather, List.map_nil, List.append_nil]

theorem new_of_operator? {o : Value} (ho : o.operator? = some operator) (v : Value) :
    new (.operator operator) v = new o v := by
  have hself : (Value.operator operator).operator? = some operator := Operator.ofText?_text operator
  rw [new, new, ho, hself]

/-- Lists that are the same up to the mixing of positional entries and named pairs, and up to the places of
pairs for options among the pairs with other keys, make equal expressions or the same error; and a builder
makes the same of conditions and named conditions as of the one list of them. -/
theorem new_list_order {o : Value} (ho : o.operator? = some operator) :
    (∀ vs ws, Reordered operator vs ws → new o (.list vs) = new o (.list ws)) ∧
    ∀ given named, (∀ items, given ≠ [.list items]) →
      build operator given named = new o (.list (given ++ namedPairs named)) ∧
      build operator [.list (given ++ namedPairs named)] [] = new o (.list (given ++ namedPairs named)) := by
  refine ⟨fun vs ws h => new_list_eq_of_reordered ho h, fun given named h => ⟨?_, ?_⟩⟩
  · rw [build, gather_of_not_list h, new_of_operator? ho]
  · rw [build, gather_list, new_of_operator? ho]

/-- Three options given by name in front of a text, or behind it in another order with nothing in between. -/
theorem new_list_of_options_in_any_order :
    (Value.text "near").operator? = some .near ∧
    new (.text "near") (.list [.tuple [.text "field", .text "title"], .tuple [.text "distance", .int 3],
        .tuple [.text "boost", .int 2], .text "star wars"]) =
      new (.text "near") (.list [.text "star wars", .tuple [.text "boost", .int 2], .null,
        .tuple [.text "distance", .int 3], .tuple [.text "field", .text "title"]]) ∧
    build .near [.text "star wars"] [("boost", .int 2)] =
      new (.text "near") (.list [.text "star wars", .tuple [.text "boost", .int 2]]) := by
  have ho : (Value.text "near").operator? = some .near := by decide
  refine ⟨ho, (new_list_order ho).1 _ _ ⟨rfl, ?_⟩, ((new_list_order ho).2 _ [("boost", .int 2)] ?_).1⟩
  · let field : Value × Value := (.text "field", .text "title")
    let distance : Value × Value := (.text "distance", .int 3)
    let boost : Value × Value := (.text "boost", .int 2)
    have hf : ∃ name ∈ Operator.near.accepted, field.1.optionName? = some name := ⟨.field, by decide, by decide⟩
    have hd : ∃ name ∈ Operator.near.accepted, distance.1.optionName? = some name :=
      ⟨.distance, by decide, by decide⟩
    have first : Passes .near [field, distance, boost] [distance, field, boost] :=
      .intro [] [boost] hf (by decide)
    have second : Passes .near [distance, field, boost] [distance, boost, field] :=
      .intro [distance] [] hf (by decide)
    have third : Passes .near [distance, boost, field] [boost, distance, field] :=
      .intro [] [field] hd (by decide)
    exact (Relation.EqvGen.rel _ _ first).trans _ _ _ (.trans _ _ _ (.rel _ _ second) (.rel _ _ third))
  · simp

end Expression

end StructuredQuery
