import StructuredQuery.Document.Conditions
import StructuredQuery.Proofs.Expression.Result

/-!
Rows of conditions in query documents. The conditions of an array are those of its items, one after the other,
and those of a table are the named pairs of its entries.
-/

namespace StructuredQuery.Document

def join (r s : Except Error (List Value)) : Except Error (List Value) := do
  return (← r) ++ (← s)

/-- Rows are joined if both are there. -/
theorem join_eq_ok_iff {r s : Except Error (List Value)} {vs : List Value} :
    join r s = .ok vs ↔ ∃ xs ys, r = .ok xs ∧ s = .ok ys ∧ vs = xs ++ ys := by
  constructor
  · intro h
    obtain ⟨xs, hr, h⟩ := bind_eq_ok_iff.1 h
    obtain ⟨ys, hs, h⟩ := bind_eq_ok_iff.1 h
    exact ⟨xs, ys, hr, hs, (Except.ok.inj h).symm⟩
  · rintro ⟨xs, ys, rfl, rfl, rfl⟩
    rfl

theorem exists_join_iff {r s : Except Error (List Value)} :
    (∃ vs, join r s = .ok vs) ↔ (∃ xs, r = .ok xs) ∧ ∃ ys, s = .ok ys := by
  constructor
  · rintro ⟨_, h⟩
    obtain ⟨xs, ys, hr, hs, -⟩ := join_eq_ok_iff.1 h
    exact ⟨⟨xs, hr⟩, ys, hs⟩
  · rintro ⟨⟨xs, hr⟩, ys, hs⟩
    exact ⟨_, join_eq_ok_iff.2 ⟨xs, ys, hr, hs, rfl⟩⟩

theorem join_assoc (r s t : Except Error (List Value)) : join (join r s) t = join r (join s t) := by
  cases r with
  | error e => rfl
  | ok xs =>
    cases s with
    | error e => rfl
    | ok ys =>
      cases t with
      | error e => rfl
      | ok zs => exact congrArg Except.ok (List.append_assoc xs ys zs)

theorem ok_nil_join (r : Except Error (List Value)) : join (.ok []) r = r := by
  cases r <;> rfl

theorem join_ok_nil (r : Except Error (List Value)) : join r (.ok []) = r := by
  cases r with
  | error e => rfl
  | ok xs => exact congrArg Except.ok (List.append_nil xs)

/-- A table among the items gives its conditions in its place. -/
theorem conditionsOfItems_mapping (entries : List (Value × Value)) (rest : List Value) :
    conditionsOfItems (.mapping entries :: rest) =
      join (conditions (.mapping entries)) (conditionsOfItems rest) := by
  rw [conditionsOfItems, conditions]
  split <;> rfl

/-- An array among the items is a pair of bounds or is passed over. -/
theorem conditionsOfItems_list (items rest : List Value) :
    conditionsOfItems (.list items :: rest) = join (.ok (ofArray items)) (conditionsOfItems rest) := by
  rw [conditionsOfItems]
  rfl

theorem conditionsOfItems_cons (x : Value) (xs : List Value) :
    conditionsOfItems (x :: xs) = join (conditionsOfItems [x]) (conditionsOfItems xs) := by
  -- a table gives several conditions and an array that is no pair of bounds none
  cases x with
  | mapping entries =>
    rw [conditionsOfItems_mapping, conditionsOfItems_mapping, conditionsOfItems, join_ok_nil]
  | list items => rw [conditionsOfItems_list, conditionsOfItems_list, conditionsOfItems, join_ok_nil]
  | _ =>
    simp only [conditionsOfItems]
    cases conditionsOfItems xs <;> rfl

/-- The conditions of a row of items come one after the other. -/
theorem conditionsOfItems_append (xs ys : List Value) :
    conditionsOfItems (xs ++ ys) = join (conditionsOfItems xs) (conditionsOfItems ys) := by
  induction xs with
  | nil => exact (ok_nil_join _).symm
  | cons x xs ih => rw [List.cons_append, conditionsOfItems_cons, ih, ← join_assoc, ← conditionsOfItems_cons]

def pair (key value : Value) : Except Error (List Value) := do
  let name ← key.asText
  return [.tuple [.text name, ← namedValue name value]]

theorem pairs_cons (key value : Value) (es : List (Value × Value)) :
    pairs ((key, value) :: es) = join (pair key value) (pairs es) := by
  rw [pairs, pair]
  cases key.asText with
  | error f => rfl
  | ok name =>
    change (namedValue name value >>= _) = join (namedValue name value >>= _) _
    cases namedValue name value with
    | error e => rfl
    | ok v => cases pairs es <;> rfl

/-- The pairs of a row of entries come one after the other. -/
theorem pairs_append (es fs : List (Value × Value)) : pairs (es ++ fs) = join (pairs es) (pairs fs) := by
  induction es with
  | nil => exact (ok_nil_join _).symm
  | cons e es ih => rw [List.cons_append, pairs_cons, ih, ← join_assoc, ← pairs_cons]

theorem pair_text (name : String) (v : Value) :
    pair (.text name) v = (namedValue name v).map fun w => [.tuple [.text name, w]] := by
  have htext : (Value.text name).asText = .ok name := congrArg Except.ok String.ofList_toList
  rw [pair, htext]
  change (namedValue name v >>= fun w => pure [Value.tuple [.text name, w]]) = _
  cases namedValue name v <;> rfl

/-- Under an operator stands a condition list, whatever the value is. -/
theorem namedValue_operator {name : String} {operator : Operator} (ho : Operator.ofText? name = some operator)
    (v : Value) : namedValue name v = (conditions v).map .list := by
  cases v with
  | mapping entries =>
    simp only [namedValue, conditions, ho, Option.isSome_some, if_true]
    split
    · cases Interval.ofMapping entries <;> rfl
    · rfl
  | list items => simp only [namedValue, conditions, ho, Option.isSome_some, if_true]
  | _ => simp [namedValue, conditions, ho, Except.map]

end StructuredQuery.Document
