import StructuredQuery.Proofs.Expression.Middle
import StructuredQuery.Proofs.Query.Accepted

/-!
Texts that are taken over as they are. Where such a text stands, an interval or an expression is read or
nothing at all. Everything in front of it is read back, so the first such text in an expression is in the
place where what is read differs from what was written.
-/

namespace StructuredQuery

open Query Text

def Value.IsStructured (v : Value) : Prop := (∃ r, v = .range r) ∨ ∃ e, v = .expression e

namespace Query

/-- What stands between brackets is an interval if it is a value at all. -/
theorem meets_range (lowerInclusive : Bool) (lower upper : Option Scalar) (upperInclusive : Bool) :
    Meets (fun v => ∃ r, v = .range r) (fun _ => True)
      (Term.range lowerInclusive lower upper upperInclusive).value := by
  have hany {ε α : Type} (r : Except ε α) : Meets (fun _ => True) (fun _ => True) r :=
    meets_iff.2 ⟨fun _ _ => trivial, fun _ _ => trivial⟩
  rw [Term.value]
  refine (hany _).bind fun low _ _ => (hany _).bind fun high _ _ => (hany _).bind fun r _ _ => ?_
  exact ⟨r, rfl⟩

/-- Behind the opening of an interval or an expression stands one of these or nothing. -/
theorem structured_of_term? {c : Char} {cs rest : List Char} {term : Term} {v : Value} (hc : IsOpener c)
    (h : term? (c :: cs) = some (term, rest)) (hv : term.value = .ok v) : v.IsStructured := by
  have hexpression (tree : Tree) (ht : term = .expression tree) : v.IsStructured := by
    rw [ht, Term.value] at hv
    obtain ⟨e, -, he⟩ := bind_eq_ok_iff.1 hv
    exact .inr ⟨e, (Except.ok.inj he).symm⟩
  have hrange (lowerInclusive : Bool) (hi : interval? lowerInclusive cs = some (term, rest)) :
      v.IsStructured := by
    simp only [interval?, Option.map_eq_some_iff, Prod.exists, Prod.mk.injEq] at hi
    obtain ⟨upper, inclusive, left, -, rfl, -⟩ := hi
    exact .inl ((meets_range _ _ _ _).of_ok hv)
  -- a round bracket opens an expression, the two others open an interval
  rcases hc with rfl | rfl | rfl
  · simp only [term?, flatTerm?_opening, Option.bind_eq_some_iff, Option.map_eq_some_iff, Prod.exists,
      Prod.mk.injEq] at h
    obtain ⟨operator, middle, -, items, left, -, rfl, -⟩ := h
    exact hexpression _ rfl
  all_goals
    unfold term? at h
    split at h
    · next taken ht =>
      obtain rfl := Option.some.inj h
      exact hrange _ ht
    · simp [opening?] at h

/-- A text that is read as the content of a field, if at all, but never as one that equals the value. -/
structure MisreadsTerm (w : List Char) (v : Value) : Prop where
  front : ∃ c left, w = c :: left ∧ IsOpener c
  misreads : ∀ rest term left u, term? (w ++ rest) = some (term, left) → term.value = .ok u →
    u.equal v ≠ .ok true

/-- A text that is read as an item, if at all, but never as a field that equals the given one. -/
structure MisreadsItem (w : List Char) (f : FieldValue) : Prop where
  front : ∃ c left, w = c :: left ∧ frontOf c ≠ .closing ∧ frontOf c ≠ .other
  misreads : ∀ rest item left u, item? (w ++ rest) = some (item, left) → item.value = .ok u →
    ∃ g, u.reading.entry = Expression.ofField g ∧ g.equal f ≠ .ok true

/-- A text that is read as an expression, if at all, but never as one that equals the given one. -/
def MisreadsTree (w : List Char) (e : Expression) : Prop :=
  ∀ rest operator items middle left e', opening? (w ++ rest) = some (operator, middle) →
    items? middle = some (items, left) → (Tree.node operator items).value = .ok e' → e'.equal e ≠ .ok true

theorem MisreadsTree.term {left : List Char} {e : Expression} (h : MisreadsTree ('(' :: left) e) :
    MisreadsTerm ('(' :: left) (.expression e) := by
  refine ⟨⟨_, _, rfl, .inl rfl⟩, fun rest term left' u ht hv => ?_⟩
  rw [List.cons_append] at ht
  simp only [term?, flatTerm?_opening, Option.bind_eq_some_iff, Option.map_eq_some_iff, Prod.exists,
    Prod.mk.injEq] at ht
  obtain ⟨operator, middle, ho, items, left'', hi, rfl, -⟩ := ht
  rw [Term.value] at hv
  obtain ⟨e', hvalue, he⟩ := bind_eq_ok_iff.1 hv
  obtain rfl : Value.expression e' = u := Except.ok.inj he
  rw [Value.equal]
  exact h rest operator items middle _ e' (by rwa [List.cons_append]) hi hvalue

/-- Fields of values that are not equal are not equal. -/
theorem equal_field_ne {u v : Value} (n m : Option String) (h : u.equal v ≠ .ok true) :
    FieldValue.equal ⟨u, n⟩ ⟨v, m⟩ ≠ .ok true :=
  fun hf => h (FieldValue.equal_eq_true hf).1

/-- What is misread by itself is misread as an item. -/
theorem MisreadsTerm.item {w : List Char} {v : Value} (h : MisreadsTerm w v) : MisreadsItem w ⟨v, none⟩ := by
  obtain ⟨c, left, rfl, hc⟩ := h.front
  obtain ⟨hname, hclosing, hother⟩ := hc.front
  refine ⟨⟨c, left, rfl, hclosing, hother⟩, fun rest item left' u hi hv => ?_⟩
  have hhead : head? (c :: left ++ rest) = some (.field none, c :: left ++ rest) := head?_of_front hname hother
  simp only [item?, hhead, Option.bind_some, Option.map_eq_some_iff, Prod.exists, Prod.mk.injEq] at hi
  obtain ⟨term, rest', ht, rfl, rfl⟩ := hi
  rw [Item.value] at hv
  refine ⟨⟨u, none⟩, ?_, equal_field_ne none none (h.misreads rest term _ u ht hv)⟩
  rcases structured_of_term? hc ht hv with ⟨r, rfl⟩ | ⟨e, rfl⟩ <;> rfl

/-- What is misread by itself is misread behind the name of a field. -/
theorem MisreadsTerm.named {w : List Char} {v : Value} {name : String} (h : MisreadsTerm w v)
    (hn : Terminal.fieldName.pattern.Matches name.toList) (ho : Operator.ofText? name = none) :
    MisreadsItem (name.toList ++ ':' :: w) ⟨v, some name⟩ := by
  obtain ⟨c, left, rfl, hc⟩ := h.front
  obtain ⟨-, -, hother⟩ := hc.front
  refine ⟨?_, fun rest item left' u hi hv => ?_⟩
  · obtain ⟨d, left', hd, hfront⟩ := exists_cons_of_matches hn
    exact ⟨d, left', hd, by simp [hfront]⟩
  have hhead : head? (name.toList ++ ':' :: c :: left ++ rest) =
      some (.field (some name.toList), c :: left ++ rest) := by
    rw [List.append_assoc]
    exact head?_of_colon hn hother
  simp only [item?, hhead, Option.bind_some, Option.map_eq_some_iff, Prod.exists, Prod.mk.injEq] at hi
  obtain ⟨term, rest', ht, rfl, rfl⟩ := hi
  rw [Item.value] at hv
  obtain ⟨x, hvalue, hv⟩ := bind_eq_ok_iff.1 hv
  obtain ⟨f, hf, hv⟩ := bind_eq_ok_iff.1 hv
  -- what is read in the place of the content is an interval or an expression, which any name may hold
  have hnew : FieldValue.new (.text (String.ofList name.toList)) x = .ok ⟨x, some name⟩ := by
    rw [String.ofList_toList]
    rcases structured_of_term? hc ht hvalue with ⟨r, rfl⟩ | ⟨e, rfl⟩
    all_goals exact FieldValue.new_text (ne_empty_of_matches_fieldName hn) ho (by simp) rfl
  obtain rfl : ⟨x, some name⟩ = f := Except.ok.inj (hnew.symm.trans hf)
  obtain rfl : Value.field ⟨x, some name⟩ = u := Except.ok.inj hv
  exact ⟨⟨x, some name⟩, rfl, equal_field_ne _ _ (h.misreads rest term _ x ht hvalue)⟩

end Query

namespace Expression

end Expression

/-- Neither a text that the field holds nor one in an expression that it holds is taken over as it is. -/
structure FieldValue.Quotes (f : FieldValue) : Prop where
  text : ∀ s, f.value.text? = some s → isOpaque s.toList = false
  nested : ∀ e, f.value = .expression e → e.Everywhere Expression.Quotes

end StructuredQuery
