import StructuredQuery.Proofs.Expression.Errors
import StructuredQuery.Proofs.Query.Exact

/-!
The reader of query texts is the grammar. A text is read if it has a derivation, which is then the only
one, and what is read is the value of that derivation.
-/

namespace StructuredQuery

open Query

namespace Text

theorem trimEnd_prefix (cs : List Char) : trimEnd cs <+: cs := by
  have h := List.dropWhile_suffix (l := cs.reverse) isBlank
  rw [trimEnd, ← List.reverse_suffix, List.reverse_reverse]
  exact h

/-- A trimmed text does not begin with a blank. -/
theorem stops_trim (cs : List Char) : Stops isBlank (trim cs) := by
  obtain ⟨left, hl⟩ := trimEnd_prefix (cs.dropWhile isBlank)
  have hd := stops_dropWhile isBlank cs
  rw [← hl] at hd
  rw [trim]
  cases ht : trimEnd (cs.dropWhile isBlank) with
  | nil => exact stops_nil _
  | cons c rest =>
    rw [ht, List.cons_append] at hd
    exact stops_cons.2 (stops_cons.1 hd)

end Text

namespace Query

theorem isBlank_of_isSpace {c : Char} (h : isSpace c) : Text.isBlank c := by
  simp only [isSpace, Bool.or_eq_true, decide_eq_true_eq] at h
  rcases h with (((rfl | rfl) | rfl) | rfl) | rfl <;> decide

/-- The grammar's spaces are among the blanks that are trimmed. -/
theorem skipSpaces_trim (cs : List Char) : skipSpaces (Text.trim cs) = Text.trim cs := by
  apply Text.dropWhile_of_stops
  intro c hc
  by_contra hs
  rw [Bool.not_eq_false] at hs
  have hb := Text.stops_trim cs c hc
  rw [isBlank_of_isSpace hs] at hb
  exact absurd hb (by decide)

/-- A whole text that is read has a derivation with the same value. -/
theorem exists_derivation {cs : List Char} {tree : Tree} (hs : skipSpaces cs = cs)
    (h : Tree.ofText? cs = some tree) : ∃ e, Derivation cs e ∧ e.value = tree.value := by
  simp only [Tree.ofText?, Option.bind_eq_bind, Option.bind_eq_some_iff, Prod.exists] at h
  obtain ⟨operator, middle, ho, items, rest, hi, hrest⟩ := h
  split at hrest
  · next hnil =>
    obtain rfl : Tree.node operator items = tree := by simpa using hrest
    obtain rfl : rest = [] := List.isEmpty_iff.1 hnil
    rw [← hs] at ho
    exact exists_derivesExpr ho (hasDerivation_of_items? hi)
  · simp at hrest

/-- A whole text that has a derivation is read. -/
theorem Derivation.exists_ofText? {cs : List Char} {e : ExprNode} (hs : skipSpaces cs = cs)
    (h : Derivation cs e) : ∃ tree, Tree.ofText? cs = some tree := by
  cases h with
  | @node _ _ _ _ _ _ operator _ _ ho hw hi hc =>
    obtain ⟨items, hitems⟩ := hi.exists_items? hc
    have hopen := ho.opening? hw
    rw [hs] at hopen
    refine ⟨.node operator.lexeme items, ?_⟩
    simp only [Tree.ofText?, hopen, hitems, Option.bind_eq_bind, Option.bind_some, List.isEmpty_nil, if_true]

end Query

/-- A text that has a derivation stands for the value of the derivation. -/
theorem Expression.ofText_of_derivation {text : String} {e : ExprNode}
    (h : Derivation (Text.trim text.toList) e) : Expression.ofText text = e.value := by
  obtain ⟨tree, ht⟩ := h.exists_ofText? (skipSpaces_trim _)
  obtain ⟨e', h', hv⟩ := exists_derivation (skipSpaces_trim _) ht
  obtain ⟨rfl, -⟩ := DerivesExpr.unique h h'
  have hne : (Text.trim text.toList).isEmpty = false := by
    cases hcs : Text.trim text.toList with
    | nil =>
      rw [hcs] at ht
      exact absurd ht (by simp [Tree.ofText?, opening?])
    | cons => rfl
  rw [Expression.ofText]
  simp only [hne, Bool.false_eq_true, if_false, ht, hv]

/-- A text that has no derivation cannot be read. -/
theorem Expression.ofText_of_not_derivation {text : String}
    (h : ¬ ∃ e, Derivation (Text.trim text.toList) e) :
    ∃ err, Expression.ofText text = .error err ∧ err.isUnreadable := by
  have ht : Tree.ofText? (Text.trim text.toList) = none := by
    cases ht : Tree.ofText? (Text.trim text.toList) with
    | none => rfl
    | some tree =>
      obtain ⟨e, he, -⟩ := exists_derivation (skipSpaces_trim _) ht
      exact absurd ⟨e, he⟩ h
  rw [Expression.ofText]
  split
  · exact ⟨_, rfl, rfl⟩
  · rw [ht]
    exact ⟨_, rfl, rfl⟩

/-- No expression has an empty text. -/
theorem Query.Derivation.ne_nil {cs : List Char} {e : ExprNode} (h : Derivation cs e) : cs ≠ [] := by
  rintro rfl
  cases h with
  | node ho =>
    obtain ⟨-, hcs⟩ := (takes_char_iff rfl).1 ho
    exact absurd hcs (by simp [skipSpaces])

/-- The reader accepts exactly its grammar. A text has at most one derivation; it is refused as unreadable
if and only if, without the blanks around it, it is empty or has none; and else the answer is the value of
its derivation, or the error of the first node of the derivation that fails. -/
theorem Expression.ofText_exact :
    (∀ (cs : List Char) (e e' : ExprNode), Derivation cs e → Derivation cs e' → e = e') ∧
    (∀ text : String,
      (∃ err, Expression.ofText text = .error err ∧ err.isUnreadable) ↔
        Text.trim text.toList = [] ∨ ¬ ∃ e, Derivation (Text.trim text.toList) e) ∧
    ∀ (text : String) (e : ExprNode), Derivation (Text.trim text.toList) e →
      Expression.ofText text = e.value ∧
        ∀ err, Expression.ofText text = .error err ↔ e.failures.head? = some err := by
  refine ⟨fun cs e e' h h' => (DerivesExpr.unique h h').1, fun text => ⟨?_, ?_⟩, fun text e h => ?_⟩
  -- a text with a derivation gives the value of that, whose errors are of rules only
  · rintro ⟨err, he, hu⟩
    refine .inr fun ⟨e, h⟩ => ?_
    rw [Expression.ofText_of_derivation h] at he
    have hreadable := e.makes_value.of_error he
    rw [hu] at hreadable
    exact absurd hreadable (by decide)
  · intro h
    apply Expression.ofText_of_not_derivation
    rcases h with h | h
    · rintro ⟨e, he⟩
      exact he.ne_nil h
    · exact h
  · have hv := Expression.ofText_of_derivation h
    refine ⟨hv, fun err => ?_⟩
    rw [hv]
    exact e.failsFirst err

/-- The case of an operator and a field name that touch: letters of operators are small, so the operator ends
where the name begins. -/
theorem Expression.ofText_exact_touching :
    ∃ e, Derivation (Text.trim "(andX:'y')".toList) e ∧ Expression.ofText "(andX:'y')" = e.value ∧
      e.value = .ok ⟨.and, [], [⟨.text "y", some "X"⟩]⟩ := by
  have htrim : Text.trim "(andX:'y')".toList = "(andX:'y')".toList := by decide
  have htree : Tree.ofText? "(andX:'y')".toList =
      some (.node "and".toList [.field (some "X".toList) (.scalar (.text "y".toList))]) := by
    cbv
  obtain ⟨e, he, hv⟩ := exists_derivation (by decide) htree
  rw [← htrim] at he
  exact ⟨e, he, (Expression.ofText_exact.2.2 "(andX:'y')" e he).1, hv.trans rfl⟩

end StructuredQuery
