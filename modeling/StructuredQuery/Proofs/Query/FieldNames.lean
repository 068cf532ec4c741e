import StructuredQuery.Proofs.Query.Accepted

/-!
Names of fields in query text. Texts to match are quoted and escaped, but a name is written as it is: a name of
the grammar is read back with its text whatever that text holds, and any other name makes a query that is
refused or has other parts.
-/

namespace StructuredQuery

open Query Text

namespace Expression

/-- A name with a space in it makes a query that is refused, and one that holds an option before a space gives
the expression that option. -/
theorem option_in_field_name :
    (∀ n ∈ ["release date", "boost=2 title"], n ≠ "" ∧ Operator.ofText? n = none ∧
      isOpaque "x".toList = false ∧ FieldValue.new (.text n) (.text "x") = .ok ⟨.text "x", some n⟩ ∧
      FieldValue.render ⟨.text "x", some n⟩ = .ok (n ++ ":'x'")) ∧
    ofText "(and release date:'x')" = .error (.malformedQuery "(and release date:'x')") ∧
    ofText "(and boost=2 title:'x')" = .ok ⟨.and, [⟨.boost, some "2"⟩], [⟨.text "x", some "title"⟩]⟩ := by
  have hspace : Tree.ofText? "(and release date:'x')".toList = none := by
    cbv
  have hoption : Tree.ofText? "(and boost=2 title:'x')".toList =
      some (.node "and".toList [.option .boost "2".toList,
        .field (some "title".toList) (.scalar (.text "x".toList))]) := by
    cbv
  refine ⟨?_, ?_, ?_⟩
  · simp only [List.forall_mem_cons]
    exact ⟨⟨by decide, by decide, by decide, rfl, rfl⟩, ⟨by decide, by decide, by decide, rfl, rfl⟩, by simp⟩
  · have htrim : trim "(and release date:'x')".toList = "(and release date:'x')".toList := by decide
    rw [ofText, htrim]
    simp only [hspace]
    rfl
  · have htrim : trim "(and boost=2 title:'x')".toList = "(and boost=2 title:'x')".toList := by decide
    rw [ofText, htrim]
    simp only [hoption]
    rfl

end Expression

end StructuredQuery
