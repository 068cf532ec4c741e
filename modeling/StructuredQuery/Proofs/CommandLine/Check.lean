import StructuredQuery.CommandLine.Program
import StructuredQuery.Proofs.Query.Verbatim

/-!
The command `check` and the canonical form. What the command prints for a text that is read is read again as
the same expression, unless the text holds a string that is taken over as it is.
-/

namespace StructuredQuery.CommandLine

open Query

/-- A text that a line shows as it is: it holds no tabs and no characters that move the cursor. -/
def IsShown (text : String) : Prop :=
  ∀ c ∈ text.toList, c ≠ '\t' ∧ isCursorControl c = false

/-- A string in round brackets is not kept: it is taken over as it is, and what is written is refused. -/
theorem ofText_render_refused : ∃ e, Expression.ofText "(and '(x)')" = .ok e ∧ e.render = .ok "(and (x))" ∧
    Expression.ofText "(and (x))" = .error (.unknownOperator "x") := by
  have hgiven : Tree.ofText? "(and '(x)')".toList =
      some (.node "and".toList [.field none (.scalar (.text "(x)".toList))]) := by
    cbv
  have hwritten : Tree.ofText? "(and (x))".toList =
      some (.node "and".toList [.field none (.expression (.node "x".toList []))]) := by
    cbv
  have hread := Expression.ofText_of_tree (by decide) hgiven
  have hrefused := Expression.ofText_of_tree (by decide) hwritten
  rw [String.ofList_toList] at hread hrefused
  exact ⟨⟨.and, [], [⟨.text "(x)", none⟩]⟩, hread.trans rfl, rfl, hrefused.trans rfl⟩

end StructuredQuery.CommandLine
