import StructuredQuery.Proofs.CommandLine.Calls
import StructuredQuery.Proofs.CommandLine.Check
import StructuredQuery.Proofs.CommandLine.Rendered
import StructuredQuery.Proofs.Json.Reread

/-!
What the command `render` prints. In JSON it prints one list, which is decoded to the query texts, unless a note
is asked for: the note stands before the list, and no such text is decoded. In text form it prints lines, and
these are the query texts if no text holds a character that a line does not show as it is.
-/

namespace StructuredQuery

namespace CommandLine

/-! ## Lines -/

def shownRow (text : String) : List Char :=
  Text.expandTabs (text.toList.filter fun c => !isCursorControl c)

def rows (text : String) : List String :=
  ((shownRow text).splitOn '\n').map String.ofList

def IsLine (text : String) : Prop :=
  IsShown text ∧ '\n' ∉ text.toList

/-- A line of its own holds no tab, no control character and no line feed. -/
theorem isLine_iff {text : String} :
    IsLine text ↔ ∀ c ∈ text.toList, (c ≠ '\t' ∧ isCursorControl c = false) ∧ c ≠ '\n' := by
  rw [forall₂_and]
  exact and_congr Iff.rfl ⟨fun h c hc he => h (he ▸ hc), fun h hm => h _ hm rfl⟩

theorem isLine_iff_all {text : String} :
    IsLine text ↔ text.toList.all (fun c => c ≠ '\t' && !isCursorControl c && c ≠ '\n') = true := by
  simp [isLine_iff]

instance (text : String) : Decidable (IsLine text) :=
  decidable_of_iff' _ isLine_iff_all

variable {s : Setting} {c : Config} {v : Verbosity} {a : Arguments} {queries : List String} {args : List String}
  {o : Opening} {warnings : List String}

/-- The line about the number of queries, which is told on request. -/
def note (v : Verbosity) (count : Nat) : List String :=
  if v.verbose || v.debug then [s!"Rendered {count} queries"] else []

end CommandLine

end StructuredQuery
