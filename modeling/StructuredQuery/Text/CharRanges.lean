/-!
Classes of characters given as tables of code point ranges.
-/

namespace StructuredQuery.Text

/-- Inclusive ranges of code points, in increasing order. -/
abbrev CharRanges := List (Nat × Nat)

/-- A character belongs to a table if one of its ranges holds the code point. -/
def CharRanges.contains (table : CharRanges) (c : Char) : Bool :=
  table.any fun range => range.1 ≤ c.toNat && c.toNat ≤ range.2

end StructuredQuery.Text
