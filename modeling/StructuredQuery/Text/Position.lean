/-!
Places in a text, told by what is left of the text there.
-/

namespace StructuredQuery.Text

def before (text rest : List Char) : List Char :=
  text.take (text.length - rest.length)

/-- The number of the line in which a rest of a text begins, counted from one. -/
def lineNumber (text rest : List Char) : Nat :=
  (before text rest).count '\n' + 1

/-- The number of the column at which a rest of a text begins, counted from one. -/
def columnNumber (text rest : List Char) : Nat :=
  ((before text rest).reverse.takeWhile (· ≠ '\n')).length + 1

end StructuredQuery.Text
