import StructuredQuery.Text.CellWidth

/-!
Columns on a terminal: tabs written out as spaces. Columns are counted from the last tab or line break,
as a tab always ends at a column that is a multiple of eight.
-/

namespace StructuredQuery.Text

/-- The number of spaces for a tab behind a part of a line: one, and those that are left up to the next
multiple of eight. -/
def tabWidth (part : List Char) : Nat :=
  1 + (8 - cells (part ++ [' ']) % 8) % 8

/-- The text with its tabs written out, behind a part of a line whose last character comes first. -/
def expandTabsAfter (part : List Char) : List Char → List Char
  | [] => []
  | c :: rest =>
    if c = '\t' then List.replicate (tabWidth part.reverse) ' ' ++ expandTabsAfter [] rest
    else if c = '\n' then c :: expandTabsAfter [] rest
    else c :: expandTabsAfter (c :: part) rest

def expandTabs (text : List Char) : List Char :=
  expandTabsAfter [] text

end StructuredQuery.Text
