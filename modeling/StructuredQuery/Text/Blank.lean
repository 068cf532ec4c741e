/-!
Blank characters, and texts without blanks at their ends.
-/

namespace StructuredQuery.Text

/-- Characters that separate words: white space of any script and the four separator controls. -/
def isBlank (c : Char) : Bool :=
  let n := c.toNat
  (9 ≤ n && n ≤ 13) || (28 ≤ n && n ≤ 32) || n == 0x85 || n == 0xA0 || n == 0x1680 ||
    (0x2000 ≤ n && n ≤ 0x200A) || n == 0x2028 || n == 0x2029 || n == 0x202F || n == 0x205F ||
    n == 0x3000

/-- The text from its last blank backwards is dropped as long as it is blank. -/
def trimEnd (text : List Char) : List Char :=
  (text.reverse.dropWhile isBlank).reverse

def trim (text : List Char) : List Char :=
  trimEnd (text.dropWhile isBlank)

/-- The characters of bare words: neither blanks nor round brackets. -/
def isWordChar (c : Char) : Bool :=
  !(isBlank c || c = '(' || c = ')')

def isWord (s : List Char) : Bool :=
  !s.isEmpty && s.all isWordChar

def occursIn (part : List Char) : List Char → Bool
  | [] => part.isEmpty
  | c :: rest => part.isPrefixOf (c :: rest) || occursIn part rest

end StructuredQuery.Text
