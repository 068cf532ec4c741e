/-!
Halves of pairs of code units. A text of a JSON document may hold one by itself, which no character is. It is
kept as a character for private use, the one of the sixteenth plane with the same last four digits; these
characters themselves are taken for halves as well. Halves can be written as escapes, but not be printed.
-/

namespace StructuredQuery.Text

/-- The character for a code unit or a code point. -/
def ofUnit (n : Nat) : Char :=
  if n.isValidChar then Char.ofNat n else Char.ofNat (0x100000 + n)

/-- The code unit that a character stands for by itself if it is half of a pair. -/
def half? (c : Char) : Option Nat :=
  if 0x10D800 ≤ c.toNat ∧ c.toNat < 0x10E000 then some (c.toNat - 0x100000) else none

def isHigh (n : Nat) : Bool := 0xD800 ≤ n && n ≤ 0xDBFF

def isLow (n : Nat) : Bool := 0xDC00 ≤ n && n ≤ 0xDFFF

def hasHalf (text : List Char) : Bool :=
  text.any fun c => (half? c).isSome

end StructuredQuery.Text
