import StructuredQuery.Text.Digit

/-!
Written numbers: a sign, a row of decimal digits and the power of ten that their last one counts.
What a grammar accepts as a number is its own affair; here are the value of a written number and
the liberal spelling that single values are given in.
-/

namespace StructuredQuery

open Text

/-- The number `± coefficient · 10 ^ exponent`, as it was written. -/
structure Numeral where
  negative : Bool
  coefficient : Nat
  exponent : Int
deriving DecidableEq, Repr

namespace Numeral

/-- A number written as a sign, digits before and after the point, and a power of ten. -/
def ofParts (negative : Bool) (whole fraction : List Char) (power : Int) : Numeral :=
  ⟨negative, natOfDigits (whole ++ fraction), power - fraction.length⟩

def takeSign : List Char → Bool × List Char
  | '-' :: rest => (true, rest)
  | '+' :: rest => (false, rest)
  | rest => (false, rest)

theorem suffix_takeSign (cs : List Char) : (takeSign cs).2 <:+ cs := by
  unfold takeSign
  split <;> simp

/-- The power of ten after an `e`: nothing, or a signed row of digits up to the end. -/
def power? : List Char → Option Int
  | [] => some 0
  | e :: rest =>
    let (negative, digits) := takeSign rest
    if (e = 'e' ∨ e = 'E') ∧ digits ≠ [] ∧ digits.all isDecimalDigit then
      let n : Int := natOfDigits digits
      some (if negative then -n else n)
    else none

/-- The liberal spelling: digits of any script, a point anywhere among them or beside them, and
perhaps a power of ten. -/
def ofUnsigned? (negative : Bool) (text : List Char) : Option Numeral :=
  let whole := text.takeWhile isDecimalDigit
  let rest := text.dropWhile isDecimalDigit
  let (fraction, tail) := match rest with
    | '.' :: rest => (rest.takeWhile isDecimalDigit, rest.dropWhile isDecimalDigit)
    | _ => ([], rest)
  if whole.isEmpty && fraction.isEmpty then none
  else (power? tail).map (ofParts negative whole fraction)

end Numeral

end StructuredQuery
