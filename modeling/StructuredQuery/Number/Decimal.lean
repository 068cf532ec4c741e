import StructuredQuery.Fault
import StructuredQuery.Number.Numeral
import StructuredQuery.Text.Blank

/-!
Decimal numbers, which keep the digits and the power of ten that they were written with: `1.50` and
`1.5` are different texts of equal numbers.
-/

namespace StructuredQuery

open Text

/-- A decimal number as it was written, an infinity, or no number with a payload. -/
inductive Decimal
  | finite (numeral : Numeral)
  | infinity (negative : Bool)
  | nan (negative signaling : Bool) (payload : Nat)
deriving DecidableEq, Repr

namespace Decimal

/-- The greatest power of ten that the first digit of a decimal may count. -/
def greatestPower : Int := 999999999999999999

/-- The least power of ten that the last digit of a decimal may count. -/
def leastPower : Int := -1999999999999999997

def isFinite : Decimal → Bool
  | .finite _ => true
  | _ => false

def writePower (p : Int) : List Char :=
  'E' :: (if p < 0 then '-' else '+') :: digitsOfNat p.natAbs

/-- A finite decimal without its sign. It is positional when the last digit counts no more than ones
and at most five zeros follow the point before the first digit. -/
def writeMagnitude (n : Numeral) : List Char :=
  let ds := digitsOfNat n.coefficient
  let k := ds.length + n.exponent
  if n.exponent ≤ 0 ∧ -6 < k then
    if k ≤ 0 then '0' :: '.' :: (List.replicate (-k).toNat '0' ++ ds)
    else
      let fraction := ds.drop k.toNat
      ds.take k.toNat ++ (if fraction.isEmpty then [] else '.' :: fraction)
  else
    let fraction := ds.drop 1
    ds.take 1 ++ (if fraction.isEmpty then [] else '.' :: fraction) ++ writePower (k - 1)

def write (d : Decimal) : String :=
  let sign (negative : Bool) : List Char := if negative then ['-'] else []
  String.ofList <| match d with
    | .finite n => sign n.negative ++ writeMagnitude n
    | .infinity negative => sign negative ++ "Infinity".toList
    | .nan negative signaling payload =>
      sign negative ++ (if signaling then ['s'] else []) ++ "NaN".toList ++
        (if payload = 0 then [] else digitsOfNat payload)

def payload? (digits : List Char) : Option Nat :=
  if digits.all isDecimalDigit then some (natOfDigits digits) else none

/-- No number, quiet or signaling, with its payload. -/
def nanOfWord? (negative : Bool) (word : List Char) : Option Decimal :=
  match word with
  | 's' :: 'n' :: 'a' :: 'n' :: digits => (payload? digits).map (.nan negative true)
  | 'n' :: 'a' :: 'n' :: digits => (payload? digits).map (.nan negative false)
  | _ => none

/-- A finite decimal whose digits all lie between the least and the greatest power. -/
def ofNumeral? (n : Numeral) : Option Decimal :=
  if leastPower ≤ n.exponent ∧
      n.exponent + (digitsOfNat n.coefficient).length ≤ greatestPower + 1 then
    some (.finite n)
  else none

/-- The decimal that a text in the liberal spelling gives; underscores in it do not count. -/
def ofText? (text : String) : Except Fault Decimal :=
  let (negative, body) := Numeral.takeSign ((trim text.toList).filter (· ≠ '_'))
  let word := body.map Char.toLower
  let read : Option Decimal :=
    if word = "inf".toList ∨ word = "infinity".toList then some (.infinity negative)
    else (nanOfWord? negative word).or ((Numeral.ofUnsigned? negative body).bind ofNumeral?)
  read.elim (.error .invalidDecimal) .ok

end Decimal

end StructuredQuery
