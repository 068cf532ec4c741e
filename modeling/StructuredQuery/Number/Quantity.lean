import StructuredQuery.Number.Binary64
import StructuredQuery.Number.Decimal

/-!
Exact comparison of numbers of different kinds. Every finite number is a whole number times a power
of ten, so all of them are compared as written numbers, without rounding.
-/

namespace StructuredQuery

open Text

namespace Numeral

/-- The digits without zeros at their end, and the power of ten that the last one counts. -/
def dropZeros (coefficient : Nat) (exponent : Int) : Nat × Int :=
  if h : coefficient ≠ 0 ∧ coefficient % 10 = 0 then
    dropZeros (coefficient / 10) (exponent + 1)
  else (coefficient, exponent)
termination_by coefficient
decreasing_by omega

/-- The written form with fewest digits; zero has no sign. Equal numbers have the same one. -/
def normal (n : Numeral) : Numeral :=
  if n.coefficient = 0 then ⟨false, 0, 0⟩
  else
    let (c, e) := dropZeros n.coefficient n.exponent
    ⟨n.negative, c, e⟩

/-- Whether the first of two magnitudes in normal form is the smaller. Their leading digits are
compared first, so that no power of ten is larger than the digits are many. -/
def magnitudeLess (a b : Numeral) : Bool :=
  if a.coefficient = 0 then b.coefficient ≠ 0
  else if b.coefficient = 0 then false
  else
    let k := (digitsOfNat a.coefficient).length + a.exponent
    let l := (digitsOfNat b.coefficient).length + b.exponent
    if k = l then
      a.coefficient * Nat.pow 10 (a.exponent - b.exponent).toNat <
        b.coefficient * Nat.pow 10 (b.exponent - a.exponent).toNat
    else k < l

def less (a b : Numeral) : Bool :=
  let a := a.normal
  let b := b.normal
  match a.negative, b.negative with
  | false, false => magnitudeLess a b
  | true, true => magnitudeLess b a
  | true, false => true
  | false, true => false

end Numeral

/-- What a number amounts to, whatever its kind. -/
inductive Quantity
  | finite (n : Numeral)
  | infinite (negative : Bool)
  | undefined (signaling : Bool)
deriving DecidableEq, Repr

namespace Quantity

def ofInt (n : Int) : Quantity := .finite ⟨n < 0, n.natAbs, 0⟩

def ofBinary64 (x : Binary64) : Quantity :=
  match x, x.toNumeral? with
  | _, some n => .finite n
  | .infinity negative, none => .infinite negative
  | _, none => .undefined false

def ofDecimal : Decimal → Quantity
  | .finite n => .finite n
  | .infinity negative => .infinite negative
  | .nan _ signaling _ => .undefined signaling

/-- Whether two quantities are equal; what is undefined equals nothing, and a signaling one may not be
compared at all. -/
def equal : Quantity → Quantity → Except Fault Bool
  | .undefined true, _ => .error .invalidDecimal
  | _, .undefined true => .error .invalidDecimal
  | .finite a, .finite b => .ok (a.normal = b.normal)
  | .infinite a, .infinite b => .ok (a = b)
  | _, _ => .ok false

/-- Whether the first of two quantities is the smaller; what is undefined is not smaller than anything
nor anything smaller than it. -/
def less : Quantity → Quantity → Bool
  | .finite a, .finite b => a.less b
  | .infinite a, .infinite b => a && !b
  | .infinite negative, .finite _ => negative
  | .finite _, .infinite negative => !negative
  | _, _ => false

end Quantity

end StructuredQuery
