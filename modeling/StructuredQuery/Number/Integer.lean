import StructuredQuery.Fault
import StructuredQuery.Text.Digit

/-!
Integers in decimal. Reading and writing are limited to a fixed number of digits, so that their
cost is bounded.
-/

namespace StructuredQuery.Integer

open Text

def digitLimit : Nat := 4300

def digits (n : Int) : List Char :=
  if n < 0 then '-' :: digitsOfNat n.natAbs else digitsOfNat n.natAbs

def write (n : Int) : Except Fault String :=
  if n.natAbs < Nat.pow 10 digitLimit then .ok (String.ofList (digits n)) else .error .digitLimit

/-- The integer that a sign and a row of digits write; leading zeros count as digits. -/
def read (negative : Bool) (ds : List Char) : Except Fault Int :=
  if ds.length ≤ digitLimit then
    .ok (if negative then -(natOfDigits ds : Int) else natOfDigits ds)
  else .error .digitLimit

theorem read_digitsOfNat {n : Nat} (h : (digitsOfNat n).length ≤ digitLimit) (negative : Bool) :
    read negative (digitsOfNat n) = .ok (if negative then -(n : Int) else n) := by
  rw [read, if_pos h, natOfDigits_digitsOfNat]

end StructuredQuery.Integer
