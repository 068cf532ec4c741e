import StructuredQuery.Number.Binary64

/-!
The shortest decimal text of a floating-point number: the fewest digits that read back as the same
number, and of those the nearest to it.
-/

namespace StructuredQuery

open Text

namespace Binary64

/-- How a number is laid out in decimal: which positions of the point are written without a power of
ten, and how many digits the power has at least. -/
structure Layout where
  lowest : Int
  highest : Int
  powerWidth : Nat

/-- Positional from one ten-thousandth up to below ten to the sixteenth, else a power of ten of at
least two digits. -/
def layout : Layout := ⟨-3, 16, 2⟩

/-- The position of the point before the first digit: the least `k` with the number below `10 ^ k`. -/
def pointPosition (u : Nat) : Int :=
  (digitsOfNat (u * Nat.pow 10 324 / Nat.pow 2 1074)).length - 324

/-- The two neighbours of `u` units that are whole multiples of `10 ^ e`, the nearer one first; a tie
puts the even one first. -/
def neighbours (u : Nat) (e : Int) : List Nat :=
  let num := u * Nat.pow 10 (-e).toNat
  let den := Nat.pow 2 1074 * Nat.pow 10 e.toNat
  let below := num / den
  let twice := 2 * (num % den)
  if twice < den ∨ (twice = den ∧ below % 2 = 0) then [below, below + 1] else [below + 1, below]

def firstReading (rank : Rank) (candidates : List Numeral) : Option Numeral :=
  candidates.find? fun n => ofNumeral n == .finite false rank

/-- The shortest numeral of a positive magnitude: its neighbours are tried with one digit, two and so
on up to seventeen. The exact numeral, which always reads back, closes the list. -/
def shortest (rank : Rank) : Numeral :=
  let u := units rank
  let k := pointPosition u
  let tried := (List.range 17).flatMap fun n =>
    let e := k - (n + 1 : Nat)
    (neighbours u e).map fun c => ⟨false, c, e⟩
  (firstReading rank tried).getD ⟨false, u * Nat.pow 5 1074, -1074⟩

def dropTrailingZeros (ds : List Char) : List Char :=
  (ds.reverse.dropWhile (· = '0')).reverse

def writePower (width : Nat) (p : Int) : List Char :=
  'e' :: (if p < 0 then '-' else '+') :: paddedDigits width p.natAbs

/-- Digits laid out with the point after the first `k` of them. -/
def place (l : Layout) (ds : List Char) (k : Int) : List Char :=
  if l.lowest ≤ k ∧ k ≤ l.highest then
    if k ≤ 0 then '0' :: '.' :: (List.replicate (-k).toNat '0' ++ ds)
    else
      let fraction := ds.drop k.toNat
      ds.take k.toNat ++ List.replicate (k.toNat - ds.length) '0' ++
        ('.' :: if fraction.isEmpty then ['0'] else fraction)
  else
    let fraction := ds.drop 1
    ds.take 1 ++ (if fraction.isEmpty then [] else '.' :: fraction) ++ writePower l.powerWidth (k - 1)

def writeMagnitude (rank : Rank) : List Char :=
  if rank.val = 0 then ['0', '.', '0']
  else
    let n := shortest rank
    let ds := digitsOfNat n.coefficient
    place layout (dropTrailingZeros ds) (ds.length + n.exponent)

def write : Binary64 → String
  | .nan => "nan"
  | .infinity negative => if negative then "-inf" else "inf"
  | .finite negative rank =>
    String.ofList ((if negative then ['-'] else []) ++ writeMagnitude rank)

end Binary64

end StructuredQuery
