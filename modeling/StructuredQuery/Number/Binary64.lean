import StructuredQuery.Number.Numeral
import StructuredQuery.Text.Blank

/-!
Binary floating-point numbers of 64 bits. The finite magnitudes are numbered in increasing order,
so that neighbours have neighbouring ranks; every magnitude is a whole number of units of
`2 ^ -1074`, the least positive one. A written number is rounded to the nearest magnitude, and a
tie goes to the even rank.
-/

namespace StructuredQuery

abbrev Rank := Fin (2047 * Nat.pow 2 52)

/-- A floating-point number: no number, an infinity, or a sign and the rank of a magnitude. -/
inductive Binary64
  | nan
  | infinity (negative : Bool)
  | finite (negative : Bool) (rank : Rank)
deriving DecidableEq, Repr

namespace Binary64

/-- The magnitude of a rank in units of `2 ^ -1074`: equal steps below rank `2 ^ 53`, and steps that
double after every further `2 ^ 52` ranks. -/
def units (rank : Nat) : Nat :=
  if rank < Nat.pow 2 52 then rank
  else (Nat.pow 2 52 + rank % Nat.pow 2 52) * Nat.pow 2 (rank / Nat.pow 2 52 - 1)

def rankOfUnits (u : Nat) : Nat :=
  if u < Nat.pow 2 52 then u
  else (u.log2 - 52) * Nat.pow 2 52 + u / Nat.pow 2 (u.log2 - 52)

/-- The rank nearest to `num / den` units; of two nearest the even one. -/
def nearestRank (num den : Nat) : Nat :=
  let below := rankOfUnits (num / den)
  let twice := 2 * num
  let middle := den * (units below + units (below + 1))
  if twice < middle ∨ (twice = middle ∧ below % 2 = 0) then below else below + 1

/-- The number of a sign and a rank; ranks beyond the last magnitude are infinite. -/
def ofRank (negative : Bool) (rank : Nat) : Binary64 :=
  if h : rank < 2047 * Nat.pow 2 52 then .finite negative ⟨rank, h⟩ else .infinity negative

/-- The number nearest to a written one. Numbers of `10 ^ 400` and more are infinite and those below
`10 ^ -400` are zero whatever their digits. -/
def ofNumeral (n : Numeral) : Binary64 :=
  let length : Int := (Text.digitsOfNat n.coefficient).length
  if n.coefficient = 0 ∨ n.exponent + length < -400 then ofRank n.negative 0
  else if 400 < n.exponent + length then .infinity n.negative
  else ofRank n.negative
    (nearestRank (n.coefficient * Nat.pow 10 n.exponent.toNat * Nat.pow 2 1074)
      (Nat.pow 10 (-n.exponent).toNat))

def isFinite : Binary64 → Bool
  | .finite _ _ => true
  | _ => false

/-- A finite number written out exactly: its units times `5 ^ 1074` count `10 ^ -1074`. -/
def toNumeral? : Binary64 → Option Numeral
  | .finite negative rank => some ⟨negative, units rank * Nat.pow 5 1074, -1074⟩
  | _ => none

/-- Digits may be set apart by single underscores. -/
def dropUnderscores? : List Char → Option (List Char)
  | [] => some []
  | a :: '_' :: b :: rest =>
    if Text.isDecimalDigit a && Text.isDecimalDigit b then
      (dropUnderscores? (b :: rest)).map (a :: ·)
    else none
  | '_' :: _ => none
  | a :: rest => (dropUnderscores? rest).map (a :: ·)

/-- The number that a text in the liberal spelling gives; the words for infinity and for no number
are read as well. -/
def ofText? (text : String) : Option Binary64 := do
  let (negative, body) := Numeral.takeSign (Text.trim text.toList)
  let word := body.map Char.toLower
  if word = "inf".toList ∨ word = "infinity".toList then return .infinity negative
  if word = "nan".toList then return .nan
  let numeral ← Numeral.ofUnsigned? negative (← dropUnderscores? body)
  return ofNumeral numeral

end Binary64

end StructuredQuery
