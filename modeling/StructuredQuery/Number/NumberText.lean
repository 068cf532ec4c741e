import StructuredQuery.Number.Numeral
import StructuredQuery.Text.Run

/-!
Numbers at the front of a text: a sign, digits, and as far as they are there a point with digits and a
power of ten. The characters that count as digits are the reader's choice.
-/

namespace StructuredQuery

open Text

/-- A number as it is written: the digits before and after the point, and the power of ten if one is
given. -/
structure NumberText where
  negative : Bool
  whole : List Char
  fraction : List Char
  power : Option Int
deriving DecidableEq, Repr

namespace NumberText

def takeFraction (isDigit : Char → Bool) (cs : List Char) : List Char × List Char :=
  match cs with
  | '.' :: rest => (run? isDigit rest).getD ([], cs)
  | _ => ([], cs)

def signedPower? (isDigit : Char → Bool) (cs : List Char) : Option (Int × List Char) :=
  let (negative, rest) := Numeral.takeSign cs
  (run? isDigit rest).map fun (ds, rest) =>
    (if negative then -(natOfDigits ds : Int) else natOfDigits ds, rest)

/-- The power of ten after an `e`, if there is one; else nothing is taken. -/
def takePower (isDigit : Char → Bool) (cs : List Char) : Option Int × List Char :=
  match cs with
  | [] => (none, [])
  | e :: rest =>
    if e = 'e' ∨ e = 'E' then
      match signedPower? isDigit rest with
      | some (n, rest) => (some n, rest)
      | none => (none, cs)
    else (none, cs)

def takeUnsigned? (isDigit : Char → Bool) (negative : Bool) (cs : List Char) :
    Option (NumberText × List Char) :=
  (run? isDigit cs).map fun (whole, rest) =>
    let (fraction, rest) := takeFraction isDigit rest
    let (power, rest) := takePower isDigit rest
    (⟨negative, whole, fraction, power⟩, rest)

def take? (isDigit : Char → Bool) : List Char → Option (NumberText × List Char)
  | '-' :: rest => takeUnsigned? isDigit true rest
  | rest => takeUnsigned? isDigit false rest

/-- A number is an integer if it is written with neither a point nor a power of ten. -/
def isInteger (n : NumberText) : Bool :=
  n.fraction.isEmpty && n.power.isNone

def numeral (n : NumberText) : Numeral :=
  .ofParts n.negative n.whole n.fraction (n.power.getD 0)

theorem suffix_takeFraction (isDigit : Char → Bool) (cs : List Char) : (takeFraction isDigit cs).2 <:+ cs := by
  unfold takeFraction
  split
  · next rest =>
    cases h : run? isDigit rest with
    | none => exact List.suffix_rfl
    | some taken => exact (suffix_of_run? h).trans (List.suffix_cons _ rest)
  · exact List.suffix_rfl

theorem suffix_signedPower? {isDigit : Char → Bool} {cs rest : List Char} {n : Int}
    (h : signedPower? isDigit cs = some (n, rest)) : rest <:+ cs := by
  simp only [signedPower?, Option.map_eq_some_iff, Prod.exists, Prod.mk.injEq] at h
  obtain ⟨ds, left, hrun, -, rfl⟩ := h
  exact (suffix_of_run? hrun).trans (Numeral.suffix_takeSign cs)

theorem suffix_takePower (isDigit : Char → Bool) (cs : List Char) : (takePower isDigit cs).2 <:+ cs := by
  unfold takePower
  split
  · exact List.suffix_rfl
  · next e rest =>
    split
    · split
      · next h => exact (suffix_signedPower? h).trans (List.suffix_cons e rest)
      · exact List.suffix_rfl
    · exact List.suffix_rfl

theorem takeUnsigned?_eq {isDigit : Char → Bool} {negative : Bool} {cs rest : List Char} {n : NumberText}
    (h : takeUnsigned? isDigit negative cs = some (n, rest)) :
    ∃ left, run? isDigit cs = some (n.whole, left) ∧ rest <:+ left := by
  simp only [takeUnsigned?, Option.map_eq_some_iff, Prod.exists, Prod.mk.injEq] at h
  obtain ⟨whole, left, hrun, rfl, rfl⟩ := h
  exact ⟨left, hrun, (suffix_takePower isDigit _).trans (suffix_takeFraction isDigit left)⟩

theorem length_takeUnsigned? {isDigit : Char → Bool} {negative : Bool} {cs rest : List Char}
    {n : NumberText} (h : takeUnsigned? isDigit negative cs = some (n, rest)) :
    rest.length < cs.length := by
  obtain ⟨left, hrun, hs⟩ := takeUnsigned?_eq h
  exact Nat.lt_of_le_of_lt hs.length_le (length_of_run? hrun)

theorem suffix_take? {isDigit : Char → Bool} {cs rest : List Char} {n : NumberText}
    (h : take? isDigit cs = some (n, rest)) : rest <:+ cs := by
  unfold take? at h
  split at h
  · obtain ⟨left, hrun, hs⟩ := takeUnsigned?_eq h
    exact (hs.trans (suffix_of_run? hrun)).trans (List.suffix_cons _ _)
  · obtain ⟨left, hrun, hs⟩ := takeUnsigned?_eq h
    exact hs.trans (suffix_of_run? hrun)

theorem length_take? {isDigit : Char → Bool} {cs rest : List Char} {n : NumberText}
    (h : take? isDigit cs = some (n, rest)) : rest.length < cs.length := by
  unfold take? at h
  split at h
  · have := length_takeUnsigned? h
    simp only [List.length_cons]
    omega
  · exact length_takeUnsigned? h

end NumberText

end StructuredQuery
