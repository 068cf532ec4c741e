import Mathlib.Tactic.ByContra
import StructuredQuery.Number.NumberText
import StructuredQuery.Proofs.Number.DigitRows

/-!
Spelled numbers. A number is spelled by its digits, a point with digits and a power of ten, each of which
is taken whole when the number is read at the front of a text; and whatever is read as a number is such a
spelling.
-/

namespace StructuredQuery.NumberText

open Text

/-- The characters that may make a number longer when they stand behind it. -/
def isContinuation (c : Char) : Bool :=
  isDecimalDigit c || c = '.' || c = 'e' || c = 'E'

def fractionText (ds : List Char) : List Char :=
  if ds.isEmpty then [] else '.' :: ds

inductive SpellsSign : List Char → Bool → Prop
  | minus : SpellsSign ['-'] true
  | plus : SpellsSign ['+'] false
  | none : SpellsSign [] false

inductive SpellsPower : List Char → Option Int → Prop
  | none : SpellsPower [] none
  | some (e : Char) (sign ds : List Char) (negative : Bool) (he : e = 'e' ∨ e = 'E')
      (hs : SpellsSign sign negative) (hne : ds ≠ []) (hd : ∀ c ∈ ds, isDecimalDigit c) :
      SpellsPower (e :: (sign ++ ds)) (some (if negative then -(natOfDigits ds : Int) else natOfDigits ds))

structure Spells (n : NumberText) (text : List Char) : Prop where
  whole_ne_nil : n.whole ≠ []
  whole_digits : ∀ c ∈ n.whole, isDecimalDigit c
  fraction_digits : ∀ c ∈ n.fraction, isDecimalDigit c
  text_eq : ∃ power, SpellsPower power n.power ∧ text = n.whole ++ (fractionText n.fraction ++ power)

def minusText (negative : Bool) : List Char := if negative then ['-'] else []

/-- The characters that may stand between the digits of a number and its power of ten. -/
def isFractionPart (c : Char) : Bool :=
  isDecimalDigit c || c = '.'

theorem stops_of_stops_isContinuation {p : Char → Bool} {rest : List Char}
    (hp : ∀ c, p c → isContinuation c) (hr : Stops isContinuation rest) : Stops p rest := by
  intro c hc
  have h := hr c hc
  by_contra hn
  rw [hp c (by simpa using hn)] at h
  exact absurd h (by decide)

theorem stops_isDecimalDigit {rest : List Char} (hr : Stops isFractionPart rest) :
    Stops isDecimalDigit rest := by
  intro c hc
  have h := hr c hc
  rw [isFractionPart, Bool.or_eq_false_iff] at h
  exact h.1

theorem stops_point {rest : List Char} (hr : Stops isFractionPart rest) : Stops (· = '.') rest := by
  intro c hc
  have h := hr c hc
  rw [isFractionPart, Bool.or_eq_false_iff] at h
  exact h.2

theorem stops_isFractionPart {rest : List Char} (hr : Stops isContinuation rest) :
    Stops isFractionPart rest := by
  refine stops_of_stops_isContinuation (fun c hc => ?_) hr
  rw [isFractionPart] at hc
  simp [isContinuation, hc]

/-- Behind a fraction comes a power of ten or what may not continue a number. -/
theorem stops_power {power : List Char} {n : Option Int} (rest : List Char) (hp : SpellsPower power n)
    (hr : power = [] → Stops isFractionPart rest) : Stops isFractionPart (power ++ rest) := by
  cases hp with
  | none => exact hr rfl
  | some e sign ds negative he =>
    apply stops_cons.2
    rcases he with rfl | rfl <;> decide

theorem stops_digit_fraction (ds : List Char) {rest : List Char} (hr : Stops isDecimalDigit rest) :
    Stops isDecimalDigit (fractionText ds ++ rest) := by
  unfold fractionText
  split
  · exact hr
  · exact stops_cons.2 (by decide)

theorem takeFraction_of_ne {cs : List Char} (h : Stops (· = '.') cs) :
    takeFraction isDecimalDigit cs = ([], cs) := by
  unfold takeFraction
  split
  · exact absurd (stops_cons.1 h) (by decide)
  · rfl

/-- A fraction is taken up to its last digit. -/
theorem takeFraction_append {ds rest : List Char} (hd : ∀ c ∈ ds, isDecimalDigit c)
    (hr : Stops isFractionPart rest) :
    takeFraction isDecimalDigit (fractionText ds ++ rest) = (ds, rest) := by
  by_cases hne : ds = []
  · subst hne
    exact takeFraction_of_ne (stops_point hr)
  · rw [fractionText, if_neg (by simpa using hne), List.cons_append, takeFraction,
      run?_append hne hd (stops_isDecimalDigit hr), Option.getD_some]

/-- A sign in front of digits is taken. -/
theorem takeSign_append {sign ds rest : List Char} {negative : Bool} (hs : SpellsSign sign negative)
    (hne : ds ≠ []) (hd : ∀ c ∈ ds, isDecimalDigit c) :
    Numeral.takeSign (sign ++ (ds ++ rest)) = (negative, ds ++ rest) := by
  cases hs with
  | minus => rfl
  | plus => rfl
  | none =>
    obtain ⟨d, ds, rfl⟩ := List.exists_cons_of_ne_nil hne
    have hdigit : isDecimalDigit d := hd d List.mem_cons_self
    rw [List.nil_append, List.cons_append]
    unfold Numeral.takeSign
    split
    · next he =>
      rw [(List.cons.inj he).1] at hdigit
      exact absurd hdigit (by decide)
    · next he =>
      rw [(List.cons.inj he).1] at hdigit
      exact absurd hdigit (by decide)
    · rfl

theorem takePower_e {e : Char} (he : e = 'e' ∨ e = 'E') {sign ds rest : List Char} {negative : Bool}
    (hs : SpellsSign sign negative) (hne : ds ≠ []) (hd : ∀ c ∈ ds, isDecimalDigit c)
    (hr : Stops isDecimalDigit rest) :
    takePower isDecimalDigit (e :: (sign ++ (ds ++ rest))) =
      (some (if negative then -(natOfDigits ds : Int) else natOfDigits ds), rest) := by
  have hp : signedPower? isDecimalDigit (sign ++ (ds ++ rest)) =
      some (if negative then -(natOfDigits ds : Int) else natOfDigits ds, rest) := by
    rw [signedPower?, takeSign_append hs hne hd]
    simp only [run?_append hne hd hr, Option.map_some]
  rw [takePower, if_pos he, hp]

/-- A power of ten is taken up to its last digit. -/
theorem takePower_append {power rest : List Char} {n : Option Int} (hp : SpellsPower power n)
    (hr : Stops isContinuation rest) : takePower isDecimalDigit (power ++ rest) = (n, rest) := by
  cases hp with
  | none =>
    cases rest with
    | nil => rfl
    | cons e rest =>
      have he := stops_cons.1 hr
      simp only [isContinuation, Bool.or_eq_false_iff, decide_eq_false_iff_not] at he
      have hn : ¬ (e = 'e' ∨ e = 'E') := by
        rintro (h | h)
        · exact he.1.2 h
        · exact he.2 h
      rw [List.nil_append, takePower, if_neg hn]
  | some e sign ds negative he hs hne hd =>
    rw [List.cons_append, List.append_assoc, takePower_e he hs hne hd (stops_isDecimalDigit (stops_isFractionPart hr))]

/-- A spelled number is taken as a whole, if nothing behind it may continue it. -/
theorem Spells.takeUnsigned? {n : NumberText} {text rest : List Char} (h : n.Spells text)
    (hr : Stops isContinuation rest) :
    NumberText.takeUnsigned? isDecimalDigit n.negative (text ++ rest) = some (n, rest) := by
  obtain ⟨power, hp, rfl⟩ := h.text_eq
  have hpower := stops_power _ hp fun _ => stops_isFractionPart hr
  have hrun := run?_append h.whole_ne_nil h.whole_digits
    (stops_digit_fraction n.fraction (stops_isDecimalDigit hpower))
  rw [List.append_assoc, List.append_assoc, NumberText.takeUnsigned?, hrun]
  simp only [Option.map_some, takeFraction_append h.fraction_digits hpower, takePower_append hp hr]

theorem take?_of_digit {c : Char} {rest : List Char} (hc : isDecimalDigit c) :
    NumberText.take? isDecimalDigit (c :: rest) =
      NumberText.takeUnsigned? isDecimalDigit false (c :: rest) := by
  unfold NumberText.take?
  split
  · next he =>
    rw [(List.cons.inj he).1] at hc
    exact absurd hc (by decide)
  · rfl

/-- A spelled number is taken whole from the front of a text if what follows cannot make it longer. -/
theorem Spells.take? {n : NumberText} {text rest : List Char} (h : n.Spells text)
    (hr : Stops isContinuation rest) :
    NumberText.take? isDecimalDigit (minusText n.negative ++ (text ++ rest)) = some (n, rest) := by
  have hu := h.takeUnsigned? hr
  unfold minusText
  cases hn : n.negative with
  | true =>
    rw [hn] at hu
    exact hu
  | false =>
    rw [hn] at hu
    obtain ⟨power, hp, rfl⟩ := h.text_eq
    obtain ⟨c, ds, hc⟩ := List.exists_cons_of_ne_nil h.whole_ne_nil
    have hd : isDecimalDigit c := h.whole_digits c (by rw [hc]; exact List.mem_cons_self)
    rw [hc] at hu ⊢
    exact (take?_of_digit hd).trans hu

/-- However a text begins with a power of ten, no less is taken. -/
theorem length_takePower_append_le {power left : List Char} {n : Option Int} (hp : SpellsPower power n) :
    (takePower isDecimalDigit (power ++ left)).2.length ≤ left.length := by
  cases hp with
  | none => exact (suffix_takePower isDecimalDigit left).length_le
  | some e sign ds negative he hs hne hd =>
    obtain ⟨taken, rest, hrun, -, hle⟩ := exists_run?_append left hne hd
    have hsigned : signedPower? isDecimalDigit (sign ++ (ds ++ left)) =
        some (if negative then -(natOfDigits taken : Int) else natOfDigits taken, rest) := by
      rw [signedPower?, takeSign_append hs hne hd]
      simp only [hrun, Option.map_some]
    rw [List.cons_append, List.append_assoc, takePower, if_pos he, hsigned]
    exact hle

/-- More characters behind a number are not left out of what follows it. -/
theorem length_takePower_takeFraction_le {ds power left : List Char} {n : Option Int}
    (hd : ∀ c ∈ ds, isDecimalDigit c) (hp : SpellsPower power n) :
    (takePower isDecimalDigit
      (takeFraction isDecimalDigit (fractionText ds ++ (power ++ left))).2).2.length ≤ left.length := by
  by_cases hpower : power = []
  · subst hpower
    rw [List.nil_append]
    apply Nat.le_trans (suffix_takePower isDecimalDigit _).length_le
    by_cases hne : ds = []
    · subst hne
      exact (suffix_takeFraction isDecimalDigit left).length_le
    · obtain ⟨taken, rest, hrun, -, hle⟩ := exists_run?_append left hne hd
      rw [fractionText, if_neg (by simpa using hne), List.cons_append, takeFraction, hrun,
        Option.getD_some]
      exact hle
  · rw [takeFraction_append hd (stops_power _ hp fun h => absurd h hpower)]
    exact length_takePower_append_le hp

/-- However a text begins with a number, no less of it is taken as one. -/
theorem Spells.exists_takeUnsigned? {n : NumberText} {text : List Char} (h : n.Spells text)
    (negative : Bool) (left : List Char) :
    ∃ m rest, NumberText.takeUnsigned? isDecimalDigit negative (text ++ left) = some (m, rest) ∧
      rest.length ≤ left.length := by
  obtain ⟨power, hp, rfl⟩ := h.text_eq
  rw [List.append_assoc, List.append_assoc]
  -- without a point and a power, digits that follow are taken too
  by_cases hnil : fractionText n.fraction = [] ∧ power = []
  · obtain ⟨taken, rest, hrun, -, hle⟩ := exists_run?_append left h.whole_ne_nil h.whole_digits
    rw [hnil.1, hnil.2, List.nil_append, List.nil_append, NumberText.takeUnsigned?, hrun]
    refine ⟨_, _, rfl, ?_⟩
    calc
      _ ≤ (takeFraction isDecimalDigit rest).2.length := (suffix_takePower isDecimalDigit _).length_le
      _ ≤ rest.length := (suffix_takeFraction isDecimalDigit rest).length_le
      _ ≤ left.length := hle
  · -- a point or a letter ends the digits, so all that is spelled before it is taken
    have hstop : Stops isDecimalDigit (fractionText n.fraction ++ (power ++ left)) := by
      by_cases hf : fractionText n.fraction = []
      · have hpower := stops_power left hp fun he => absurd ⟨hf, he⟩ hnil
        rw [hf]
        exact stops_isDecimalDigit hpower
      · unfold fractionText at hf ⊢
        split at hf
        · exact absurd rfl hf
        · next hne =>
          rw [if_neg hne]
          exact stops_cons.2 (by decide)
    rw [NumberText.takeUnsigned?, run?_append h.whole_ne_nil h.whole_digits hstop]
    exact ⟨_, _, rfl, length_takePower_takeFraction_le h.fraction_digits hp⟩

/-- A spelled number is taken with whatever continues it. -/
theorem Spells.exists_take? {n : NumberText} {text : List Char} (h : n.Spells text) (left : List Char) :
    ∃ m rest, NumberText.take? isDecimalDigit (minusText n.negative ++ (text ++ left)) = some (m, rest) ∧
      rest.length ≤ left.length := by
  unfold minusText
  cases n.negative with
  | true => exact h.exists_takeUnsigned? true left
  | false =>
    have hu := h.exists_takeUnsigned? false left
    obtain ⟨power, -, rfl⟩ := h.text_eq
    obtain ⟨c, ds, hc⟩ := List.exists_cons_of_ne_nil h.whole_ne_nil
    have hd : isDecimalDigit c := h.whole_digits c (by rw [hc]; exact List.mem_cons_self)
    rw [hc] at hu ⊢
    simp only [Bool.false_eq_true, if_false, List.nil_append, List.cons_append] at hu ⊢
    rw [take?_of_digit hd]
    exact hu

/-- What is taken for a power of ten spells one. -/
theorem spellsPower_of_takePower (cs : List Char) :
    ∃ power, SpellsPower power (takePower isDecimalDigit cs).1 ∧
      cs = power ++ (takePower isDecimalDigit cs).2 := by
  cases cs with
  | nil => exact ⟨[], .none, rfl⟩
  | cons e rest =>
    rw [takePower]
    by_cases he : e = 'e' ∨ e = 'E'
    · rw [if_pos he]
      -- without digits behind it the letter is no power of ten and is left
      cases hp : signedPower? isDecimalDigit rest with
      | none => exact ⟨[], .none, rfl⟩
      | some taken =>
        obtain ⟨n, left⟩ := taken
        simp only [signedPower?, Option.map_eq_some_iff, Prod.exists, Prod.mk.injEq] at hp
        obtain ⟨ds, left', hrun, hn, rfl⟩ := hp
        obtain ⟨hcs, hne, hd, -⟩ := run?_eq_some_iff.1 hrun
        have hs : ∃ sign, SpellsSign sign (Numeral.takeSign rest).1 ∧
            rest = sign ++ (Numeral.takeSign rest).2 := by
          unfold Numeral.takeSign
          split
          · exact ⟨['-'], .minus, rfl⟩
          · exact ⟨['+'], .plus, rfl⟩
          · exact ⟨[], .none, rfl⟩
        obtain ⟨sign, hs, hr⟩ := hs
        refine ⟨e :: (sign ++ ds), ?_, ?_⟩
        · rw [← hn]
          exact .some e sign ds _ he hs hne hd
        · rw [List.cons_append, List.append_assoc, ← hcs, ← hr]
    · rw [if_neg he]
      exact ⟨[], .none, rfl⟩

/-- What is taken for a fraction is one. -/
theorem eq_of_takeFraction (cs : List Char) :
    cs = fractionText (takeFraction isDecimalDigit cs).1 ++ (takeFraction isDecimalDigit cs).2 ∧
      ∀ c ∈ (takeFraction isDecimalDigit cs).1, isDecimalDigit c := by
  unfold takeFraction
  split
  · next rest =>
    cases hrun : run? isDecimalDigit rest with
    | none => simp [fractionText]
    | some taken =>
      obtain ⟨ds, left⟩ := taken
      obtain ⟨rfl, hne, hd, -⟩ := run?_eq_some_iff.1 hrun
      simp only [Option.getD_some]
      exact ⟨by simp [fractionText, hne], hd⟩
  · simp [fractionText]

/-- What is taken for a number spells it. -/
theorem spells_of_takeUnsigned? {negative : Bool} {cs rest : List Char} {n : NumberText}
    (h : NumberText.takeUnsigned? isDecimalDigit negative cs = some (n, rest)) :
    n.negative = negative ∧ ∃ text, n.Spells text ∧ cs = text ++ rest := by
  simp only [NumberText.takeUnsigned?, Option.map_eq_some_iff, Prod.exists, Prod.mk.injEq] at h
  obtain ⟨whole, left, hrun, rfl, rfl⟩ := h
  obtain ⟨rfl, hne, hw, -⟩ := run?_eq_some_iff.1 hrun
  obtain ⟨hf, hd⟩ := eq_of_takeFraction left
  obtain ⟨power, hp, he⟩ := spellsPower_of_takePower (takeFraction isDecimalDigit left).2
  refine ⟨rfl, _, ⟨hne, hw, hd, power, hp, rfl⟩, ?_⟩
  rw [List.append_assoc, List.append_assoc, ← he, ← hf]

/-- What is taken as a number from the front of a text spells it. -/
theorem spells_of_take? {cs rest : List Char} {n : NumberText}
    (h : NumberText.take? isDecimalDigit cs = some (n, rest)) :
    ∃ text, n.Spells text ∧ cs = minusText n.negative ++ (text ++ rest) := by
  unfold NumberText.take? at h
  split at h
  · obtain ⟨hn, text, hs, rfl⟩ := spells_of_takeUnsigned? h
    exact ⟨text, hs, by rw [hn]; rfl⟩
  · obtain ⟨hn, text, hs, rfl⟩ := spells_of_takeUnsigned? h
    exact ⟨text, hs, by rw [hn]; rfl⟩

end StructuredQuery.NumberText
