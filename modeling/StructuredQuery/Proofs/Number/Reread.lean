import StructuredQuery.Number.Decimal
import StructuredQuery.Number.Integer
import StructuredQuery.Number.Shortest
import StructuredQuery.Proofs.Number.Rounding
import StructuredQuery.Proofs.Number.Spelling

/-!
Integers and floating-point numbers are read back from their own text. The shortest digits of a float
read back by construction; what is shown here is that its layout, with the zeros and the power of ten
that it adds or drops, spells the same number. The text of a decimal spells a number as well, though what
is read of it is no decimal.
-/

namespace StructuredQuery

open Text NumberText

/-- A power of ten with its sign. -/
theorem NumberText.spellsPower_signed {e : Char} {ds : List Char} {p : Int} (he : e = 'e' ∨ e = 'E')
    (hne : ds ≠ []) (hd : ∀ c ∈ ds, isDecimalDigit c) (hv : natOfDigits ds = p.natAbs) :
    SpellsPower (e :: (if p < 0 then '-' else '+') :: ds) (some p) := by
  have hs : SpellsSign [if p < 0 then '-' else '+'] (decide (p < 0)) := by
    by_cases hp : p < 0
    · simpa [hp] using SpellsSign.minus
    · simpa [hp] using SpellsSign.plus
  have h := SpellsPower.some e _ _ _ he hs hne hd
  have hp : (if decide (p < 0) then -(natOfDigits ds : Int) else natOfDigits ds) = p := by
    rw [hv]
    by_cases hp : p < 0
    · rw [decide_eq_true hp, if_pos rfl]
      omega
    · rw [decide_eq_false hp, if_neg (by decide)]
      omega
  rwa [hp] at h

namespace Binary64

theorem negative_of_ofNumeral {n : Numeral} {negative : Bool} {r : Rank}
    (h : ofNumeral n = .finite negative r) : n.negative = negative := by
  simp only [ofNumeral, ofRank] at h
  split_ifs at h <;> simp_all

theorem coefficient_ne_zero_of_ofNumeral {n : Numeral} {negative : Bool} {r : Rank}
    (h : ofNumeral n = .finite negative r) (hr : r.val ≠ 0) : n.coefficient ≠ 0 := by
  intro hc
  rw [ofNumeral, if_pos (.inl hc)] at h
  exact hr (eq_of_ofRank_eq_finite h).symm

/-- The shortest digits read back as the magnitude that they were found for. -/
theorem ofNumeral_shortest (r : Rank) : ofNumeral (shortest r) = .finite false r := by
  have hf (candidates : List Numeral) (n : Numeral) (h : firstReading r candidates = some n) :
      ofNumeral n = .finite false r := by
    have := List.find?_some h
    exact eq_of_beq this
  unfold shortest
  dsimp only
  cases hc : firstReading r _ with
  | none => exact ofNumeral_exact r
  | some n => exact hf _ n hc

theorem exists_dropTrailingZeros (ds : List Char) :
    ∃ m, ds = dropTrailingZeros ds ++ List.replicate m '0' := by
  refine ⟨(ds.reverse.takeWhile (· = '0')).length, ?_⟩
  have hz : ds.reverse.takeWhile (· = '0') =
      List.replicate (ds.reverse.takeWhile (· = '0')).length '0' := by
    rw [List.eq_replicate_iff]
    refine ⟨rfl, fun c hc => ?_⟩
    simpa using List.all_eq_true.1 List.all_takeWhile c hc
  calc
    ds = (ds.reverse.takeWhile (· = '0') ++ ds.reverse.dropWhile (· = '0')).reverse := by
      rw [List.takeWhile_append_dropWhile, List.reverse_reverse]
    _ = dropTrailingZeros ds ++ (ds.reverse.takeWhile (· = '0')).reverse := List.reverse_append
    _ = _ := by rw [hz, List.reverse_replicate, List.length_replicate]

theorem spellsPower_writePower (width : Nat) (p : Int) : SpellsPower (writePower width p) (some p) :=
  spellsPower_signed (.inl rfl) (paddedDigits_ne_nil width p.natAbs) isDecimalDigit_of_mem_paddedDigits
    (natOfDigits_paddedDigits width p.natAbs)

/-- A number in parts is the text of digits laid out around a point, and counts them by the place of
that point. -/
structure LaidOut (n : NumberText) (ds : List Char) (k : Int) : Prop where
  spells : n.Spells (place layout ds k)
  not_integer : n.isInteger = false
  value : ∃ j : Nat, natOfDigits (n.whole ++ n.fraction) = natOfDigits ds * 10 ^ j ∧
    n.power.getD 0 - n.fraction.length + j = k - (ds.length : Int)

/-- A number below one is laid out with zeros behind the point. -/
theorem laidOut_small {ds : List Char} {k : Int} (hne : ds ≠ []) (hd : ∀ c ∈ ds, isDecimalDigit c)
    (hl : layout.lowest ≤ k ∧ k ≤ layout.highest) (hk : k ≤ 0) (negative : Bool) :
    LaidOut ⟨negative, ['0'], List.replicate (-k).toNat '0' ++ ds, none⟩ ds k := by
  have hz : List.replicate (-k).toNat '0' ++ ds ≠ [] := by simp [hne]
  refine ⟨⟨List.cons_ne_nil _ _, isDecimalDigit_of_mem_zeros (k := 1), ?_, ?_⟩, ?_, 0, ?_, ?_⟩
  · intro c hc
    rcases List.mem_append.1 hc with h | h
    · exact isDecimalDigit_of_mem_zeros c h
    · exact hd c h
  · refine ⟨[], .none, ?_⟩
    rw [place, if_pos hl, if_pos hk]
    simp [fractionText, hne]
  · simp [NumberText.isInteger, hne]
  · have h1 : natOfDigits (['0'] ++ (List.replicate (-k).toNat '0' ++ ds)) =
        natOfDigits (List.replicate 1 '0' ++ (List.replicate (-k).toNat '0' ++ ds)) := rfl
    rw [h1, natOfDigits_zeros_append, natOfDigits_zeros_append, Nat.pow_zero, Nat.mul_one]
  · simp only [Option.getD_none, List.length_append, List.length_replicate]
    omega

/-- A number of a moderate size is laid out with the point among its digits. -/
theorem laidOut_middle {ds : List Char} {k : Int} (hne : ds ≠ []) (hd : ∀ c ∈ ds, isDecimalDigit c)
    (hl : layout.lowest ≤ k ∧ k ≤ layout.highest) (hk : ¬ k ≤ 0) (negative : Bool) :
    LaidOut ⟨negative, ds.take k.toNat ++ List.replicate (k.toNat - ds.length) '0',
      if (ds.drop k.toNat).isEmpty then ['0'] else ds.drop k.toNat, none⟩ ds k := by
  have hpos : 0 < ds.length := List.length_pos_iff.2 hne
  -- the parts are digits and are spelled so; then the value of the digits, where the point may stand behind them
  refine ⟨⟨?_, ?_, ?_, ?_⟩, ?_, ?_⟩
  · intro h
    have := congrArg List.length h
    simp only [List.length_append, List.length_take, List.length_replicate, List.length_nil] at this
    omega
  · intro c hc
    rcases List.mem_append.1 hc with h | h
    · exact hd c (List.mem_of_mem_take h)
    · exact isDecimalDigit_of_mem_zeros c h
  · intro c hc
    dsimp only at hc
    split at hc
    · obtain rfl := List.mem_singleton.1 hc
      decide
    · exact hd c (List.mem_of_mem_drop hc)
  · refine ⟨[], .none, ?_⟩
    rw [place, if_pos hl, if_neg hk]
    dsimp only
    split <;> simp_all [fractionText]
  · dsimp only [NumberText.isInteger]
    split <;> simp_all
  · by_cases hle : ds.length ≤ k.toNat
    · -- the digits end before the point: zeros fill the gap and one follows the point
      refine ⟨k.toNat - ds.length + 1, ?_, ?_⟩
      · simp only [List.drop_eq_nil_of_le hle, List.take_of_length_le hle, List.isEmpty_nil, if_true]
        rw [List.append_assoc, ← List.replicate_succ' (n := k.toNat - ds.length),
          natOfDigits_append_zeros]
      · simp only [List.drop_eq_nil_of_le hle, List.isEmpty_nil, if_true, Option.getD_none,
          List.length_singleton]
        omega
    · -- the point stands among the digits
      have hdrop : (ds.drop k.toNat).isEmpty = false := by
        rw [List.isEmpty_eq_false_iff]
        simp only [ne_eq, List.drop_eq_nil_iff]
        omega
      refine ⟨0, ?_, ?_⟩
      · rw [hdrop, if_neg (by decide), show k.toNat - ds.length = 0 by omega, List.replicate_zero,
          List.append_nil, List.take_append_drop, Nat.pow_zero, Nat.mul_one]
      · rw [hdrop, if_neg (by decide), List.length_drop, Option.getD_none]
        omega

/-- Any other number is laid out with a power of ten. -/
theorem laidOut_power {ds : List Char} {k : Int} (hne : ds ≠ []) (hd : ∀ c ∈ ds, isDecimalDigit c)
    (hl : ¬ (layout.lowest ≤ k ∧ k ≤ layout.highest)) (negative : Bool) :
    LaidOut ⟨negative, ds.take 1, ds.drop 1, some (k - 1)⟩ ds k := by
  have hpos : 0 < ds.length := List.length_pos_iff.2 hne
  refine ⟨⟨by simp [hne], ?_, ?_, ?_⟩, by simp [NumberText.isInteger], 0, ?_, ?_⟩
  · intro c hc
    exact hd c (List.mem_of_mem_take hc)
  · intro c hc
    exact hd c (List.mem_of_mem_drop hc)
  · refine ⟨_, spellsPower_writePower layout.powerWidth (k - 1), ?_⟩
    rw [place, if_neg hl, List.append_assoc]
    rfl
  · rw [List.take_append_drop, Nat.pow_zero, Nat.mul_one]
  · simp only [Option.getD_some, List.length_drop]
    omega

/-- Digits are laid out in one of three ways. -/
theorem exists_laidOut {ds : List Char} (k : Int) (hne : ds ≠ []) (hd : ∀ c ∈ ds, isDecimalDigit c)
    (negative : Bool) : ∃ n : NumberText, n.negative = negative ∧ LaidOut n ds k := by
  by_cases hl : layout.lowest ≤ k ∧ k ≤ layout.highest
  · by_cases hk : k ≤ 0
    · exact ⟨_, rfl, laidOut_small hne hd hl hk negative⟩
    · exact ⟨_, rfl, laidOut_middle hne hd hl hk negative⟩
  · exact ⟨_, rfl, laidOut_power hne hd hl negative⟩

/-- However digits are laid out, they read as the same number. -/
theorem LaidOut.ofNumeral {n : NumberText} {ds : List Char} {k : Int} (h : LaidOut n ds k) :
    ofNumeral n.numeral = ofNumeral ⟨n.negative, natOfDigits ds, k - ds.length⟩ := by
  obtain ⟨j, hv, he⟩ := h.value
  rw [NumberText.numeral, Numeral.ofParts, hv, ofNumeral_mul_pow, he]

/-- Zero has no shortest digits and is written as a text of its own. -/
theorem exists_spells_zero {r : Rank} (hr : r.val = 0) (negative : Bool) :
    ∃ n : NumberText, n.negative = negative ∧ n.Spells (writeMagnitude r) ∧
      n.isInteger = false ∧ Binary64.ofNumeral n.numeral = .finite negative r := by
  have hzero : ∀ c ∈ ['0'], isDecimalDigit c := isDecimalDigit_of_mem_zeros (k := 1)
  have hc : natOfDigits (['0'] ++ ['0']) = 0 := by decide
  refine ⟨⟨negative, ['0'], ['0'], none⟩, rfl, ⟨List.cons_ne_nil _ _, hzero, hzero, ?_⟩, rfl, ?_⟩
  · exact ⟨[], .none, by rw [writeMagnitude, if_pos hr]; rfl⟩
  · rw [NumberText.numeral, Numeral.ofParts, Binary64.ofNumeral, if_pos (.inl hc), ← hr, ofRank_fin]

/-- The text of a magnitude spells a number that is no integer and is read as that magnitude. -/
theorem exists_spells_writeMagnitude (r : Rank) (negative : Bool) :
    ∃ n : NumberText, n.negative = negative ∧ n.Spells (writeMagnitude r) ∧
      n.isInteger = false ∧ Binary64.ofNumeral n.numeral = .finite negative r := by
  by_cases hr : r.val = 0
  · exact exists_spells_zero hr negative
  have hs := ofNumeral_shortest r
  have hc := coefficient_ne_zero_of_ofNumeral hs hr
  have hn := negative_of_ofNumeral hs
  rw [writeMagnitude, if_neg hr]
  -- of the shortest digits no more matters than that they are read as the magnitude
  generalize shortest r = m at hs hc hn ⊢
  obtain ⟨_, c, e⟩ := m
  obtain rfl : _ = false := hn
  dsimp only at hc ⊢
  -- the zeros that are dropped at the end are put back as a power of ten
  obtain ⟨z, hz⟩ := exists_dropTrailingZeros (digitsOfNat c)
  generalize dropTrailingZeros (digitsOfNat c) = ds at hz ⊢
  have hv : c = natOfDigits ds * 10 ^ z := by
    rw [← natOfDigits_append_zeros, ← hz, natOfDigits_digitsOfNat]
  have hne : ds ≠ [] := by
    rintro rfl
    rw [show natOfDigits [] = 0 from rfl, Nat.zero_mul] at hv
    exact hc hv
  have hd : ∀ d ∈ ds, isDecimalDigit d := by
    intro d hd
    apply isDecimalDigit_of_mem_digitsOfNat (n := c)
    rw [hz]
    exact List.mem_append_left _ hd
  obtain ⟨n, rfl, hl⟩ := exists_laidOut ((digitsOfNat c).length + e) hne hd negative
  refine ⟨n, rfl, hl.spells, hl.not_integer, ?_⟩
  have he : ((digitsOfNat c).length : Int) + e - ds.length = e + z := by
    rw [hz, List.length_append, List.length_replicate]
    omega
  rw [hl.ofNumeral, he, ← ofNumeral_mul_pow, ← hv]
  exact ofNumeral_sign hs n.negative

/-- The shortest text of a finite number is taken whole from the front of a text, is no integer and is
read as the same number. -/
theorem take?_write {x : Binary64} (hx : x.isFinite) {rest : List Char}
    (hr : Stops isContinuation rest) :
    ∃ n : NumberText, take? isDecimalDigit (x.write.toList ++ rest) = some (n, rest) ∧
      n.isInteger = false ∧ Binary64.ofNumeral n.numeral = x := by
  cases x with
  | nan => exact absurd hx (by decide)
  | infinity negative => exact absurd hx (by simp [isFinite])
  | finite negative r =>
    obtain ⟨n, rfl, hs, hi, hv⟩ := exists_spells_writeMagnitude r negative
    refine ⟨n, ?_, hi, hv⟩
    rw [write, String.toList_ofList, List.append_assoc]
    exact hs.take? hr

end Binary64

namespace Decimal

theorem spellsPower_writePower (p : Int) : SpellsPower (writePower p) (some p) :=
  spellsPower_signed (.inr rfl) (digitsOfNat_ne_nil p.natAbs) isDecimalDigit_of_mem_digitsOfNat
    (natOfDigits_digitsOfNat p.natAbs)

/-- The text of a decimal spells a number, with all the digits and the power of ten that it keeps. -/
theorem exists_spells_writeMagnitude (n : Numeral) :
    ∃ t : NumberText, t.negative = n.negative ∧ t.Spells (writeMagnitude n) := by
  have hne := digitsOfNat_ne_nil n.coefficient
  have hd : ∀ c ∈ digitsOfNat n.coefficient, isDecimalDigit c := isDecimalDigit_of_mem_digitsOfNat
  unfold writeMagnitude
  dsimp only
  generalize digitsOfNat n.coefficient = ds at hne hd ⊢
  generalize hk : (ds.length : Int) + n.exponent = k
  have htake (m : Nat) : ∀ c ∈ ds.take m, isDecimalDigit c := fun c hc => hd c (List.mem_of_mem_take hc)
  have hdrop (m : Nat) : ∀ c ∈ ds.drop m, isDecimalDigit c := fun c hc => hd c (List.mem_of_mem_drop hc)
  -- the point stands in front of the digits, among them, or behind the first of them
  split
  · split
    · refine ⟨⟨n.negative, ['0'], List.replicate (-k).toNat '0' ++ ds, none⟩, rfl,
        List.cons_ne_nil _ _, isDecimalDigit_of_mem_zeros (k := 1),
        List.forall_mem_append.2 ⟨isDecimalDigit_of_mem_zeros, hd⟩, [], .none, ?_⟩
      simp [fractionText, hne]
    · next hpositive =>
      have hfirst : k.toNat ≠ 0 := by omega
      refine ⟨⟨n.negative, ds.take k.toNat, ds.drop k.toNat, none⟩, rfl, by simp [hne, hfirst], htake _, hdrop _,
        [], .none, ?_⟩
      simp [fractionText]
  · refine ⟨⟨n.negative, ds.take 1, ds.drop 1, some (k - 1)⟩, rfl, by simp [hne], htake 1, hdrop 1,
      writePower (k - 1), spellsPower_writePower (k - 1), ?_⟩
    rw [List.append_assoc]
    rfl

/-- The text of a finite decimal is taken whole from the front of a text as a number. -/
theorem exists_take?_write {d : Decimal} (hd : d.isFinite) : ∃ t : NumberText, ∀ rest,
    Stops isContinuation rest → take? isDecimalDigit (d.write.toList ++ rest) = some (t, rest) := by
  cases d with
  | infinity | nan => exact absurd hd (by simp [isFinite])
  | finite n =>
    obtain ⟨t, ht, hs⟩ := exists_spells_writeMagnitude n
    refine ⟨t, fun rest hr => ?_⟩
    rw [write, String.toList_ofList, List.append_assoc, ← ht]
    exact hs.take? hr

end Decimal

namespace Integer

/-- The digits of an integer are taken as a number, up to what may continue one. -/
theorem take?_digits (n : Int) {rest : List Char} (hr : Stops isContinuation rest) :
    take? isDecimalDigit (digits n ++ rest) =
      some (⟨decide (n < 0), digitsOfNat n.natAbs, [], none⟩, rest) := by
  have hs : Spells ⟨decide (n < 0), digitsOfNat n.natAbs, [], none⟩ (digitsOfNat n.natAbs) :=
    ⟨digitsOfNat_ne_nil _, isDecimalDigit_of_mem_digitsOfNat, by simp, [], .none, by simp [fractionText]⟩
  have ht := hs.take? hr
  rw [digits]
  by_cases hn : n < 0
  · simpa [hn, minusText] using ht
  · simpa [hn, minusText] using ht

/-- An integer of not too many digits is written. -/
theorem write_of_length {n : Int} (h : (digitsOfNat n.natAbs).length ≤ digitLimit) :
    write n = .ok (String.ofList (digits n)) := by
  have hl : n.natAbs < Nat.pow 10 digitLimit := (length_digitsOfNat_le_iff (by decide)).1 h
  rw [write, if_pos hl]

theorem length_of_write {n : Int} {text : String} (h : write n = .ok text) :
    (digitsOfNat n.natAbs).length ≤ digitLimit := by
  unfold write at h
  split at h
  · next hl => exact (length_digitsOfNat_le_iff (by decide)).2 hl
  · cases h

/-- An integer of not too many digits is read back from them. -/
theorem read_of_length {n : Int} (h : (digitsOfNat n.natAbs).length ≤ digitLimit) :
    read (decide (n < 0)) (digitsOfNat n.natAbs) = .ok n := by
  rw [read_digitsOfNat h, Except.ok.injEq]
  simp only [decide_eq_true_eq]
  omega

/-- An integer that has been read can be written. -/
theorem length_digitsOfNat_of_read {negative : Bool} {ds : List Char} {n : Int} (h : read negative ds = .ok n) :
    (digitsOfNat n.natAbs).length ≤ digitLimit := by
  unfold read at h
  split at h
  · next hl =>
    have habs : n.natAbs = natOfDigits ds := by
      rw [← Except.ok.inj h]
      cases negative <;> simp
    rw [habs]
    exact length_digitsOfNat_natOfDigits_le (by decide) hl
  · cases h

end Integer

end StructuredQuery
