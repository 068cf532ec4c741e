import Mathlib.Tactic.Ring
import StructuredQuery.Number.Binary64
import StructuredQuery.Proofs.Number.DigitRows

/-!
Written numbers rounded to floating-point numbers. The magnitudes increase with their ranks, a written
number that is a magnitude is read as that magnitude, and zeros at the end of the digits do not matter.
-/

namespace StructuredQuery.Binary64

open Text

theorem units_of_lt {r : Nat} (h : r < 2 ^ 52) : units r = r := if_pos h

theorem units_of_ge {r : Nat} (h : ¬ r < 2 ^ 52) :
    units r = (2 ^ 52 + r % 2 ^ 52) * 2 ^ (r / 2 ^ 52 - 1) := if_neg h

theorem rankOfUnits_of_lt {u : Nat} (h : u < 2 ^ 52) : rankOfUnits u = u := if_pos h

theorem rankOfUnits_of_ge {u : Nat} (h : ¬ u < 2 ^ 52) :
    rankOfUnits u = (u.log2 - 52) * 2 ^ 52 + u / 2 ^ (u.log2 - 52) := if_neg h

/-- Magnitudes grow with their ranks. -/
theorem units_lt_units_succ (r : Nat) : units r < units (r + 1) := by
  -- the ranks below the first row count units, and each row behind them has steps of one width
  by_cases h : r + 1 < 2 ^ 52
  · rw [units_of_lt h, units_of_lt (by omega)]
    omega
  by_cases hl : r < 2 ^ 52
  · have hr : r + 1 = 2 ^ 52 := by omega
    rw [units_of_lt hl, units_of_ge h, hr]
    omega
  have hp : 0 < 2 ^ (r / 2 ^ 52 - 1) := Nat.pow_pos (by decide)
  rw [units_of_ge h, units_of_ge hl]
  by_cases hm : r % 2 ^ 52 + 1 < 2 ^ 52
  · have h1 : (r + 1) % 2 ^ 52 = r % 2 ^ 52 + 1 := by omega
    have h2 : (r + 1) / 2 ^ 52 = r / 2 ^ 52 := by omega
    rw [h1, h2]
    exact Nat.mul_lt_mul_of_pos_right (by omega) hp
  · -- the last rank of its row: the steps double behind it
    have h1 : (r + 1) % 2 ^ 52 = 0 := by omega
    have h2 : (r + 1) / 2 ^ 52 - 1 = r / 2 ^ 52 - 1 + 1 := by omega
    rw [h1, h2]
    calc
      (2 ^ 52 + r % 2 ^ 52) * 2 ^ (r / 2 ^ 52 - 1) < (2 ^ 52 * 2) * 2 ^ (r / 2 ^ 52 - 1) :=
        Nat.mul_lt_mul_of_pos_right (by omega) hp
      _ = (2 ^ 52 + 0) * 2 ^ (r / 2 ^ 52 - 1 + 1) := by ring

theorem units_lt_units {r s : Nat} (h : r < s) : units r < units s := by
  induction s with
  | zero => omega
  | succ s ih =>
    rcases Nat.lt_or_ge r s with hr | hr
    · exact Nat.lt_trans (ih hr) (units_lt_units_succ s)
    · obtain rfl : r = s := by omega
      exact units_lt_units_succ r

theorem units_pos {r : Nat} (h : 0 < r) : 0 < units r := by
  have := units_lt_units h
  omega

/-- The magnitudes below a power of two, by their ranks. -/
theorem units_lt_pow {r k : Nat} (h : r < (k + 2) * 2 ^ 52) : units r < 2 ^ (53 + k) := by
  have hk : 2 ^ 53 ≤ 2 ^ (53 + k) := Nat.pow_le_pow_right (by decide) (Nat.le_add_right 53 k)
  by_cases hr : r < 2 ^ 52
  · rw [units_of_lt hr]
    omega
  have hc : 2 ^ 52 + r % 2 ^ 52 < 2 ^ 53 := by omega
  have he : r / 2 ^ 52 - 1 ≤ k := by omega
  rw [units_of_ge hr]
  calc
    (2 ^ 52 + r % 2 ^ 52) * 2 ^ (r / 2 ^ 52 - 1) < 2 ^ 53 * 2 ^ (r / 2 ^ 52 - 1) :=
      Nat.mul_lt_mul_of_pos_right hc (Nat.pow_pos (by decide))
    _ ≤ 2 ^ 53 * 2 ^ k := Nat.mul_le_mul_left _ (Nat.pow_le_pow_right (by decide) he)
    _ = 2 ^ (53 + k) := (Nat.pow_add 2 53 k).symm

/-- A magnitude is the greatest one of at most its own units. -/
theorem rankOfUnits_units (r : Nat) : rankOfUnits (units r) = r := by
  by_cases h : r < 2 ^ 52
  · rw [units_of_lt h, rankOfUnits_of_lt h]
  have hp : 0 < 2 ^ (r / 2 ^ 52 - 1) := Nat.pow_pos (by decide)
  have hge : 2 ^ 52 ≤ units r := by
    rw [units_of_ge h]
    exact Nat.le_trans (by omega) (Nat.le_mul_of_pos_right _ hp)
  -- the highest bit of the units tells the row of the rank
  have hlog : (units r).log2 = 52 + (r / 2 ^ 52 - 1) := by
    rw [Nat.log2_eq_iff (by omega), units_of_ge h, Nat.pow_add]
    constructor
    · exact Nat.mul_le_mul_right _ (by omega)
    · rw [show 52 + (r / 2 ^ 52 - 1) + 1 = 53 + (r / 2 ^ 52 - 1) by omega, Nat.pow_add]
      exact Nat.mul_lt_mul_of_pos_right (by omega) hp
  rw [rankOfUnits_of_ge (by omega), hlog, show 52 + (r / 2 ^ 52 - 1) - 52 = r / 2 ^ 52 - 1 by omega,
    units_of_ge h, Nat.mul_div_cancel _ hp]
  omega

/-- A magnitude that is a whole number of units is not rounded. -/
theorem nearestRank_units (r : Nat) : nearestRank (units r) 1 = r := by
  have hl := units_lt_units_succ r
  unfold nearestRank
  simp only [Nat.div_one, rankOfUnits_units]
  rw [if_pos (.inl (by omega))]

/-- The nearest rank depends on the fraction only. -/
theorem nearestRank_eq {a b c d : Nat} (hb : 0 < b) (hd : 0 < d) (h : a * d = c * b) :
    nearestRank a b = nearestRank c d := by
  have hq : a / b = c / d := by
    rw [← Nat.mul_div_mul_right a b hd, ← Nat.mul_div_mul_right c d hb, h, Nat.mul_comm b d]
  -- every comparison with the middle of two magnitudes is made over the common denominator
  have scaled (m : Nat) : 2 * a * d = 2 * c * b ∧ b * m * d = d * m * b := by
    constructor
    · rw [Nat.mul_assoc, h, Nat.mul_assoc]
    · ring
  have hlt (m : Nat) : 2 * a < b * m ↔ 2 * c < d * m := by
    rw [← Nat.mul_lt_mul_right hd, (scaled m).1, (scaled m).2, Nat.mul_lt_mul_right hb]
  have heq (m : Nat) : 2 * a = b * m ↔ 2 * c = d * m := by
    rw [← Nat.mul_left_inj (by omega : d ≠ 0), (scaled m).1, (scaled m).2,
      Nat.mul_left_inj (by omega : b ≠ 0)]
  unfold nearestRank
  simp only [hq, hlt, heq]

theorem ofRank_fin (negative : Bool) (r : Rank) :
    ofRank negative r = .finite negative r :=
  dif_pos r.isLt

theorem eq_of_ofRank_eq_finite {negative negative' : Bool} {k : Nat} {r : Rank}
    (h : ofRank negative k = .finite negative' r) : k = r := by
  unfold ofRank at h
  split at h
  · simp only [Binary64.finite.injEq] at h
    rw [← h.2]
  · simp at h

/-- The sign of a written number is the sign of what it is read as. -/
theorem ofNumeral_sign {c : Nat} {e : Int} {r : Rank}
    (h : ofNumeral ⟨false, c, e⟩ = .finite false r) (negative : Bool) :
    ofNumeral ⟨negative, c, e⟩ = .finite negative r := by
  simp only [ofNumeral] at h ⊢
  split at h
  · next hz => rw [if_pos hz, eq_of_ofRank_eq_finite h, ofRank_fin]
  · next hz =>
    rw [if_neg hz]
    split at h
    · simp at h
    · next hi => rw [if_neg hi, eq_of_ofRank_eq_finite h, ofRank_fin]

/-- Zeros at the end of the digits count as a power of ten. -/
theorem ofNumeral_mul_pow (negative : Bool) (c j : Nat) (e : Int) :
    ofNumeral ⟨negative, c * 10 ^ j, e⟩ = ofNumeral ⟨negative, c, e + j⟩ := by
  rcases Nat.eq_zero_or_pos c with rfl | hc
  · simp [ofNumeral]
  have hj : 0 < 10 ^ j := Nat.pow_pos (by decide)
  have hz : c * 10 ^ j = 0 ↔ c = 0 := by simp
  have hl : e + ((digitsOfNat (c * 10 ^ j)).length : Int) = e + j + (digitsOfNat c).length := by
    rw [digitsOfNat_mul_pow hc, List.length_append, List.length_replicate]
    omega
  have hn (m : Nat) : nearestRank (c * 10 ^ j * 10 ^ e.toNat * m) (10 ^ (-e).toNat) =
      nearestRank (c * 10 ^ (e + j).toNat * m) (10 ^ (-(e + j)).toNat) := by
    apply nearestRank_eq (Nat.pow_pos (by decide)) (Nat.pow_pos (by decide))
    have hp : j + e.toNat + (-(e + j)).toNat = (e + j).toNat + (-e).toNat := by omega
    calc
      c * 10 ^ j * 10 ^ e.toNat * m * 10 ^ (-(e + j)).toNat
        = c * m * 10 ^ (j + e.toNat + (-(e + j)).toNat) := by rw [Nat.pow_add, Nat.pow_add]; ring
      _ = c * m * 10 ^ ((e + j).toNat + (-e).toNat) := by rw [hp]
      _ = c * 10 ^ (e + j).toNat * m * 10 ^ (-e).toNat := by rw [Nat.pow_add]; ring
  simp only [ofNumeral, Nat.pow_eq, hz, hl, hn]

/-- A magnitude written out exactly is read as itself. -/
theorem ofNumeral_exact (r : Rank) :
    ofNumeral ⟨false, units r * 5 ^ 1074, -1074⟩ = .finite false r := by
  have pow_pos (b k : Nat) (hb : 0 < b) : 0 < b ^ k := Nat.pow_pos hb
  have h5 := pow_pos 5 1074 (by decide)
  rcases Nat.eq_zero_or_pos r.val with h0 | hr
  · have hu : units r = 0 := by rw [h0]; rfl
    rw [ofNumeral, if_pos (.inl (by rw [hu, Nat.zero_mul])), ← h0, ofRank_fin]
  have hu : 0 < units r := units_pos hr
  have hc : 0 < units r * 5 ^ 1074 := Nat.mul_pos hu h5
  -- the digits before the point are at most 400, and at most 400 zeros follow it
  have hmin : ¬ (digitsOfNat (units r * 5 ^ 1074)).length ≤ 673 := by
    rw [length_digitsOfNat_le_iff (by decide)]
    have hb : 10 ^ 673 ≤ 5 ^ 1074 := by decide +kernel
    have := Nat.le_mul_of_pos_left (5 ^ 1074) hu
    omega
  have hmax : (digitsOfNat (units r * 5 ^ 1074)).length ≤ 1474 := by
    rw [length_digitsOfNat_le_iff (by decide)]
    have hr' : r.val < (2045 + 2) * 2 ^ 52 := r.isLt
    have hb : 2 ^ (53 + 2045) * 5 ^ 1074 ≤ 10 ^ 1474 := by decide +kernel
    exact Nat.lt_of_lt_of_le (Nat.mul_lt_mul_of_pos_right (units_lt_pow hr') h5) hb
  have hn : nearestRank (units r * 5 ^ 1074 * 10 ^ 0 * 2 ^ 1074) (10 ^ 1074) = r := by
    refine (nearestRank_eq (pow_pos 10 1074 (by decide)) Nat.one_pos ?_).trans (nearestRank_units r)
    rw [Nat.mul_one, Nat.pow_zero, Nat.mul_one, Nat.mul_assoc, ← Nat.mul_pow]
  rw [ofNumeral, if_neg (by simp only; omega), if_neg (by simp only; omega)]
  exact (congrArg (ofRank false) hn).trans (ofRank_fin false r)

end StructuredQuery.Binary64
