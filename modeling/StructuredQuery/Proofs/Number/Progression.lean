import Mathlib.Algebra.Order.Ring.Int
import StructuredQuery.Interval

/-!
The members of a progression and the interval over them. A place is counted as long as the number at it has not
come to the stop, whichever way the steps go. All members lie between the first and the last one, so an interval
from the first to the last is one from the least to the greatest only if the steps go upwards.
-/

namespace StructuredQuery

namespace Progression

/-- A number belongs to a progression if it is reached from the start before the stop is. -/
def Holds (p : Progression) (x : Int) : Prop :=
  ∃ i : Nat, x = p.member i ∧ if 0 < p.step then x < p.stop else p.stop < x

/-- As many steps fit into a span as leave some of it. -/
theorem lt_toNat_ediv_iff {span step : Int} (hs : 0 < step) (i : Nat) :
    i < ((span + step - 1) / step).toNat ↔ i * step < span := by
  have hnext : ((i : Int) + 1) * step = i * step + step := by
    rw [Int.add_mul, Int.one_mul]
  calc
    i < ((span + step - 1) / step).toNat ↔ (i : Int) + 1 ≤ (span + step - 1) / step := by omega
    _ ↔ ((i : Int) + 1) * step ≤ span + step - 1 := Int.le_ediv_iff_mul_le hs
    _ ↔ i * step < span := by rw [hnext]; omega

/-- A place is counted if and only if the number at it lies before the stop. -/
theorem lt_length_iff (p : Progression) (i : Nat) :
    i < p.length ↔ if 0 < p.step then p.member i < p.stop else p.stop < p.member i := by
  unfold length member
  split
  · next hs =>
    rw [lt_toNat_ediv_iff hs]
    omega
  · next hs =>
    -- going down, the steps and the span are counted with their signs turned
    have hdown : 0 < -p.step := by
      have := p.step_ne_zero
      omega
    have hturn : (i : Int) * -p.step = -(i * p.step) := Int.mul_neg _ _
    rw [show p.start - p.stop - p.step - 1 = p.start - p.stop + -p.step - 1 by omega,
      lt_toNat_ediv_iff hdown, hturn]
    omega

/-- The numbers of a progression are its members. -/
theorem holds_iff {p : Progression} {x : Int} : p.Holds x ↔ ∃ i < p.length, x = p.member i := by
  constructor
  · rintro ⟨i, rfl, hi⟩
    exact ⟨i, (p.lt_length_iff i).2 hi, rfl⟩
  · rintro ⟨i, hi, rfl⟩
    exact ⟨i, rfl, (p.lt_length_iff i).1 hi⟩

/-- A progression holds a number unless it has no members. -/
theorem exists_holds_iff {p : Progression} : (∃ x, p.Holds x) ↔ p.length ≠ 0 := by
  simp only [holds_iff]
  constructor
  · rintro ⟨_, i, hi, -⟩
    omega
  · intro h
    exact ⟨p.member 0, 0, by omega, rfl⟩

theorem member_zero (p : Progression) : p.member 0 = p.start := by
  simp [member]

/-- Later places hold greater numbers if the steps go upwards, and smaller ones if they go down. -/
theorem member_le_member (p : Progression) {i j : Nat} (h : i ≤ j) :
    if 0 < p.step then p.member i ≤ p.member j else p.member j ≤ p.member i := by
  have hij : (i : Int) ≤ j := Int.ofNat_le.2 h
  unfold member
  split
  · next hs =>
    have := Int.mul_le_mul_of_nonneg_right hij (Int.le_of_lt hs)
    omega
  · next hs =>
    have := Int.mul_le_mul_of_nonpos_right hij (Int.not_lt.1 hs)
    omega

/-- Every member lies between the first and the last one. -/
theorem between_of_holds {p : Progression} {x : Int} (h : p.Holds x) :
    if 0 < p.step then p.start ≤ x ∧ x ≤ p.member (p.length - 1)
    else p.member (p.length - 1) ≤ x ∧ x ≤ p.start := by
  obtain ⟨i, hi, rfl⟩ := holds_iff.1 h
  have hfirst := p.member_le_member (Nat.zero_le i)
  have hlast := p.member_le_member (show i ≤ p.length - 1 by omega)
  rw [member_zero] at hfirst
  by_cases hs : 0 < p.step
  · rw [if_pos hs] at hfirst hlast ⊢
    exact ⟨hfirst, hlast⟩
  · rw [if_neg hs] at hfirst hlast ⊢
    exact ⟨hlast, hfirst⟩

end Progression

namespace Interval

theorem ofBounds_int (lower upper : Int) :
    ofBounds (.int lower) (.int upper) = .ok ⟨.int lower, true, .int upper, true⟩ := rfl

/-- A progression without members makes no interval. Any other makes the one from its first to its last member,
both of which belong to the interval, and all members lie between these two: from below if the steps go upwards,
and from above if they go down. -/
theorem ofValue_progression (p : Progression) :
    (ofValue (.progression p) = .error .openRange ↔ ∀ x, ¬p.Holds x) ∧
      ((∃ x, p.Holds x) → ∃ first last, p.Holds first ∧ p.Holds last ∧
        ofValue (.progression p) = .ok ⟨.int first, true, .int last, true⟩ ∧
        ∀ x, p.Holds x → if 0 < p.step then first ≤ x ∧ x ≤ last else last ≤ x ∧ x ≤ first) := by
  have hvalue : ofValue (.progression p) = ofProgression p := rfl
  rw [hvalue, ofProgression, Progression.last?]
  by_cases hlength : p.length = 0
  · have hnone : ¬∃ x, p.Holds x := by
      rw [Progression.exists_holds_iff]
      exact not_not.2 hlength
    rw [if_pos hlength]
    exact ⟨iff_of_true rfl (not_exists.1 hnone), fun hsome => absurd hsome hnone⟩
  · rw [if_neg hlength]
    dsimp only
    rw [ofBounds_int]
    have hfirst : p.Holds p.start := Progression.holds_iff.2 ⟨0, by omega, p.member_zero.symm⟩
    have hlast : p.Holds (p.member (p.length - 1)) := Progression.holds_iff.2 ⟨_, by omega, rfl⟩
    refine ⟨iff_of_false (by simp) fun hnone => hnone _ hfirst, fun _ => ?_⟩
    exact ⟨p.start, _, hfirst, hlast, rfl, fun x hx => Progression.between_of_holds hx⟩

/-- The case of three, one and minus one, where a further step down would pass the stop. -/
theorem ofValue_progression_down :
    let p : Progression := ⟨3, -2, -2, by decide⟩
    (∃ x, p.Holds x) ∧ ∃ first last, p.Holds first ∧ p.Holds last ∧
      ofValue (.progression p) = .ok ⟨.int first, true, .int last, true⟩ ∧
      ∀ x, p.Holds x → if 0 < p.step then first ≤ x ∧ x ≤ last else last ≤ x ∧ x ≤ first := by
  intro p
  have hsome : ∃ x, p.Holds x := ⟨1, 1, rfl, by decide⟩
  exact ⟨hsome, (ofValue_progression p).2 hsome⟩

/-- From five down to one the lower bound of the interval is five and its upper one is one, so three, which is
a member, does not lie between them. -/
theorem ofValue_progression_reversed :
    let p : Progression := ⟨5, 0, -1, by decide⟩
    (∃ x, p.Holds x) ∧ ofValue (.progression p) = .ok ⟨.int 5, true, .int 1, true⟩ ∧
      ¬∃ lower upper, ofValue (.progression p) = .ok ⟨.int lower, true, .int upper, true⟩ ∧
        ∀ x, p.Holds x → lower ≤ x ∧ x ≤ upper := by
  intro p
  have hthree : p.Holds 3 := ⟨2, rfl, by decide⟩
  have hvalue : ofValue (.progression p) = .ok ⟨.int 5, true, .int 1, true⟩ := rfl
  refine ⟨⟨3, hthree⟩, hvalue, ?_⟩
  rintro ⟨lower, upper, hr, hall⟩
  rw [hvalue] at hr
  obtain ⟨rfl, rfl⟩ : 5 = lower ∧ 1 = upper := by simpa using hr
  exact absurd (hall 3 hthree).1 (by decide)

end Interval

end StructuredQuery
