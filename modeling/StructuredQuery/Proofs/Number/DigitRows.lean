import Mathlib.Algebra.Group.Nat.Defs
import Mathlib.Data.List.Induction
import StructuredQuery.Text.Digit

/-!
Rows of decimal digits as numbers: rows behind each other, zeros in front and at the end, and how many
digits a number has.
-/

namespace StructuredQuery.Text

/-- What holds of the first 128 characters one by one. -/
theorem of_ascii {p : Char → Prop} (h : ∀ n : Fin 128, p (Char.ofNat n)) {c : Char} (hc : c.toNat < 128) :
    p c := by
  have hchar := h ⟨c.toNat, hc⟩
  rwa [Char.ofNat_toNat] at hchar

theorem digitValue?_lt {c : Char} {v : Nat} (h : digitValue? c = some v) : v < 10 := by
  unfold digitValue? at h
  obtain ⟨z, hz, rfl⟩ := Option.map_eq_some_iff.1 h
  have hr := List.find?_some hz
  simp only [Bool.and_eq_true, decide_eq_true_eq] at hr
  omega

theorem digitValue?_zero : digitValue? '0' = some 0 := by decide

/-- The first digits count as many tens as digits follow. -/
theorem natOfDigits_append (ds es : List Char) :
    natOfDigits (ds ++ es) = natOfDigits ds * 10 ^ es.length + natOfDigits es := by
  induction es using List.reverseRecOn with
  | nil => simp [natOfDigits]
  | append_singleton es c ih =>
    rw [← List.append_assoc, natOfDigits_append_singleton, natOfDigits_append_singleton, ih,
      List.length_append, List.length_singleton, Nat.pow_succ, Nat.mul_add]
    have : 10 * (natOfDigits ds * 10 ^ es.length) = natOfDigits ds * (10 ^ es.length * 10) := by
      rw [Nat.mul_comm 10, Nat.mul_assoc]
    omega

theorem natOfDigits_zeros (k : Nat) : natOfDigits (List.replicate k '0') = 0 := by
  induction k with
  | zero => rfl
  | succ k ih =>
    rw [List.replicate_succ', natOfDigits_append_singleton, ih, digitValue?_zero]
    rfl

/-- So many digits write a number below that power of ten. -/
theorem natOfDigits_lt (ds : List Char) : natOfDigits ds < 10 ^ ds.length := by
  induction ds using List.reverseRecOn with
  | nil => simp [natOfDigits]
  | append_singleton ds c ih =>
    have hd : (digitValue? c).getD 0 < 10 := by
      cases h : digitValue? c with
      | none => decide
      | some v => exact digitValue?_lt h
    rw [natOfDigits_append_singleton, List.length_append, List.length_singleton, Nat.pow_succ]
    omega

/-- A number has at most `k` digits if it is below the `k`-th power of ten. -/
theorem length_digitsOfNat_le_iff {n k : Nat} (hk : 0 < k) :
    (digitsOfNat n).length ≤ k ↔ n < 10 ^ k :=
  Nat.length_toDigits_le_iff (by decide) hk

/-- Without leading zeros a number has no more digits than with them. -/
theorem length_digitsOfNat_natOfDigits_le {ds : List Char} {k : Nat} (hk : 0 < k) (h : ds.length ≤ k) :
    (digitsOfNat (natOfDigits ds)).length ≤ k :=
  (length_digitsOfNat_le_iff hk).2
    (Nat.lt_of_lt_of_le (natOfDigits_lt ds) (Nat.pow_le_pow_right (by decide) h))

/-- Powers of ten add zeros at the end. -/
theorem digitsOfNat_mul_pow {n : Nat} (hn : 0 < n) (k : Nat) :
    digitsOfNat (n * 10 ^ k) = digitsOfNat n ++ List.replicate k '0' := by
  induction k with
  | zero => simp
  | succ k ih =>
    have hp : 0 < n * 10 ^ k := Nat.mul_pos hn (Nat.pow_pos (by decide))
    have ha := Nat.toDigits_append_toDigits (b := 10) (by decide) hp (by decide : 0 < 10)
    rw [Nat.toDigits_zero, Nat.add_zero] at ha
    have hm : n * 10 ^ (k + 1) = 10 * (n * 10 ^ k) := by
      rw [Nat.pow_succ, ← Nat.mul_assoc, Nat.mul_comm]
    rw [hm, digitsOfNat, ← ha, ← digitsOfNat, ih, List.append_assoc, ← List.replicate_succ']

theorem isDecimalDigit_of_mem_digitsOfNat {n : Nat} : ∀ c ∈ digitsOfNat n, isDecimalDigit c :=
  fun _ hc => isDecimalDigit_of_isDigit (isDigit_of_mem_digitsOfNat hc)

theorem isDecimalDigit_of_mem_zeros {k : Nat} : ∀ c ∈ List.replicate k '0', isDecimalDigit c := by
  intro c hc
  rw [List.eq_of_mem_replicate hc]
  decide

/-- Zeros in front do not count. -/
theorem natOfDigits_zeros_append (k : Nat) (ds : List Char) :
    natOfDigits (List.replicate k '0' ++ ds) = natOfDigits ds := by
  rw [natOfDigits_append, natOfDigits_zeros, Nat.zero_mul, Nat.zero_add]

theorem natOfDigits_append_zeros (ds : List Char) (k : Nat) :
    natOfDigits (ds ++ List.replicate k '0') = natOfDigits ds * 10 ^ k := by
  rw [natOfDigits_append, natOfDigits_zeros, Nat.add_zero, List.length_replicate]

/-- Padded digits write their number. -/
theorem natOfDigits_paddedDigits (width n : Nat) : natOfDigits (paddedDigits width n) = n := by
  rw [paddedDigits, natOfDigits_zeros_append, natOfDigits_digitsOfNat]

theorem paddedDigits_ne_nil (width n : Nat) : paddedDigits width n ≠ [] := by
  simp [paddedDigits, digitsOfNat_ne_nil]

theorem isDigit_of_mem_paddedDigits {width n : Nat} : ∀ c ∈ paddedDigits width n, c.isDigit := by
  intro c hc
  rcases List.mem_append.1 hc with h | h
  · rw [List.eq_of_mem_replicate h]
    decide
  · exact isDigit_of_mem_digitsOfNat h

theorem isDecimalDigit_of_mem_paddedDigits {width n : Nat} :
    ∀ c ∈ paddedDigits width n, isDecimalDigit c :=
  fun c hc => isDecimalDigit_of_isDigit (isDigit_of_mem_paddedDigits c hc)

end StructuredQuery.Text
