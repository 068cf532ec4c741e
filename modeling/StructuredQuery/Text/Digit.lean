import StructuredQuery.Text.CharRanges

/-!
Decimal digits of all scripts. Each script's digits are ten consecutive code points, so the table
lists the zeros (general category Nd of Unicode 14).
-/

namespace StructuredQuery.Text

def digitZeros : List Nat :=
  [0x30, 0x660, 0x6F0, 0x7C0, 0x966, 0x9E6, 0xA66, 0xAE6, 0xB66, 0xBE6, 0xC66, 0xCE6, 0xD66,
   0xDE6, 0xE50, 0xED0, 0xF20, 0x1040, 0x1090, 0x17E0, 0x1810, 0x1946, 0x19D0, 0x1A80, 0x1A90,
   0x1B50, 0x1BB0, 0x1C40, 0x1C50, 0xA620, 0xA8D0, 0xA900, 0xA9D0, 0xA9F0, 0xAA50, 0xABF0, 0xFF10,
   0x104A0, 0x10D30, 0x11066, 0x110F0, 0x11136, 0x111D0, 0x112F0, 0x11450, 0x114D0, 0x11650,
   0x116C0, 0x11730, 0x118E0, 0x11950, 0x11C50, 0x11D50, 0x11DA0, 0x16A60, 0x16AC0, 0x16B50,
   0x1D7CE, 0x1D7D8, 0x1D7E2, 0x1D7EC, 0x1D7F6, 0x1E140, 0x1E2F0, 0x1E950, 0x1FBF0]

def digitValue? (c : Char) : Option Nat :=
  (digitZeros.find? fun z => z ≤ c.toNat && c.toNat < z + 10).map (c.toNat - ·)

def isDecimalDigit (c : Char) : Bool :=
  (digitValue? c).isSome

/-- The number that a row of decimal digits writes; characters that are no digits count as zero. -/
def natOfDigits (digits : List Char) : Nat :=
  digits.foldl (fun n c => 10 * n + (digitValue? c).getD 0) 0

def digitsOfNat (n : Nat) : List Char :=
  Nat.toDigits 10 n

def paddedDigits (width n : Nat) : List Char :=
  List.replicate (width - (digitsOfNat n).length) '0' ++ digitsOfNat n

theorem digitValue?_digitChar {n : Nat} (h : n < 10) : digitValue? n.digitChar = some n := by
  have : ∀ m : Fin 10, digitValue? m.val.digitChar = some m.val := by decide
  exact this ⟨n, h⟩

theorem isDecimalDigit_of_isDigit {c : Char} (h : c.isDigit) : isDecimalDigit c := by
  simp only [Char.isDigit, Bool.and_eq_true, decide_eq_true_eq] at h
  have hl : 0x30 ≤ c.toNat := UInt32.le_iff_toNat_le.1 h.1
  have hu : c.toNat ≤ 0x39 := UInt32.le_iff_toNat_le.1 h.2
  have : c.toNat < 0x30 + 10 := by omega
  simp [isDecimalDigit, digitValue?, digitZeros, hl, this]

theorem natOfDigits_append_singleton (ds : List Char) (c : Char) :
    natOfDigits (ds ++ [c]) = 10 * natOfDigits ds + (digitValue? c).getD 0 := by
  simp [natOfDigits]

/-- The digits of a number write it. -/
theorem natOfDigits_digitsOfNat (n : Nat) : natOfDigits (digitsOfNat n) = n := by
  induction n using Nat.strongRecOn with
  | _ n ih =>
    rw [digitsOfNat, Nat.toDigits_eq_if (by decide)]
    split
    · next h => simp [natOfDigits, digitValue?_digitChar h]
    · next h =>
      have hr : n % 10 < 10 := Nat.mod_lt _ (by decide)
      have hq := ih (n / 10) (by omega)
      rw [digitsOfNat] at hq
      rw [natOfDigits_append_singleton, hq, digitValue?_digitChar hr, Option.getD_some]
      omega

theorem digitsOfNat_ne_nil (n : Nat) : digitsOfNat n ≠ [] := by
  rw [digitsOfNat, Nat.toDigits_eq_if (by decide)]
  split <;> simp

theorem isDigit_of_mem_digitsOfNat {n : Nat} {c : Char} (h : c ∈ digitsOfNat n) : c.isDigit :=
  Nat.isDigit_of_mem_toDigits (by decide) (by decide) h

end StructuredQuery.Text
