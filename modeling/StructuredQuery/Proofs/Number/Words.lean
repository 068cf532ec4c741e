import StructuredQuery.OperatorOption
import StructuredQuery.Proofs.Number.DigitRows

/-!
The texts of numbers are words: they hold digits, signs, points and the letters of powers of ten, and so
neither blanks nor brackets.
-/

namespace StructuredQuery

open Text

namespace Text

def isNumeralChar (c : Char) : Bool :=
  c.isDigit || c = '-' || c = '+' || c = '.' || c = 'e' || c = 'E'

def Numeric (cs : List Char) : Prop := ∀ c ∈ cs, isNumeralChar c

theorem numeric_nil : Numeric [] := by simp [Numeric]

theorem numeric_cons {c : Char} {cs : List Char} : Numeric (c :: cs) ↔ isNumeralChar c ∧ Numeric cs :=
  List.forall_mem_cons

theorem numeric_append {s t : List Char} : Numeric (s ++ t) ↔ Numeric s ∧ Numeric t :=
  List.forall_mem_append

theorem numeric_digitsOfNat (n : Nat) : Numeric (digitsOfNat n) := by
  intro c hc
  simp [isNumeralChar, isDigit_of_mem_digitsOfNat hc]

theorem numeric_zeros (k : Nat) : Numeric (List.replicate k '0') := by
  intro c hc
  rw [List.eq_of_mem_replicate hc]
  decide

theorem Numeric.take {cs : List Char} (h : Numeric cs) (k : Nat) : Numeric (cs.take k) :=
  fun c hc => h c (List.mem_of_mem_take hc)

theorem Numeric.drop {cs : List Char} (h : Numeric cs) (k : Nat) : Numeric (cs.drop k) :=
  fun c hc => h c (List.mem_of_mem_drop hc)

theorem Numeric.fraction {cs : List Char} (h : Numeric cs) :
    Numeric (if cs.isEmpty then [] else '.' :: cs) := by
  split
  · exact numeric_nil
  · exact numeric_cons.2 ⟨by decide, h⟩

theorem numeric_minus (negative : Bool) : Numeric (if negative then ['-'] else []) := by
  cases negative
  · exact numeric_nil
  · exact numeric_cons.2 ⟨by decide, numeric_nil⟩

/-- The characters of numbers may stand in bare words. -/
theorem isWordChar_of_isNumeralChar {c : Char} (h : isNumeralChar c) : isWordChar c := by
  have hc : c.toNat < 128 := by
    simp only [isNumeralChar, Bool.or_eq_true, decide_eq_true_eq] at h
    rcases h with ((((h | rfl) | rfl) | rfl) | rfl) | rfl
    · simp only [Char.isDigit, Bool.and_eq_true, decide_eq_true_eq] at h
      exact Nat.lt_of_le_of_lt (UInt32.le_iff_toNat_le.1 h.2) (by decide)
    all_goals decide
  exact of_ascii (p := fun c => isNumeralChar c → isWordChar c) (by decide +kernel) hc h

/-- The text of a number is a bare word. -/
theorem Numeric.isWord {cs : List Char} (h : Numeric cs) (hne : cs ≠ []) : isWord cs := by
  have hall : cs.all isWordChar := List.all_eq_true.2 fun c hc => isWordChar_of_isNumeralChar (h c hc)
  simp [Text.isWord, hne, hall]

end Text

theorem Integer.numeric_digits (n : Int) : Numeric (digits n) := by
  unfold digits
  split
  · exact numeric_cons.2 ⟨by decide, numeric_digitsOfNat _⟩
  · exact numeric_digitsOfNat _

theorem Integer.digits_ne_nil (n : Int) : digits n ≠ [] := by
  unfold digits
  split
  · exact List.cons_ne_nil _ _
  · exact digitsOfNat_ne_nil _

namespace Binary64

theorem numeric_writePower (width : Nat) (p : Int) : Numeric (writePower width p) := by
  have hsign : isNumeralChar (if p < 0 then '-' else '+') := by split <;> decide
  have hdigits : Numeric (paddedDigits width p.natAbs) :=
    numeric_append.2 ⟨numeric_zeros _, numeric_digitsOfNat _⟩
  exact numeric_cons.2 ⟨by decide, numeric_cons.2 ⟨hsign, hdigits⟩⟩

/-- Digits that are laid out are numeric still. -/
theorem numeric_place (l : Layout) {ds : List Char} (k : Int) (h : Numeric ds) : Numeric (place l ds k) := by
  unfold place
  split
  · split
    · exact numeric_cons.2 ⟨by decide, numeric_cons.2 ⟨by decide, numeric_append.2 ⟨numeric_zeros _, h⟩⟩⟩
    · refine numeric_append.2 ⟨numeric_append.2 ⟨h.take _, numeric_zeros _⟩, ?_⟩
      refine numeric_cons.2 ⟨by decide, ?_⟩
      split
      · exact numeric_zeros 1
      · exact h.drop _
  · exact numeric_append.2 ⟨numeric_append.2 ⟨h.take 1, (h.drop 1).fraction⟩, numeric_writePower _ _⟩

theorem numeric_dropTrailingZeros {ds : List Char} (h : Numeric ds) : Numeric (dropTrailingZeros ds) := by
  intro c hc
  rw [dropTrailingZeros, List.mem_reverse] at hc
  exact h c (List.mem_reverse.1 ((List.dropWhile_suffix _).subset hc))

theorem place_ne_nil (l : Layout) (ds : List Char) (k : Int) : place l ds k ≠ [] := by
  unfold place
  split
  · split <;> simp
  · simp [writePower]

theorem numeric_writeMagnitude (rank : Rank) : Numeric (writeMagnitude rank) := by
  unfold writeMagnitude
  split
  · exact numeric_cons.2 ⟨by decide, numeric_cons.2 ⟨by decide, numeric_zeros 1⟩⟩
  · exact numeric_place _ _ (numeric_dropTrailingZeros (numeric_digitsOfNat _))

theorem writeMagnitude_ne_nil (rank : Rank) : writeMagnitude rank ≠ [] := by
  unfold writeMagnitude
  split
  · exact List.cons_ne_nil _ _
  · exact place_ne_nil _ _ _

theorem numeric_write {x : Binary64} (hx : x.isFinite) : Numeric x.write.toList ∧ x.write.toList ≠ [] := by
  cases x with
  | nan | infinity => exact absurd hx (by simp [isFinite])
  | finite negative rank =>
    rw [write, String.toList_ofList]
    exact ⟨numeric_append.2 ⟨numeric_minus negative, numeric_writeMagnitude rank⟩,
      by simp [writeMagnitude_ne_nil]⟩

theorem isWord_write {x : Binary64} (hx : x.isFinite) : isWord x.write.toList :=
  (numeric_write hx).1.isWord (numeric_write hx).2

end Binary64

namespace Decimal

theorem numeric_writeMagnitude (n : Numeral) : Numeric (writeMagnitude n) := by
  have h := numeric_digitsOfNat n.coefficient
  have hpower (p : Int) : Numeric (writePower p) := by
    have hsign : isNumeralChar (if p < 0 then '-' else '+') := by split <;> decide
    exact numeric_cons.2 ⟨by decide, numeric_cons.2 ⟨hsign, numeric_digitsOfNat _⟩⟩
  unfold writeMagnitude
  dsimp only
  split
  · split
    · exact numeric_cons.2 ⟨by decide, numeric_cons.2 ⟨by decide, numeric_append.2 ⟨numeric_zeros _, h⟩⟩⟩
    · exact numeric_append.2 ⟨h.take _, (h.drop _).fraction⟩
  · exact numeric_append.2 ⟨numeric_append.2 ⟨h.take 1, (h.drop 1).fraction⟩, hpower _⟩

theorem writeMagnitude_ne_nil (n : Numeral) : writeMagnitude n ≠ [] := by
  unfold writeMagnitude
  dsimp only
  split
  · split
    · simp
    · next h =>
      have hk : ((digitsOfNat n.coefficient).length + n.exponent).toNat ≠ 0 := by omega
      simp [digitsOfNat_ne_nil, hk]
  · simp [writePower]

theorem numeric_write {d : Decimal} (hd : d.isFinite) : Numeric d.write.toList ∧ d.write.toList ≠ [] := by
  cases d with
  | nan | infinity => exact absurd hd (by simp [isFinite])
  | finite n =>
    rw [write, String.toList_ofList]
    exact ⟨numeric_append.2 ⟨numeric_minus n.negative, numeric_writeMagnitude n⟩,
      by simp [writeMagnitude_ne_nil]⟩

theorem isWord_write {d : Decimal} (hd : d.isFinite) : isWord d.write.toList :=
  (numeric_write hd).1.isWord (numeric_write hd).2

end Decimal

namespace Value

theorem asText_int (n : Int) : (Value.int n).asText = Integer.write n := by
  rw [asText, written, shown]
  · cases Integer.write n with
    | error f => rfl
    | ok text => simp [Except.map]
  all_goals simp

theorem asText_float (x : Binary64) : (Value.float x).asText = .ok x.write := by
  rw [asText, written, shown]
  · simp [Except.map]
  all_goals simp

theorem asText_decimal (d : Decimal) : (Value.decimal d).asText = .ok d.write := by
  rw [asText, written]
  simp [Except.map]

theorem written_of_text? {v : Value} {s : String} (h : v.text? = some s) : v.written = .ok s.toList := by
  cases v <;> simp only [text?, Option.some.injEq, reduceCtorEq] at h
  all_goals
    subst h
    rw [written]

theorem asText_of_text? {v : Value} {s : String} (h : v.text? = some s) : v.asText = .ok s := by
  rw [asText, written_of_text? h, Except.map, String.ofList_toList]

/-- A number has a bare word for its text. -/
theorem isWord_asText {v : Value} {text : String} (hv : v.isNumber) (h : v.asText = .ok text) :
    isWord text.toList := by
  cases v with
  | int n =>
    rw [asText_int, Integer.write] at h
    split at h
    · obtain rfl := Except.ok.inj h
      rw [String.toList_ofList]
      exact (Integer.numeric_digits n).isWord (Integer.digits_ne_nil n)
    · cases h
  | float x =>
    rw [asText_float] at h
    obtain rfl := Except.ok.inj h
    exact Binary64.isWord_write hv
  | decimal d =>
    rw [asText_decimal] at h
    obtain rfl := Except.ok.inj h
    exact Decimal.isWord_write hv
  | _ => exact absurd hv (by simp [isNumber])

end Value

/-- The word of a value is a bare word. -/
theorem Value.isWord_of_word? {v : Value} {word : String} (h : v.word? = .ok (some word)) :
    isWord word.toList := by
  -- along the members of enumerations that hold the value
  fun_induction word? v with
  | case1 b =>
    obtain rfl : (if b then "true" else "false") = word := by simpa using h
    cases b <;> decide
  | case2 _ _ value ih => exact ih h
  | case3 v _ _ s hs =>
    split at h
    · next hw =>
      obtain rfl : s = word := by simpa using h
      exact hw
    · cases h
  | case4 v _ _ _ hn =>
    cases ht : v.asText with
    | error f => rw [ht] at h; cases h
    | ok text =>
      rw [ht] at h
      obtain rfl : text = word := by simpa [Except.map] using h
      exact isWord_asText hn ht
  | case5 => cases h

end StructuredQuery
