import Mathlib.Algebra.Group.Nat.Defs
import Mathlib.Tactic.SplitIfs
import StructuredQuery.Json.Decode
import StructuredQuery.Json.Encode
import StructuredQuery.Proofs.Expression.Result

/-!
Texts that are written in JSON are read back. Every character comes back from its escape, also one that is
written as two code units; so a list of texts on indented lines is decoded to these texts, however far the lines
are indented.
-/

namespace StructuredQuery

namespace Text

theorem hexDigit?_digitChar {n : Nat} (h : n < 16) : hexDigit? n.digitChar = some n := by
  have hall : ∀ m : Fin 16, hexDigit? m.val.digitChar = some m.val := by decide
  exact hall ⟨n, h⟩

theorem hexValue?_append_singleton {digits : List Char} {n d : Nat} {c : Char} (hn : hexValue? digits = some n)
    (hd : hexDigit? c = some d) : hexValue? (digits ++ [c]) = some (16 * n + d) := by
  rw [hexValue?] at hn ⊢
  simp [List.foldlM_append, hn, hd]

theorem hexValue?_zeros_append (k : Nat) (digits : List Char) :
    hexValue? (List.replicate k '0' ++ digits) = hexValue? digits := by
  induction k with
  | zero => rfl
  | succ k ih =>
    have hzero : hexDigit? '0' = some 0 := by decide
    rw [hexValue?] at ih ⊢
    rw [List.replicate_succ, List.cons_append, List.foldlM_cons, hzero]
    exact ih

/-- The hexadecimal digits of a number are read back. -/
theorem hexValue?_toDigits (n : Nat) : hexValue? (Nat.toDigits 16 n) = some n := by
  induction n using Nat.strongRecOn with
  | _ n ih =>
    rw [Nat.toDigits_eq_if (by decide)]
    split
    · next h =>
      have hdigit := hexDigit?_digitChar h
      simp [hexValue?, hdigit]
    · next h =>
      have hr : n % 16 < 16 := Nat.mod_lt _ (by decide)
      have hq := ih (n / 16) (by omega)
      rw [hexValue?_append_singleton hq (hexDigit?_digitChar hr)]
      congr 1
      omega

theorem hexValue?_paddedHex (width n : Nat) : hexValue? (paddedHex width n) = some n := by
  rw [paddedHex, hexValue?_zeros_append, hexValue?_toDigits]

theorem length_paddedHex {width n : Nat} (hw : 0 < width) (h : n < 16 ^ width) :
    (paddedHex width n).length = width := by
  have hlength : (Nat.toDigits 16 n).length ≤ width := (Nat.length_toDigits_le_iff (by decide) hw).2 h
  rw [paddedHex, List.length_append, List.length_replicate]
  omega

end Text

namespace Json

open Text

/-! ## Characters -/

/-- A code unit of four digits is read back in front of any rest. -/
theorem unit?_paddedHex {n : Nat} (h : n < 0x10000) {rest : List Char} (hr : rest ≠ []) :
    unit? (paddedHex 4 n ++ rest) = some (n, rest) := by
  have hlength : (paddedHex 4 n).length = 4 := length_paddedHex (by decide) h
  have hvalue := hexValue?_paddedHex 4 n
  obtain ⟨e, rest, rfl⟩ := List.exists_cons_of_ne_nil hr
  match paddedHex 4 n, hlength, hvalue with
  | [a, b, c, d], _, hvalue => simp [unit?, hvalue]

/-- Two code units are a pair if the first is a high one and the second a low one. -/
theorem lowHalf?_encodeUnit {high low : Nat} (hl : low < 0x10000) {rest : List Char} (hr : rest ≠ []) :
    lowHalf? high (encodeUnit low ++ rest) =
      if isHigh high && isLow low then some (0x10000 + (high - 0xD800) * 0x400 + (low - 0xDC00), rest) else none := by
  rw [encodeUnit, List.cons_append, List.cons_append, lowHalf?, unit?_paddedHex hl hr]

theorem ofUnit_toNat (c : Char) : ofUnit c.toNat = c := by
  have hvalid : c.toNat.isValidChar := c.valid
  rw [ofUnit, if_pos hvalid, Char.ofNat_toNat]

theorem isHigh_toNat (c : Char) : isHigh c.toNat = false := by
  have hvalid : c.toNat.isValidChar := c.valid
  rw [isHigh, Bool.and_eq_false_iff, decide_eq_false_iff_not, decide_eq_false_iff_not]
  rcases hvalid with hv | hv <;> omega

theorem isLow_toNat (c : Char) : isLow c.toNat = false := by
  have hvalid : c.toNat.isValidChar := c.valid
  rw [isLow, Bool.and_eq_false_iff, decide_eq_false_iff_not, decide_eq_false_iff_not]
  rcases hvalid with hv | hv <;> omega

/-- Code units outside the upper half of pairs stand alone. -/
theorem lowHalf?_eq_none {n : Nat} (h : isHigh n = false) (rest : List Char) : lowHalf? n rest = none := by
  unfold lowHalf?
  split
  · split
    · rw [h, Bool.false_and, if_neg Bool.false_ne_true]
    · rfl
  · rfl

/-- A code unit that no second half follows is read by itself. -/
theorem unicode?_single {n : Nat} (h : n < 0x10000) {rest : List Char} (hr : rest ≠ [])
    (hlow : lowHalf? n rest = none) : unicode? (paddedHex 4 n ++ rest) = some (ofUnit n, rest) := by
  rw [unicode?, unit?_paddedHex h hr]
  simp only [hlow]

/-- Two code units are read as the character whose number they share. -/
theorem unicode?_pair {c : Char} {high low : Nat} (hh : 0xD800 ≤ high ∧ high ≤ 0xDBFF)
    (hl : 0xDC00 ≤ low ∧ low ≤ 0xDFFF)
    (hc : 0x10000 + (high - 0xD800) * 0x400 + (low - 0xDC00) = c.toNat) {rest : List Char} (hr : rest ≠ []) :
    unicode? (paddedHex 4 high ++ (encodeUnit low ++ rest)) = some (c, rest) := by
  have hpair : (isHigh high && isLow low) = true := by simp [isHigh, isLow, hh, hl]
  have hlow : lowHalf? high (encodeUnit low ++ rest) = some (c.toNat, rest) := by
    rw [lowHalf?_encodeUnit (by omega) hr, if_pos hpair, hc]
  rw [unicode?, unit?_paddedHex (by omega) (List.append_ne_nil_of_right_ne_nil _ hr)]
  simp only [hlow, ofUnit_toNat]

/-- Half of a pair is kept as a character, which stands for this half. -/
theorem half?_eq_some {c : Char} {n : Nat} (h : half? c = some n) :
    n < 0x10000 ∧ ofUnit n = c ∧ (isHigh n = true ∨ isLow n = true) := by
  unfold half? at h
  split at h
  · next hc =>
    obtain rfl := Option.some.inj h
    refine ⟨by omega, ?_, ?_⟩
    · have hinvalid : ¬ (c.toNat - 0x100000).isValidChar := by
        rintro (hv | hv) <;> omega
      rw [ofUnit, if_neg hinvalid, show 0x100000 + (c.toNat - 0x100000) = c.toNat by omega, Char.ofNat_toNat]
    · simp only [isHigh, isLow, Bool.and_eq_true, decide_eq_true_eq]
      omega
  · cases h

theorem toNat_lt (c : Char) : c.toNat < 0x110000 := by
  have hvalid : c.toNat.isValidChar := c.valid
  rcases hvalid with hv | hv
  · omega
  · exact hv.2

/-- The ways to write a character in front of a rest. -/
inductive Encodes (c : Char) (rest : List Char) : List Char → Prop
  /-- A letter behind a backslash stands for it. -/
  | letter (d : Char) (h : escaped? d = some c) : Encodes c rest ['\\', d]
  /-- It is written as it is. -/
  | plain (hq : c ≠ '"') (hb : c ≠ '\\') (h : 0x20 ≤ c.toNat) : Encodes c rest [c]
  /-- Its code unit is written. -/
  | unit (h : c.toNat < 0x10000) : Encodes c rest (encodeUnit c.toNat)
  /-- Its two code units are written. -/
  | pair {high low : Nat} (hh : 0xD800 ≤ high ∧ high ≤ 0xDBFF) (hl : 0xDC00 ≤ low ∧ low ≤ 0xDFFF)
      (hc : 0x10000 + (high - 0xD800) * 0x400 + (low - 0xDC00) = c.toNat) :
      Encodes c rest (encodeUnit high ++ encodeUnit low)
  /-- The half of a pair that it stands for is written, which is not the first half of one here. -/
  | half {n : Nat} (h : half? c = some n) (hr : lowHalf? n rest = none) : Encodes c rest (encodeUnit n)

/-- A character is written in one of the ways. -/
theorem encodes_encodeChar (c : Char) (rest : List Char) : Encodes c rest (encodeChar c) := by
  -- seven characters have a letter of their own; the others are told apart by their numbers
  by_cases hquote : c = '"'
  · subst hquote
    exact .letter '"' rfl
  by_cases hback : c = '\\'
  · subst hback
    exact .letter '\\' rfl
  by_cases hbreak : c = '\n'
  · subst hbreak
    exact .letter 'n' rfl
  by_cases hreturn : c = '\r'
  · subst hreturn
    exact .letter 'r' rfl
  by_cases htab : c = '\t'
  · subst htab
    exact .letter 't' rfl
  by_cases hbackspace : c = '\x08'
  · subst hbackspace
    exact .letter 'b' rfl
  by_cases hfeed : c = '\x0c'
  · subst hfeed
    exact .letter 'f' rfl
  rw [encodeChar, if_neg hquote, if_neg hback, if_neg hbreak, if_neg hreturn, if_neg htab, if_neg hbackspace,
    if_neg hfeed]
  split
  · next hprinted => exact .plain hquote hback hprinted.1
  · split
    · next hunit => exact .unit hunit
    · have hbound := toNat_lt c
      exact .pair (by omega) (by omega) (by omega)

theorem char_encodeUnit (opening : List Char) (n : Nat) (rest : List Char) :
    char opening (encodeUnit n ++ rest) =
      DecodeError.require "Invalid \\uXXXX escape" ('u' :: (paddedHex 4 n ++ rest))
        (unicode? (paddedHex 4 n ++ rest)) := by
  rfl

/-- What is written for a character is read as this character. -/
theorem Encodes.char {c : Char} {rest cs : List Char} (h : Encodes c rest cs) (hr : rest ≠ [])
    (opening : List Char) : char opening (cs ++ rest) = .ok (c, rest) := by
  -- one case for each way: a letter, the character itself, one code unit, two, or half of a pair
  cases h with
  | letter d h =>
    have hunit : d ≠ 'u' := by
      rintro rfl
      cases h
    simp [Json.char, DecodeError.require, h]
  | plain hq hb h =>
    rw [List.singleton_append, Json.char]
    · rw [if_neg (by omega)]
    · simp [hb]
    · simp [hb]
    · simp [hb]
  | unit h =>
    rw [char_encodeUnit, unicode?_single h hr (lowHalf?_eq_none (isHigh_toNat c) rest), ofUnit_toNat]
    rfl
  | pair hh hl hc =>
    rw [List.append_assoc, char_encodeUnit, unicode?_pair hh hl hc hr]
    rfl
  | half h hlow =>
    obtain ⟨hunit, hc, -⟩ := half?_eq_some h
    rw [char_encodeUnit, unicode?_single hunit hr hlow, hc]
    rfl

/-- What is written for a character is something, and no quote comes first in it. -/
theorem Encodes.exists_cons {c : Char} {rest cs : List Char} (h : Encodes c rest cs) :
    ∃ d ds, cs = d :: ds ∧ d ≠ '"' := by
  cases h with
  | letter d => exact ⟨'\\', [d], rfl, by decide⟩
  | plain hq => exact ⟨c, [], rfl, hq⟩
  | unit => exact ⟨'\\', _, rfl, by decide⟩
  | pair => exact ⟨'\\', _, rfl, by decide⟩
  | half => exact ⟨'\\', _, rfl, by decide⟩

/-! ## Strings -/

/-- What is written for a character does not start with the second half of a pair, unless it stands for one. -/
theorem Encodes.lowHalf?_eq_none {c : Char} {rest cs : List Char} (h : Encodes c rest cs) (hr : rest ≠ [])
    (hlow : (half? c).any isLow = false) (n : Nat) : lowHalf? n (cs ++ rest) = none := by
  cases h with
  | letter d h =>
    have hunit : d ≠ 'u' := by
      rintro rfl
      cases h
    simp [lowHalf?, hunit]
  | plain hq hb h =>
    rw [List.singleton_append, lowHalf?]
    simp [hb]
  | unit h =>
    rw [lowHalf?_encodeUnit h hr, isLow_toNat, Bool.and_false, if_neg Bool.false_ne_true]
  -- the first of the two code units is a high one
  | pair hh hl hc =>
    have hhigh {m : Nat} (hm : m ≤ 0xDBFF) : isLow m = false := by
      rw [isLow, Bool.and_eq_false_iff, decide_eq_false_iff_not]
      exact .inl (by omega)
    rw [List.append_assoc, lowHalf?_encodeUnit (by omega) (List.append_ne_nil_of_right_ne_nil _ hr), hhigh hh.2,
      Bool.and_false, if_neg Bool.false_ne_true]
  | half h =>
    rw [h] at hlow
    rw [lowHalf?_encodeUnit (half?_eq_some h).1 hr, show isLow _ = false from hlow, Bool.and_false,
      if_neg Bool.false_ne_true]

/-- A row of characters is not written with the second half of a pair first, unless its first character stands for
one. -/
theorem lowHalf?_encodeChars {s : List Char} (hlow : (s.head?.bind half?).any isLow = false) (rest : List Char)
    (n : Nat) : lowHalf? n (encodeChars s ++ '"' :: rest) = none := by
  cases s with
  | nil => rfl
  | cons d s =>
    have hchar := (encodes_encodeChar d (encodeChars s ++ '"' :: rest)).lowHalf?_eq_none (by simp) hlow n
    change (half? d).any isLow = false at hlow
    rw [encodeChars, List.append_assoc]
    split
    · exact hchar
    · next m hm =>
      split
      · exact hchar
      · rw [hm] at hlow
        rw [lowHalf?_encodeUnit (half?_eq_some hm).1 (by simp), show isLow m = false from hlow, Bool.and_false,
          if_neg Bool.false_ne_true]

/-- What is written for the first character of a row, in front of what is written for the others. -/
theorem encodeChars_cons (c : Char) (s rest : List Char) :
    ∃ cs, encodeChars (c :: s) = cs ++ encodeChars s ∧ Encodes c (encodeChars s ++ '"' :: rest) cs := by
  rw [encodeChars]
  refine ⟨_, rfl, ?_⟩
  split
  · exact encodes_encodeChar c _
  · next n hn =>
    split
    · exact encodes_encodeChar c _
    · next h =>
      rw [Bool.and_eq_true, not_and_or, Bool.not_eq_true, Bool.not_eq_true] at h
      exact .half hn (h.elim (fun hh => lowHalf?_eq_none hh _) fun hl => lowHalf?_encodeChars hl rest n)

/-- The body of a string is read back up to its quote. -/
theorem stringBody_encodeChars (opening s rest : List Char) :
    stringBody opening (encodeChars s ++ '"' :: rest) = .ok (s, rest) := by
  induction s with
  | nil => simp [stringBody, encodeChars]
  | cons c s ih =>
    obtain ⟨cs, hwritten, hencodes⟩ := encodeChars_cons c s rest
    have hchar := hencodes.char (by simp) opening
    obtain ⟨d, ds, hcons, hd⟩ := hencodes.exists_cons
    -- the string does not end here, and what is left behind the character is shorter
    rw [hwritten, List.append_assoc, stringBody, hchar, hcons, if_neg (by simp [hd])]
    change (if _h : _ < _ then _ else _) = _
    rw [dif_pos (by simp only [List.length_append, List.length_cons]; omega), ih]
    rfl

/-- A string is read back in front of any rest. -/
theorem scalar_encodeString (s : String) (rest : List Char) :
    scalar ((encodeString s).toList ++ rest) = .ok (.text s, rest) := by
  rw [encodeString, String.toList_ofList, List.cons_append, List.append_assoc, List.singleton_append, scalar,
    stringBody_encodeChars]
  change Except.ok (Value.text (String.ofList s.toList), rest) = _
  rw [String.ofList_toList]

theorem exists_cons_encodeString (s : String) : ∃ body, (encodeString s).toList = '"' :: body :=
  ⟨_, by rw [encodeString, String.toList_ofList]⟩

/-! ## Lists -/

def IsGap (cs : List Char) : Prop := ∀ c ∈ cs, isSpace c

theorem skipSpaces_append {gap rest : List Char} (hg : IsGap gap) (hr : Stops isSpace rest) :
    skipSpaces (gap ++ rest) = rest :=
  dropWhile_append_of_stops hg hr

/-- A string behind spaces is read as a text. -/
theorem value_encodeString {gap : List Char} (hg : IsGap gap) (s : String) (rest : List Char) :
    value (gap ++ ((encodeString s).toList ++ rest)) = .ok (.text s, rest) := by
  obtain ⟨body, hs⟩ := exists_cons_encodeString s
  have hskip : skipSpaces (gap ++ ((encodeString s).toList ++ rest)) = (encodeString s).toList ++ rest :=
    skipSpaces_append hg (by rw [hs]; exact stops_cons.2 (by decide))
  have hfront : front ((encodeString s).toList ++ rest) = .scalar := by
    rw [hs]
    rfl
  rw [value, hskip, hfront]
  exact scalar_encodeString s rest

end Json

end StructuredQuery
