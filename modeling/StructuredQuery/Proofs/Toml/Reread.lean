import StructuredQuery.Proofs.Number.Reread
import StructuredQuery.Toml.Decode
import StructuredQuery.Toml.Encode

/-!
Values that are written as TOML are read back. A basic string is read up to the quote that closes it,
whatever comes behind it, and an integer up to the end of its line.
-/

namespace StructuredQuery.Toml

open Text

/-! ## Basic strings -/

/-- The code of a control character is read back. -/
theorem hexChar_paddedHex {c : Char} (hc : c.toNat < 128) (rest : List Char) :
    hexChar 4 (paddedHex 4 c.toNat ++ rest) = .ok ([c], rest) := by
  have hlength : (paddedHex 4 c.toNat).length = 4 :=
    of_ascii (p := fun c => (paddedHex 4 c.toNat).length = 4) (by decide +kernel) hc
  have hvalue : hexValue? (paddedHex 4 c.toNat) = some c.toNat :=
    of_ascii (p := fun c => hexValue? (paddedHex 4 c.toNat) = some c.toNat) (by decide +kernel) hc
  have hvalid : c.toNat.isValidChar := .inl (by omega)
  simp only [hexChar, List.take_left' hlength, List.drop_left' hlength, if_pos hlength, hvalue,
    DecodeError.require_some]
  change (if c.toNat.isValidChar then _ else _) = _
  rw [if_pos hvalid, Char.ofNat_toNat]
  rfl

/-- What is written for a character does not begin with the quote that closes a string. -/
theorem basicEnd?_encodeChar (c : Char) (rest : List Char) :
    basicEnd? false (encodeChar c ++ rest) = none := by
  unfold encodeChar
  split_ifs with hquote <;> simp [basicEnd?]
  split <;> simp_all

/-- An escaped character is read back in front of any rest. -/
theorem basicChar_encodeChar (c : Char) (rest : List Char) :
    basicChar false (encodeChar c ++ rest) = .ok ([c], rest) := by
  unfold encodeChar
  split_ifs with hquote hback hbreak hreturn hbackspace hfeed hcontrol
  · simp [basicChar, escaped?, hquote]
  · simp [basicChar, escaped?, hback]
  · simp [basicChar, escaped?, hbreak]
  · simp [basicChar, escaped?, hreturn]
  · simp [basicChar, escaped?, hbackspace]
  · simp [basicChar, escaped?, hfeed]
  · have hc : c.toNat < 128 := by
      rcases hcontrol with ⟨h, -⟩ | h <;> omega
    simp [basicChar, hexChar_paddedHex hc]
  · have hprinted : isControl c = false := by
      simpa [isControl, not_or] using hcontrol
    rw [List.singleton_append, basicChar]
    · simp [hprinted]
    · simp [hback]
    · simp [hback]

theorem encodeChar_ne_nil (c : Char) : encodeChar c ≠ [] := by
  unfold encodeChar
  split_ifs <;> simp

/-- A basic string is read back up to the quote that closes it. -/
theorem basicBody_flatMap_encodeChar (s rest : List Char) :
    basicBody false (s.flatMap encodeChar ++ '"' :: rest) = .ok (s, rest) := by
  induction s with
  | nil => simp [basicBody, basicEnd?]
  | cons c s ih =>
    have hlength : (s.flatMap encodeChar ++ '"' :: rest).length <
        (encodeChar c ++ (s.flatMap encodeChar ++ '"' :: rest)).length := by
      have hpos := List.length_pos_iff.2 (encodeChar_ne_nil c)
      simp only [List.length_append]
      omega
    rw [List.flatMap_cons, List.append_assoc, basicBody, basicEnd?_encodeChar, basicChar_encodeChar]
    simp only [bind, Except.bind, dif_pos hlength, ih]
    rfl

/-- A string is not taken for one of several lines: its first character is no quote, and two quotes alone are
the empty string, behind which the line ends. -/
theorem string_encodeString (s : String) (rest : List Char) :
    string ((encodeString s).toList ++ '\n' :: rest) = .ok (s.toList, '\n' :: rest) := by
  have hbody := basicBody_flatMap_encodeChar s.toList ('\n' :: rest)
  have hline : string ((encodeString s).toList ++ '\n' :: rest) =
      line ('"' :: (s.toList.flatMap encodeChar ++ '"' :: '\n' :: rest)) := by
    rw [encodeString, String.toList_ofList, List.cons_append, List.append_assoc, List.singleton_append]
    unfold string
    split
    · next left hquotes =>
      -- were there three quotes, what is written for the first character would begin with one
      exfalso
      cases hs : s.toList with
      | nil => simp [hs] at hquotes
      | cons c cs =>
        have hend := basicEnd?_encodeChar c (cs.flatMap encodeChar ++ '"' :: '\n' :: rest)
        rw [hs, List.flatMap_cons, List.append_assoc, List.cons.injEq] at hquotes
        rw [hquotes.2] at hend
        simp [basicEnd?] at hend
    · next left hquotes => simp at hquotes
    · rfl
  rw [hline, line, hbody]

/-! ## Integers -/

theorem head?_digitsOfNat {n : Nat} (hn : 0 < n) : (digitsOfNat n).head? ≠ some '0' := by
  induction n using Nat.strongRecOn with
  | _ n ih =>
    rw [digitsOfNat, Nat.toDigits_eq_if (by decide)]
    -- the first digit is that of the number without its last one
    split
    · next h =>
      have hdigit : ∀ m : Fin 10, 0 < m.val → [m.val.digitChar].head? ≠ some '0' := by decide
      exact hdigit ⟨n, h⟩ hn
    · next h =>
      have hq := ih (n / 10) (by omega) (by omega)
      obtain ⟨d, ds, hds⟩ := List.exists_cons_of_ne_nil (digitsOfNat_ne_nil (n / 10))
      rw [hds] at hq
      rw [digitsOfNat] at hds
      rwa [hds]

/-- Behind a row of digits of fixed length comes a digit or what follows the row. -/
theorem behind?_of_fixed? {c : Char} {ds rest left : List Char} {k v : Nat} (hk : 0 < k)
    (h : fixed? k (ds ++ '\n' :: rest) = some (v, left)) (hc : c ∉ ds.drop 1) (hbreak : c ≠ '\n') :
    behind? c left = none := by
  simp only [fixed?] at h
  split at h
  · next hall =>
    obtain ⟨-, rfl⟩ : _ ∧ (ds ++ '\n' :: rest).drop k = left := by simpa using h
    -- the line does not end within the row
    have hle : k ≤ ds.length := by
      by_contra hlt
      have hmem : '\n' ∈ (ds ++ '\n' :: rest).take k := by
        rw [List.take_append]
        apply List.mem_append_right
        obtain ⟨j, hj⟩ : ∃ j, k - ds.length = j + 1 := ⟨k - ds.length - 1, by omega⟩
        rw [hj, List.take_succ_cons]
        exact List.mem_cons_self
      exact absurd (List.all_eq_true.1 hall.2 _ hmem) (by decide)
    rw [List.drop_append_of_le_length hle]
    cases hd : ds.drop k with
    | nil => simp [behind?, hbreak]
    | cons d more =>
      have hmem : d ∈ ds.drop 1 := by
        have hsuffix : ds.drop k <:+ ds.drop 1 := List.drop_suffix_drop_left ds hk
        exact hsuffix.subset (by simp [hd])
      have hne : c ≠ d := by
        rintro rfl
        exact hc hmem
      simp [behind?, hne]
  · cases h

theorem isDigit_of_mem_drop_digits {n : Int} {c : Char} (h : c ∈ (Integer.digits n).drop 1) : c.isDigit := by
  unfold Integer.digits at h
  split at h
  · exact isDigit_of_mem_digitsOfNat (by simpa using h)
  · exact isDigit_of_mem_digitsOfNat (List.mem_of_mem_drop h)

theorem time?_digits (n : Int) (rest : List Char) : time? (Integer.digits n ++ '\n' :: rest) = none := by
  unfold time?
  cases h : fixed? 2 (Integer.digits n ++ '\n' :: rest) with
  | none => rfl
  | some found =>
    have hcolon : ':' ∉ (Integer.digits n).drop 1 := fun hc =>
      absurd (isDigit_of_mem_drop_digits hc) (by decide)
    simp [behind?_of_fixed? (by decide) h hcolon (by decide)]

/-- The digits of an integer are neither a date nor a time. -/
theorem moment?_digits (n : Int) (rest : List Char) : moment? (Integer.digits n ++ '\n' :: rest) = none := by
  have hdate : dateParts? (Integer.digits n ++ '\n' :: rest) = none := by
    unfold dateParts?
    cases h : fixed? 4 (Integer.digits n ++ '\n' :: rest) with
    | none => rfl
    | some found =>
      have hminus : '-' ∉ (Integer.digits n).drop 1 := fun hc =>
        absurd (isDigit_of_mem_drop_digits hc) (by decide)
      simp [behind?_of_fixed? (by decide) h hminus (by decide)]
  rw [moment?, hdate]
  rfl

theorem digitRow_append {ds : List Char} (hd : ∀ c ∈ ds, c.isDigit) (rest : List Char) :
    digitRow Char.isDigit (ds ++ '\n' :: rest) = (ds, '\n' :: rest) := by
  induction ds with
  | nil => simp [digitRow]
  | cons d ds ih =>
    have hdigit : d.isDigit := hd d List.mem_cons_self
    have hunderscore : d ≠ '_' := by
      rintro rfl
      exact absurd hdigit (by decide)
    rw [List.cons_append, digitRow]
    · simp [hdigit, ih fun c hc => hd c (List.mem_cons_of_mem d hc)]
    · intro e more he
      exact absurd he hunderscore

theorem exists_cons_digitsOfNat (n : Nat) : ∃ d ds, digitsOfNat n = d :: ds ∧ d.isDigit := by
  obtain ⟨d, ds, hds⟩ := List.exists_cons_of_ne_nil (digitsOfNat_ne_nil n)
  exact ⟨d, ds, hds, isDigit_of_mem_digitsOfNat (n := n) (by simp [hds])⟩

/-- The digits of a number are read to the end of their line; only zero begins with a zero. -/
theorem whole?_digitsOfNat (n : Nat) (rest : List Char) :
    whole? (digitsOfNat n ++ '\n' :: rest) = some (digitsOfNat n, '\n' :: rest) := by
  obtain rfl | hn := Nat.eq_zero_or_pos n
  · rfl
  · have hd : ∀ c ∈ digitsOfNat n, c.isDigit := fun _ => isDigit_of_mem_digitsOfNat
    have hhead := head?_digitsOfNat hn
    obtain ⟨d, ds, hds⟩ := List.exists_cons_of_ne_nil (digitsOfNat_ne_nil n)
    rw [hds] at hd hhead ⊢
    have hdigit : d.isDigit := hd d List.mem_cons_self
    rw [List.cons_append, whole?]
    · simp [digits?, hdigit, digitRow_append fun c hc => hd c (List.mem_cons_of_mem d hc)]
    · intro more he
      exact hhead (by rw [List.head?_cons, (List.cons.inj he).1])

/-- Of the digits of an integer the minus is taken first. -/
theorem takeSign_digits (n : Int) (rest : List Char) :
    Numeral.takeSign (Integer.digits n ++ rest) = (decide (n < 0), digitsOfNat n.natAbs ++ rest) := by
  unfold Integer.digits
  split
  · next h => simp [Numeral.takeSign, h]
  · next h =>
    obtain ⟨d, ds, hds, hdigit⟩ := exists_cons_digitsOfNat n.natAbs
    rw [hds, List.cons_append, Numeral.takeSign]
    · simp [h]
    · intro more he
      rw [(List.cons.inj he).1] at hdigit
      exact absurd hdigit (by decide)
    · intro more he
      rw [(List.cons.inj he).1] at hdigit
      exact absurd hdigit (by decide)

/-- The digits of an integer are read as a decimal number without a fraction. -/
theorem decimal?_digits (n : Int) (rest : List Char) :
    decimal? (Integer.digits n ++ '\n' :: rest) =
      some (⟨decide (n < 0), digitsOfNat n.natAbs, [], none⟩, '\n' :: rest) := by
  have hpower : power ('\n' :: rest) = (none, '\n' :: rest) := by
    simp [power]
  simp [decimal?, takeSign_digits, whole?_digitsOfNat, fraction, hpower]

theorem eq_of_digits_zero {n : Int} {c : Char} {rest left : List Char}
    (h : Integer.digits n ++ '\n' :: rest = '0' :: c :: left) : c = '\n' := by
  unfold Integer.digits at h
  split at h
  · exact absurd (List.cons.inj h).1 (by decide)
  · obtain hzero | hpos := Nat.eq_zero_or_pos n.natAbs
    · rw [hzero] at h
      exact (List.cons.inj (List.cons.inj h).2).1.symm
    · have hhead := head?_digitsOfNat hpos
      obtain ⟨d, ds, hds⟩ := List.exists_cons_of_ne_nil (digitsOfNat_ne_nil n.natAbs)
      rw [hds] at h hhead
      exact absurd (congrArg some (List.cons.inj h).1) hhead

/-- The digits of an integer have no base in front. -/
theorem based?_digits (n : Int) (rest : List Char) : based? (Integer.digits n ++ '\n' :: rest) = none := by
  unfold based?
  split
  · next h => exact absurd (eq_of_digits_zero h) (by decide)
  · next h => exact absurd (eq_of_digits_zero h) (by decide)
  · next h => exact absurd (eq_of_digits_zero h) (by decide)
  · rfl

/-- An integer in decimal begins with a minus or a digit. -/
theorem exists_cons_digits (n : Int) : ∃ c left, Integer.digits n = c :: left ∧ (c = '-' ∨ c.isDigit) := by
  unfold Integer.digits
  split
  · exact ⟨_, _, rfl, .inl rfl⟩
  · obtain ⟨d, ds, hds, hdigit⟩ := exists_cons_digitsOfNat n.natAbs
    exact ⟨d, ds, hds, .inr hdigit⟩

/-- An integer is read back at the end of a line. -/
theorem value_digits {n : Int} (h : (digitsOfNat n.natAbs).length ≤ Integer.digitLimit) (rest : List Char) :
    value (Integer.digits n ++ '\n' :: rest) = .ok (.int n, '\n' :: rest) := by
  obtain ⟨c, left, hcs, hc⟩ := exists_cons_digits n
  -- the first character is a digit or the sign, which excludes every other kind of value
  have hne {d : Char} {more : List Char} (hminus : d ≠ '-') (hdigit : d.isDigit = false) :
      Integer.digits n ++ '\n' :: rest ≠ d :: more := by
    intro he
    rw [hcs, List.cons_append] at he
    obtain ⟨rfl, -⟩ := List.cons.inj he
    rcases hc with rfl | hc
    · exact hminus rfl
    · rw [hdigit] at hc
      exact absurd hc (by decide)
  have hfront : front (Integer.digits n ++ '\n' :: rest) = .scalar := by
    unfold front
    split
    · next he => exact absurd he (hne (by decide) (by decide))
    · next he => exact absurd he (hne (by decide) (by decide))
    · rfl
  have hbool : bool? (Integer.digits n ++ '\n' :: rest) = none := by
    unfold bool?
    split
    · next he => exact absurd he (hne (by decide) (by decide))
    · next he => exact absurd he (hne (by decide) (by decide))
    · rfl
  have hnumeric : numeric (Integer.digits n ++ '\n' :: rest) = .ok (.int n, '\n' :: rest) := by
    have hnumber : Value.ofNumber ⟨decide (n < 0), digitsOfNat n.natAbs, [], none⟩ = .ok (.int n) := by
      simp only [Value.ofNumber, NumberText.isInteger, Integer.read_of_length h]
      rfl
    simp only [numeric, time?_digits, based?_digits, decimal?_digits, hnumber]
    rfl
  rw [value, hfront]
  change scalar _ = _
  unfold scalar
  split
  · next he => exact absurd he (hne (by decide) (by decide))
  · next he => exact absurd he (hne (by decide) (by decide))
  · simp only [hbool, moment?_digits, hnumeric, Option.getD_none]

/-- A basic string is read back up to the end of its line. -/
theorem value_encodeString (s : String) (rest : List Char) :
    value ((encodeString s).toList ++ '\n' :: rest) = .ok (.text s, '\n' :: rest) := by
  have hstring := string_encodeString s rest
  obtain ⟨left, hquote⟩ : ∃ left, (encodeString s).toList ++ '\n' :: rest = '"' :: left :=
    ⟨_, by rw [encodeString, String.toList_ofList, List.cons_append]⟩
  rw [hquote] at hstring ⊢
  rw [value]
  simp [front, scalar, hstring, Except.map]

/-- A truth value is read back up to the end of its line. -/
theorem value_encodeBool (b : Bool) (rest : List Char) :
    value ((encodeBool b).toList ++ '\n' :: rest) = .ok (.bool b, '\n' :: rest) := by
  rw [value]
  cases b <;> rfl

/-! ## Lines -/

/-- A bare key is read up to the first character that may not be part of it. -/
theorem key_bare {part : List Char} (hne : part ≠ []) (hp : ∀ c ∈ part, isBareChar c) {rest : List Char}
    (hr : Stops isBareChar rest) (hpoint : ∀ left, skipSpaces rest ≠ '.' :: left) :
    key (part ++ rest) = .ok ([String.ofList part], skipSpaces rest) := by
  have hpart : keyPart (part ++ rest) = .ok (String.ofList part, rest) := by
    rw [keyPart, run?_append hne hp hr]
    rfl
  rw [key, hpart]
  -- no point follows, so the second way to go on is taken
  simp only [bind, Except.bind]
  rfl

/-- A line that is read up to its break leaves the lines behind it. -/
theorem lines_cons {s s' : State} {cs rest : List Char} (h : statement s (skipSpaces cs) = .ok (s', '\n' :: rest))
    (hl : rest.length < cs.length) : lines s cs = lines s' rest := by
  have hskip : skipSpaces ('\n' :: rest) = '\n' :: rest := List.dropWhile_cons_of_neg (by decide)
  have hcomment : skipComment ('\n' :: rest) = .ok ('\n' :: rest) := by
    rw [skipComment]
    intro left he
    exact absurd (List.cons.inj he).1 (by decide)
  rw [lines, h]
  simp only [bind, Except.bind, hskip, hcomment, if_true, dif_pos hl]

theorem lines_nil (s : State) : lines s [] = .ok s := by
  rw [lines]
  rfl

theorem ne_of_isBareChar {c d : Char} (hc : isBareChar c) (hd : isBareChar d = false) : c ≠ d := by
  rintro rfl
  rw [hc] at hd
  exact absurd hd (by decide)

theorem skipSpaces_bare {key : List Char} (hne : key ≠ []) (hk : ∀ c ∈ key, isBareChar c) (rest : List Char) :
    skipSpaces (key ++ rest) = key ++ rest := by
  obtain ⟨c, left, rfl⟩ := List.exists_cons_of_ne_nil hne
  have hc := hk c List.mem_cons_self
  apply List.dropWhile_cons_of_neg
  simp [isSpace, ne_of_isBareChar hc (show isBareChar ' ' = false by decide),
    ne_of_isBareChar hc (show isBareChar '\t' = false by decide)]

/-- The header of a table with a bare key opens the table. -/
theorem lines_header {s s' : State} {key : List Char} (hne : key ≠ []) (hk : ∀ c ∈ key, isBareChar c)
    (h : s.settle.openTable [String.ofList key] = .ok s') (rest : List Char) :
    lines s ('[' :: (key ++ ']' :: '\n' :: rest)) = lines s' rest := by
  have hkey : Toml.key (key ++ ']' :: '\n' :: rest) = .ok ([String.ofList key], ']' :: '\n' :: rest) :=
    key_bare hne hk (stops_cons.2 (by decide)) (by simp [skipSpaces, isSpace])
  have hheader : header s (key ++ ']' :: '\n' :: rest) = .ok (s', '\n' :: rest) := by
    unfold header
    split
    · next left he =>
      -- a key does not begin with the bracket of an array of tables
      obtain ⟨c, more, rfl⟩ := List.exists_cons_of_ne_nil hne
      have hc := hk c List.mem_cons_self
      exact absurd (List.cons.inj he).1 (ne_of_isBareChar hc (by decide))
    · simp only [skipSpaces_bare hne hk, hkey, h, bind, Except.bind, changed, Except.mapError]
      rfl
  apply lines_cons
  · rw [skipSpaces, List.dropWhile_cons_of_neg (by decide)]
    simp only [statement, hheader]
  · simp only [List.length_cons, List.length_append]
    omega

/-- A bare key with its value on a line. -/
theorem lines_definition {s s' : State} {key text : List Char} {v : Value} (hne : key ≠ [])
    (hk : ∀ c ∈ key, isBareChar c) (ht : Stops isSpace text) {rest : List Char}
    (hv : value (text ++ '\n' :: rest) = .ok (v, '\n' :: rest))
    (h : s.define (String.ofList key) [] v = .ok s') :
    lines s (key ++ ' ' :: '=' :: ' ' :: (text ++ '\n' :: rest)) = lines s' rest := by
  have hstop : Stops isSpace (text ++ '\n' :: rest) := by
    cases text with
    | nil => exact stops_cons.2 (by decide)
    | cons c left => exact stops_cons.2 (stops_cons.1 ht)
  have hkey : Toml.key (key ++ ' ' :: '=' :: ' ' :: (text ++ '\n' :: rest)) =
      .ok ([String.ofList key], '=' :: ' ' :: (text ++ '\n' :: rest)) :=
    key_bare hne hk (stops_cons.2 (by decide)) (by simp [skipSpaces, isSpace])
  have hequals : keyEquals (key ++ ' ' :: '=' :: ' ' :: (text ++ '\n' :: rest)) =
      .ok ((String.ofList key, []), text ++ '\n' :: rest) := by
    have hskip : skipSpaces (' ' :: (text ++ '\n' :: rest)) = text ++ '\n' :: rest := by
      rw [skipSpaces, List.dropWhile_cons_of_pos (by decide)]
      exact dropWhile_of_stops hstop
    simp only [keyEquals, hkey, bind, Except.bind, hskip]
    rfl
  have hdefinition : definition s (key ++ ' ' :: '=' :: ' ' :: (text ++ '\n' :: rest)) =
      .ok (s', '\n' :: rest) := by
    simp only [definition, hequals, hv, h, changed, Except.mapError, bind, Except.bind, pure, Except.pure]
  -- the line is a definition, for its first character begins no header and no comment
  apply lines_cons
  · rw [skipSpaces_bare hne hk, ← hdefinition]
    obtain ⟨c, left, rfl⟩ := List.exists_cons_of_ne_nil hne
    have hc := hk c List.mem_cons_self
    rw [List.cons_append, statement]
    · rw [hc, Bool.true_or, Bool.true_or, if_pos rfl]
    all_goals
      intro he
      exact ne_of_isBareChar hc (by decide) he
  · simp only [List.length_cons, List.length_append]
    omega

/-- A blank line says nothing. -/
theorem lines_blank (s : State) (rest : List Char) : lines s ('\n' :: rest) = lines s rest := by
  apply lines_cons
  · rw [skipSpaces, List.dropWhile_cons_of_neg (by decide)]
    rfl
  · simp

/-! ## Line breaks -/

/-- Without carriage returns there are no line breaks to join. -/
theorem joinBreaks_of_not_mem {cs : List Char} (h : '\r' ∉ cs) : joinBreaks cs = cs := by
  induction cs with
  | nil => rfl
  | cons c cs ih =>
    simp only [List.mem_cons, not_or] at h
    rw [joinBreaks, ih h.2]
    rintro rest rfl
    exact absurd rfl h.1

theorem not_mem_encodeString (s : String) : '\r' ∉ (encodeString s).toList := by
  have hchar (c : Char) : '\r' ∉ encodeChar c := by
    unfold encodeChar
    split_ifs with hquote hback hbreak hreturn hbackspace hfeed hcontrol
    all_goals try decide
    · have hc : c.toNat < 128 := by
        rcases hcontrol with ⟨h, -⟩ | h <;> omega
      have hhex : '\r' ∉ paddedHex 4 c.toNat :=
        of_ascii (p := fun c => '\r' ∉ paddedHex 4 c.toNat) (by decide +kernel) hc
      simp [hhex]
    · simpa using Ne.symm hreturn
  simp [encodeString, hchar]

theorem stops_digits (n : Int) : Stops isSpace (Integer.digits n) := by
  obtain ⟨c, left, hcs, hc⟩ := exists_cons_digits n
  rw [hcs]
  apply stops_cons.2
  by_contra hs
  rw [Bool.not_eq_false] at hs
  simp only [isSpace, Bool.or_eq_true, decide_eq_true_eq] at hs
  rcases hs with rfl | rfl <;> rcases hc with hc | hc <;> exact absurd hc (by decide)

theorem not_mem_digits (n : Int) : '\r' ∉ Integer.digits n := by
  intro h
  unfold Integer.digits at h
  split at h
  · rcases List.mem_cons.1 h with h | h
    · exact absurd h (by decide)
    · exact absurd (isDigit_of_mem_digitsOfNat h) (by decide)
  · exact absurd (isDigit_of_mem_digitsOfNat h) (by decide)

end StructuredQuery.Toml
