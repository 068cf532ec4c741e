import StructuredQuery.Proofs.Number.Spelling
import StructuredQuery.Proofs.Query.Pattern
import StructuredQuery.Query.Terminal

/-!
The terminals of the grammar as regular expressions. Each reader of a terminal takes exactly the longest
match of its expression, and a place in a text determines the spaces and the terminal that are taken there.
-/

namespace StructuredQuery.Query

open Text

inductive Terminal
  | leftRound
  | rightRound
  | equals
  | colon
  | comma
  | operator
  | optionName
  | optionValue
  | fieldName
  | number
  | string
  | rangeOpen
  | rangeClose

namespace Terminal

open Pattern

def digits : Pattern := plus (.one isDecimalDigit)

/-- One character of the body of a string, or a backslash with the character behind it. -/
def bodyPart : Pattern :=
  .alt (.one fun c => c ≠ '\'' && c ≠ '\\') (.seq (char '\\') (.one (· ≠ '\n')))

def fraction : Pattern := optional (.seq (char '.') digits)

def sign : Pattern := optional (.one fun c => c = '+' || c = '-')

def power : Pattern := optional (.seq (.one fun c => c = 'e' || c = 'E') (.seq sign digits))

def pattern : Terminal → Pattern
  | leftRound => char '('
  | rightRound => char ')'
  | equals => char '='
  | colon => char ':'
  | comma => char ','
  | operator => plus (.one isOperatorChar)
  | optionName => .alt (word "boost".toList) (.alt (word "distance".toList) (word "field".toList))
  | optionValue => plus (.one isWordChar)
  | fieldName => .seq (.one isNameStart) (.many (.one isNameChar))
  | number => .seq (optional (char '-')) (.seq digits (.seq fraction power))
  | string => .seq (char '\'') (.seq (.many bodyPart) (char '\''))
  | rangeOpen => .one fun c => c = '[' || c = '{'
  | rangeClose => .one fun c => c = ']' || c = '}'

/-- The pattern `\d+`. -/
theorem matches_digits_iff {s : List Char} :
    digits.Matches s ↔ s ≠ [] ∧ ∀ c ∈ s, isDecimalDigit c :=
  matches_plus_one_iff

/-- The pattern `(\.\d*)?`. -/
theorem matches_fraction_iff {s : List Char} :
    fraction.Matches s ↔ ∃ ds, (∀ c ∈ ds, isDecimalDigit c) ∧ s = NumberText.fractionText ds := by
  simp only [fraction, matches_optional_iff, matches_seq_iff, matches_char_iff, matches_digits_iff]
  constructor
  · rintro (rfl | ⟨_, ds, rfl, ⟨hne, hd⟩, rfl⟩)
    · exact ⟨[], by simp, rfl⟩
    · exact ⟨ds, hd, by simp [NumberText.fractionText, hne]⟩
  · rintro ⟨ds, hd, rfl⟩
    by_cases hne : ds = []
    · exact .inl (by simp [NumberText.fractionText, hne])
    · exact .inr ⟨_, ds, rfl, ⟨hne, hd⟩, by simp [NumberText.fractionText, hne]⟩

theorem matches_sign_iff {s : List Char} : sign.Matches s ↔ ∃ negative, NumberText.SpellsSign s negative := by
  simp only [sign, matches_optional_iff, matches_one_iff, Bool.or_eq_true, decide_eq_true_eq]
  constructor
  · rintro (rfl | ⟨c, rfl | rfl, rfl⟩)
    · exact ⟨_, .none⟩
    · exact ⟨_, .plus⟩
    · exact ⟨_, .minus⟩
  · rintro ⟨negative, hs⟩
    cases hs with
    | none => exact .inl rfl
    | plus => exact .inr ⟨'+', .inl rfl, rfl⟩
    | minus => exact .inr ⟨'-', .inr rfl, rfl⟩

/-- The pattern `([eE][+-]?\d+)?`. -/
theorem matches_power_iff {s : List Char} : power.Matches s ↔ ∃ n, NumberText.SpellsPower s n := by
  simp only [power, matches_optional_iff, matches_seq_iff, matches_one_iff, matches_sign_iff,
    matches_digits_iff, Bool.or_eq_true, decide_eq_true_eq]
  constructor
  · rintro (rfl | ⟨_, _, ⟨e, he, rfl⟩, ⟨t, ds, ⟨negative, ht⟩, ⟨hne, hd⟩, rfl⟩, rfl⟩)
    · exact ⟨_, .none⟩
    · exact ⟨_, .some e t ds negative he ht hne hd⟩
  · rintro ⟨n, hs⟩
    cases hs with
    | none => exact .inl rfl
    | some e t ds negative he ht hne hd =>
      exact .inr ⟨[e], _, ⟨e, he, rfl⟩, ⟨t, ds, ⟨negative, ht⟩, ⟨hne, hd⟩, rfl⟩, rfl⟩

theorem matches_minus_iff {s : List Char} :
    (optional (char '-')).Matches s ↔ ∃ negative, s = NumberText.minusText negative := by
  simp [matches_optional_iff, matches_char_iff, NumberText.minusText]

/-- The regular expression of numbers matches exactly the spellings of numbers. -/
theorem matches_number_iff {s : List Char} :
    number.pattern.Matches s ↔
      ∃ (n : NumberText) (text : List Char), n.Spells text ∧ s = NumberText.minusText n.negative ++ text := by
  simp only [pattern, matches_seq_iff, matches_minus_iff, matches_digits_iff, matches_fraction_iff,
    matches_power_iff]
  constructor
  · rintro ⟨_, _, ⟨negative, rfl⟩, ⟨whole, _, ⟨hne, hw⟩, ⟨_, p, ⟨ds, hd, rfl⟩, ⟨n, hp⟩, rfl⟩, rfl⟩, rfl⟩
    exact ⟨⟨negative, whole, ds, n⟩, _, ⟨hne, hw, hd, p, hp, rfl⟩, rfl⟩
  · rintro ⟨n, _, ⟨hne, hw, hd, p, hp, rfl⟩, rfl⟩
    exact ⟨_, _, ⟨n.negative, rfl⟩,
      ⟨n.whole, _, ⟨hne, hw⟩, ⟨_, p, ⟨n.fraction, hd, rfl⟩, ⟨n.power, hp⟩, rfl⟩, rfl⟩, rfl⟩

/-- The reader takes exactly the longest match of a number. -/
theorem longest_number_iff {cs lexeme rest : List Char} :
    number.pattern.Longest cs lexeme rest ↔ ∃ n, number? cs = some (n, rest) ∧ cs = lexeme ++ rest := by
  -- reading takes a match, so the longest one is what is read if no match is longer
  have hlongest {n : NumberText} {taken left : List Char} (h : number? cs = some (n, left))
      (hs : cs = taken ++ left) : number.pattern.Longest cs taken left := by
    obtain ⟨text, hn, ht⟩ := NumberText.spells_of_take? h
    refine ⟨hs, matches_number_iff.2 ⟨n, text, hn, ?_⟩, fun other left' ho hm => ?_⟩
    · rw [hs, ← List.append_assoc] at ht
      exact List.append_cancel_right ht
    · -- whatever else is spelled at this place, reading takes no less than that
      obtain ⟨m, text', hspelled, rfl⟩ := matches_number_iff.1 hm
      obtain ⟨m', rest', htake, hle⟩ := hspelled.exists_take? left'
      rw [← List.append_assoc, ← ho, ← number?, h, Option.some.injEq, Prod.mk.injEq] at htake
      have hl := congrArg List.length (hs.symm.trans ho)
      rw [← htake.2] at hle
      simp only [List.length_append] at hl ⊢
      omega
  constructor
  · intro h
    obtain ⟨n, text, hn, hlexeme⟩ := matches_number_iff.1 h.spelled
    obtain ⟨m, left, htake, hle⟩ := hn.exists_take? rest
    rw [← List.append_assoc, ← hlexeme, ← h.split] at htake
    obtain ⟨text', -, ht⟩ := NumberText.spells_of_take? htake
    obtain ⟨rfl, rfl⟩ := h.unique (hlongest htake (ht.trans (List.append_assoc ..).symm))
    exact ⟨m, htake, h.split⟩
  · rintro ⟨n, hn, hs⟩
    exact hlongest hn hs

/-- What is read as a number is read as the same number where nothing follows it. -/
theorem number?_lexeme {cs lexeme rest : List Char} {n : NumberText} (h : number? cs = some (n, rest))
    (hs : cs = lexeme ++ rest) : number? lexeme = some (n, []) := by
  obtain ⟨text, hn, ht⟩ := NumberText.spells_of_take? h
  rw [hs, ← List.append_assoc] at ht
  have htake := hn.take? (stops_nil _)
  rw [List.append_nil] at htake
  rw [List.append_cancel_right ht]
  exact htake

theorem stringBody?_cons {c : Char} (hq : c ≠ '\'') (hb : c ≠ '\\') (rest : List Char) :
    stringBody? (c :: rest) = (stringBody? rest).map fun (body, rest) => (c :: body, rest) := by
  rw [stringBody?] <;> simp_all

/-- The bodies of strings: rows of characters other than backslashes and quotes, and of backslashes each with the
character behind it. -/
inductive IsBody : List Char → Prop
  | nil : IsBody []
  | plain {c : Char} {rest : List Char} (hq : c ≠ '\'') (hb : c ≠ '\\') (h : IsBody rest) : IsBody (c :: rest)
  | marked {c : Char} {rest : List Char} (hn : c ≠ '\n') (h : IsBody rest) : IsBody ('\\' :: c :: rest)

theorem matches_bodyPart_iff {s : List Char} :
    bodyPart.Matches s ↔ (∃ c, c ≠ '\'' ∧ c ≠ '\\' ∧ s = [c]) ∨ ∃ c, c ≠ '\n' ∧ s = ['\\', c] := by
  simp only [bodyPart, matches_alt_iff, matches_seq_iff, matches_char_iff, matches_one_iff, Bool.and_eq_true,
    decide_eq_true_eq, and_assoc]
  constructor
  · rintro (h | ⟨_, _, rfl, ⟨c, hn, rfl⟩, rfl⟩)
    · exact .inl h
    · exact .inr ⟨c, hn, rfl⟩
  · rintro (h | ⟨c, hn, rfl⟩)
    · exact .inl h
    · exact .inr ⟨_, _, rfl, ⟨c, hn, rfl⟩, rfl⟩

/-- The body of a string is a row of plain characters and escapes. -/
theorem matches_body_iff {s : List Char} : (Pattern.many bodyPart).Matches s ↔ IsBody s := by
  constructor
  · intro h
    generalize ha : Pattern.many bodyPart = a at h
    induction h with
    | stop => exact .nil
    | more hs _ _ ih =>
      cases ha
      rcases matches_bodyPart_iff.1 hs with ⟨c, hq, hb, rfl⟩ | ⟨c, hn, rfl⟩
      · exact .plain hq hb (ih rfl)
      · exact .marked hn (ih rfl)
    | empty | one | seq | left | right => cases ha
  · intro h
    induction h with
    | nil => exact .stop
    | plain hq hb _ ih => exact .more (matches_bodyPart_iff.2 (.inl ⟨_, hq, hb, rfl⟩)) ih
    | marked hn _ ih => exact .more (matches_bodyPart_iff.2 (.inr ⟨_, hn, rfl⟩)) ih

/-- A backslash takes the character behind it, so no quote ends a body early. -/
theorem stringBody?_of_isBody {body : List Char} (h : IsBody body) (rest : List Char) :
    stringBody? (body ++ '\'' :: rest) = some (body, rest) := by
  induction h with
  | nil => rfl
  | plain hq hb _ ih =>
    rw [List.cons_append, stringBody?_cons hq hb, ih]
    rfl
  | marked hn _ ih => simp [stringBody?, hn, ih]

/-- The reader stops at the first quote that is not escaped. -/
theorem isBody_of_stringBody? {cs body rest : List Char} (h : stringBody? cs = some (body, rest)) :
    IsBody body ∧ cs = body ++ '\'' :: rest := by
  -- the cases are those of the reader; in three of them it gives up
  fun_induction stringBody? cs generalizing body with
  | case1 => simp at h
  | case2 left =>
    simp only [Option.some.injEq, Prod.mk.injEq] at h
    obtain ⟨rfl, rfl⟩ := h
    exact ⟨.nil, rfl⟩
  | case3 => simp at h
  | case4 => simp at h
  | case5 c left hc ih =>
    simp only [Option.map_eq_some_iff, Prod.exists, Prod.mk.injEq] at h
    obtain ⟨inner, left', hi, rfl, rfl⟩ := h
    obtain ⟨hm, rfl⟩ := ih hi
    exact ⟨.marked hc hm, rfl⟩
  | case6 c left hq hl hb ih =>
    simp only [Option.map_eq_some_iff, Prod.exists, Prod.mk.injEq] at h
    obtain ⟨inner, left', hi, rfl, rfl⟩ := h
    obtain ⟨hm, rfl⟩ := ih hi
    have hback : c ≠ '\\' := by
      intro he
      obtain ⟨d, rest', hd⟩ : ∃ d rest', inner ++ '\'' :: left' = d :: rest' :=
        List.exists_cons_of_ne_nil (by simp)
      exact hb d rest' he hd
    exact ⟨.plain hq hback hm, rfl⟩

/-- A string is a body between quotes. -/
theorem matches_string_iff {s : List Char} :
    string.pattern.Matches s ↔ ∃ body, IsBody body ∧ s = '\'' :: (body ++ ['\'']) := by
  simp only [pattern, matches_seq_iff, matches_char_iff, matches_body_iff]
  constructor
  · rintro ⟨_, _, rfl, ⟨body, _, hb, rfl, rfl⟩, rfl⟩
    exact ⟨body, hb, rfl⟩
  · rintro ⟨body, hb, rfl⟩
    exact ⟨_, _, rfl, ⟨body, _, hb, rfl, rfl⟩, rfl⟩

/-- A body between quotes is read in front of any rest. -/
theorem string?_of_isBody {body : List Char} (h : IsBody body) (rest : List Char) :
    string? ('\'' :: (body ++ ['\'']) ++ rest) = some (body, rest) := by
  simpa [string?] using stringBody?_of_isBody h rest

/-- Whatever is read as a string is a body between quotes. -/
theorem isBody_of_string? {cs body rest : List Char} (h : string? cs = some (body, rest)) :
    IsBody body ∧ cs = '\'' :: (body ++ ['\'']) ++ rest := by
  unfold string? at h
  split at h
  · obtain ⟨hb, rfl⟩ := isBody_of_stringBody? h
    exact ⟨hb, by simp⟩
  · simp at h

/-- The reader takes one string at the front of a text, so there is only one to match. -/
theorem string_selfDelimiting : string.pattern.SelfDelimiting := by
  intro s t rest left hs ht h
  obtain ⟨body, hb, rfl⟩ := matches_string_iff.1 hs
  obtain ⟨body', hb', rfl⟩ := matches_string_iff.1 ht
  have hread := string?_of_isBody hb rest
  rw [h, string?_of_isBody hb' left, Option.some.injEq, Prod.mk.injEq] at hread
  rw [hread.1]

/-- The reader takes exactly the longest match of a string. -/
theorem longest_string_iff {cs lexeme rest : List Char} :
    string.pattern.Longest cs lexeme rest ↔
      ∃ body, string? cs = some (body, rest) ∧ lexeme = '\'' :: (body ++ ['\'']) := by
  constructor
  · intro h
    obtain ⟨body, hb, rfl⟩ := matches_string_iff.1 h.spelled
    refine ⟨body, ?_, rfl⟩
    rw [h.split]
    exact string?_of_isBody hb rest
  · rintro ⟨body, hs, rfl⟩
    obtain ⟨hb, rfl⟩ := isBody_of_string? hs
    exact string_selfDelimiting.longest (matches_string_iff.2 ⟨body, hb, rfl⟩) rest

theorem matches_optionName_iff {s : List Char} :
    optionName.pattern.Matches s ↔ ∃ name : OptionName, s = name.text.toList := by
  simp only [pattern, matches_alt_iff, matches_word_iff]
  constructor
  · rintro (rfl | rfl | rfl)
    · exact ⟨.boost, rfl⟩
    · exact ⟨.distance, rfl⟩
    · exact ⟨.field, rfl⟩
  · rintro ⟨name, rfl⟩
    cases name
    · exact .inl rfl
    · exact .inr (.inl rfl)
    · exact .inr (.inr rfl)

/-- The names of options differ in their first letters. -/
theorem optionName_selfDelimiting : optionName.pattern.SelfDelimiting := by
  have hfirst {a b : OptionName} (h : a.text.toList.head? = b.text.toList.head?) : a = b := by
    cases a <;> cases b <;> first | rfl | exact absurd h (by decide)
  have hhead (a : OptionName) (left : List Char) :
      (a.text.toList ++ left).head? = a.text.toList.head? := by
    cases a <;> rfl
  intro s t rest left hs ht h
  obtain ⟨name, rfl⟩ := matches_optionName_iff.1 hs
  obtain ⟨name', rfl⟩ := matches_optionName_iff.1 ht
  have hsame := congrArg List.head? h
  rw [hhead, hhead] at hsame
  rw [hfirst hsame]

/-- The longest name of an option at the front of a text. -/
theorem longest_optionName_iff {cs lexeme rest : List Char} :
    optionName.pattern.Longest cs lexeme rest ↔
      ∃ name : OptionName, lexeme = name.text.toList ∧ cs = lexeme ++ rest := by
  constructor
  · intro h
    obtain ⟨name, hn⟩ := matches_optionName_iff.1 h.spelled
    exact ⟨name, hn, h.split⟩
  · rintro ⟨name, rfl, rfl⟩
    exact optionName_selfDelimiting.longest (matches_optionName_iff.2 ⟨name, rfl⟩) rest

/-- A name goes on up to the first character that is none of a name. -/
theorem name?_append {c : Char} {u rest : List Char} (hc : isNameStart c) (hu : ∀ d ∈ u, isNameChar d)
    (hr : Stops isNameChar rest) : name? (c :: (u ++ rest)) = some (c :: u, rest) := by
  rw [name?, if_pos hc, takeWhile_append_of_stops hu hr, dropWhile_append_of_stops hu hr]

theorem name?_optionName (name : OptionName) {rest : List Char} (hr : Stops isNameChar rest) :
    name? (name.text.toList ++ rest) = some (name.text.toList, rest) := by
  cases name <;> exact name?_append (by decide) (List.all_eq_true.1 (by decide)) hr

theorem matches_fieldName_iff {s : List Char} : fieldName.pattern.Matches s ↔
    ∃ c u, isNameStart c ∧ (∀ d ∈ u, isNameChar d) ∧ s = c :: u := by
  simp only [pattern, matches_seq_iff, matches_one_iff, matches_many_one_iff]
  constructor
  · rintro ⟨_, u, ⟨c, hc, rfl⟩, hu, rfl⟩
    exact ⟨c, u, hc, hu, rfl⟩
  · rintro ⟨c, u, hc, hu, rfl⟩
    exact ⟨[c], u, ⟨c, hc, rfl⟩, hu, rfl⟩

/-- The reader takes exactly the longest match of the name of a field. -/
theorem longest_fieldName_iff {cs lexeme rest : List Char} :
    fieldName.pattern.Longest cs lexeme rest ↔ name? cs = some (lexeme, rest) := by
  have htake {u left : List Char} (hu : ∀ d ∈ u, isNameChar d) :
      (u ++ left).takeWhile isNameChar = u ++ left.takeWhile isNameChar :=
    List.takeWhile_append_of_pos hu
  constructor
  · intro h
    obtain ⟨c, u, hc, hu, rfl⟩ := matches_fieldName_iff.1 h.spelled
    -- were a name character left, the name with it would be a longer match
    have hmore : rest.takeWhile isNameChar = [] := by
      have hm := h.longest (c :: (u ++ rest.takeWhile isNameChar)) (rest.dropWhile isNameChar)
        (by rw [h.split]; simp) (matches_fieldName_iff.2 ⟨c, _, hc, ?_, rfl⟩)
      · simp only [List.length_cons, List.length_append] at hm
        exact List.length_eq_zero_iff.1 (by omega)
      · intro d hd
        rcases List.mem_append.1 hd with hd | hd
        · exact hu d hd
        · exact List.all_eq_true.1 List.all_takeWhile d hd
    have hdrop : rest.dropWhile isNameChar = rest := by
      have := List.takeWhile_append_dropWhile (p := isNameChar) (l := rest)
      rwa [hmore] at this
    rw [h.split, List.cons_append, name?, if_pos hc, htake hu, hmore, List.append_nil,
      List.dropWhile_append_of_pos hu, hdrop]
  · intro h
    unfold name? at h
    split at h
    · simp at h
    · next c left =>
      split at h
      · next hc =>
        obtain ⟨rfl, rfl⟩ : c :: left.takeWhile isNameChar = lexeme ∧ left.dropWhile isNameChar = rest := by
          simpa using h
        refine ⟨by simp, matches_fieldName_iff.2 ⟨c, _, hc, ?_, rfl⟩, fun other left' ho hm => ?_⟩
        · exact fun d hd => List.all_eq_true.1 List.all_takeWhile d hd
        · obtain ⟨d, u, -, hu, rfl⟩ := matches_fieldName_iff.1 hm
          obtain ⟨-, hleft⟩ := List.cons.inj ho
          have hleft : left = u ++ left' := hleft
          rw [hleft, List.length_cons, List.length_cons, htake hu, List.length_append]
          omega
      · simp at h

theorem starts_number (c : Char) : number.pattern.starts c = (decide (c = '-') || isDecimalDigit c) := by
  simp [pattern, digits, plus, Pattern.optional, char, starts, nullable]

theorem starts_string (c : Char) : string.pattern.starts c = decide (c = '\'') := by
  simp [pattern, char, starts, nullable]

/-- No terminal is empty. -/
theorem nullable_eq_false (t : Terminal) : t.pattern.nullable = false := by
  cases t <;> rfl

/-- No terminal begins with a space, so the spaces before it end where it begins. -/
theorem not_isSpace_of_starts {t : Terminal} {c : Char} (h : t.pattern.starts c) : isSpace c = false := by
  by_contra hs
  rw [Bool.not_eq_false] at hs
  simp only [isSpace, Bool.or_eq_true, decide_eq_true_eq] at hs
  rcases hs with (((rfl | rfl) | rfl) | rfl) | rfl <;> cases t <;> exact absurd h (by decide)

end Terminal

structure Token where
  spaces : List Char
  lexeme : List Char

def Token.text (token : Token) : String := String.ofList token.lexeme

/-- At some place of a text spaces are skipped, and a terminal is taken as long as it can be. -/
def Takes (t : Terminal) (cs : List Char) (token : Token) (rest : List Char) : Prop :=
  (∀ c ∈ token.spaces, isSpace c) ∧
    ∃ left, cs = token.spaces ++ left ∧ t.pattern.Longest left token.lexeme rest

/-- A terminal is taken behind all spaces, as its longest match. -/
theorem takes_iff {t : Terminal} {cs rest : List Char} {token : Token} :
    Takes t cs token rest ↔
      token.spaces = cs.takeWhile isSpace ∧ t.pattern.Longest (skipSpaces cs) token.lexeme rest := by
  constructor
  · rintro ⟨hs, left, rfl, hl⟩
    obtain ⟨c, left', rfl, hc⟩ := hl.exists_cons t.nullable_eq_false
    -- the spaces are all there are, since a terminal does not begin with one
    have hstop : Stops isSpace (c :: left') := stops_cons.2 (Terminal.not_isSpace_of_starts hc)
    refine ⟨(takeWhile_append_of_stops hs hstop).symm, ?_⟩
    rw [skipSpaces, dropWhile_append_of_stops hs hstop]
    exact hl
  · rintro ⟨hs, hl⟩
    refine ⟨?_, _, ?_, hl⟩
    · rw [hs]
      exact fun c hc => List.all_eq_true.1 List.all_takeWhile c hc
    · rw [hs, skipSpaces, List.takeWhile_append_dropWhile]

theorem takes_of_longest {t : Terminal} {cs lexeme rest : List Char}
    (h : t.pattern.Longest (skipSpaces cs) lexeme rest) : Takes t cs ⟨cs.takeWhile isSpace, lexeme⟩ rest :=
  takes_iff.2 ⟨rfl, h⟩

theorem Takes.longest {t : Terminal} {cs rest : List Char} {token : Token} (h : Takes t cs token rest) :
    t.pattern.Longest (skipSpaces cs) token.lexeme rest :=
  (takes_iff.1 h).2

/-- A place of a text determines the terminal that is taken there. -/
theorem Takes.unique {t : Terminal} {cs rest rest' : List Char} {token token' : Token}
    (h : Takes t cs token rest) (h' : Takes t cs token' rest') : token = token' ∧ rest = rest' := by
  obtain ⟨hs, hl⟩ := takes_iff.1 h
  obtain ⟨hs', hl'⟩ := takes_iff.1 h'
  obtain ⟨hlexeme, hrest⟩ := hl.unique hl'
  obtain ⟨spaces, lexeme⟩ := token
  obtain ⟨spaces', lexeme'⟩ := token'
  obtain rfl : spaces = spaces' := hs.trans hs'.symm
  obtain rfl : lexeme = lexeme' := hlexeme
  exact ⟨rfl, hrest⟩

theorem Takes.exists_cons {t : Terminal} {cs rest : List Char} {token : Token} (h : Takes t cs token rest) :
    ∃ c left, skipSpaces cs = c :: left ∧ t.pattern.starts c :=
  h.longest.exists_cons t.nullable_eq_false

/-- A terminal of one character is taken wherever that stands. -/
theorem takes_one_iff {t : Terminal} {p : Char → Bool} (ht : t.pattern = .one p) {cs rest : List Char}
    {token : Token} :
    Takes t cs token rest ↔
      ∃ c, p c ∧ token = ⟨cs.takeWhile isSpace, [c]⟩ ∧ skipSpaces cs = c :: rest := by
  rw [takes_iff, ht, Pattern.longest_one_iff]
  constructor
  · rintro ⟨hs, c, hc, hl, hcs⟩
    obtain ⟨spaces, lexeme⟩ := token
    obtain rfl : spaces = _ := hs
    obtain rfl : lexeme = _ := hl
    exact ⟨c, hc, rfl, hcs⟩
  · rintro ⟨c, hc, rfl, hcs⟩
    exact ⟨rfl, c, hc, rfl, hcs⟩

theorem takes_char_iff {t : Terminal} {c : Char} (ht : t.pattern = .char c) {cs rest : List Char}
    {token : Token} :
    Takes t cs token rest ↔ token = ⟨cs.takeWhile isSpace, [c]⟩ ∧ skipSpaces cs = c :: rest := by
  simp [takes_one_iff ht]

/-- What comes behind the spaces may end a row of characters, as spaces may. -/
theorem stops_of_skipSpaces {p : Char → Bool} {cs left : List Char} {c : Char}
    (h : skipSpaces cs = c :: left) (hs : ∀ d, isSpace d → p d = false) (hc : p c = false) : Stops p cs := by
  cases cs with
  | nil => exact stops_nil p
  | cons d rest =>
    apply stops_cons.2
    by_cases hd : isSpace d
    · exact hs d hd
    · rw [skipSpaces, List.dropWhile_cons_of_neg hd] at h
      obtain ⟨rfl, -⟩ := List.cons.inj h
      exact hc

theorem not_isNameChar_of_isSpace {c : Char} (h : isSpace c) : isNameChar c = false := by
  simp only [isSpace, Bool.or_eq_true, decide_eq_true_eq] at h
  rcases h with (((rfl | rfl) | rfl) | rfl) | rfl <;> decide

end StructuredQuery.Query
