import StructuredQuery.Proofs.Query.Lexing

/-!
Quoted texts in query text. A text is quoted by marking its backslashes and its quotes, so it ends where it was
closed and stands for the same text, whatever it holds and whatever follows. A string may mark other characters
as well; the text that it stands for is quoted without these needless marks.
-/

namespace StructuredQuery

namespace Text

def substitute (c : Char) (row text : List Char) : List Char :=
  text.flatMap fun d => if d = c then row else [d]

/-- Backslashes are doubled before quotes are marked, so the backslashes of the marks stay single. -/
theorem escape_eq_substitute (text : List Char) :
    escape text = substitute '\'' ['\\', '\''] (substitute '\\' ['\\', '\\'] text) := by
  induction text with
  | nil => rfl
  | cons c rest ih =>
    rw [escape, ih]
    by_cases hb : c = '\\'
    · simp [substitute, hb]
    · by_cases hq : c = '\'' <;> simp [substitute, hb, hq]

/-- One character of a body is read. Beside the text read so far stands whether a backslash waits for it. -/
def unescapeStep : List Char × Bool → Char → List Char × Bool
  | (text, true), c => (text ++ [c], false)
  | (text, false), c => if c = '\\' then (text, true) else (text ++ [c], false)

/-- A backslash that waits where the body ends stands for itself. -/
def unescapeEnd : List Char × Bool → List Char
  | (text, waits) => if waits then text ++ ['\\'] else text

/-- Going through a body with one bit of memory unescapes it. -/
theorem unescapeEnd_foldl (body text : List Char) :
    unescapeEnd (body.foldl unescapeStep (text, false)) = text ++ unescape body := by
  -- a mark and the character behind it are two steps, after which no backslash waits again
  fun_induction unescape body generalizing text with
  | case1 => simp [unescapeEnd]
  | case2 => simp [unescapeStep, unescapeEnd]
  | case3 c rest ih => simp [unescapeStep, ih]
  | case4 c rest hlast hmark ih =>
    have hb : c ≠ '\\' := by
      rintro rfl
      cases rest with
      | nil => exact hlast rfl rfl
      | cons d rest => exact hmark d rest rfl rfl
    simp [unescapeStep, hb, ih]

/-- A body is read from left to right with no more to remember than whether a backslash waits. -/
theorem unescape_eq_foldl (body : List Char) :
    unescape body = unescapeEnd (body.foldl unescapeStep ([], false)) := by
  rw [unescapeEnd_foldl, List.nil_append]

/-- An escaped text that does not begin with a mark begins with its own first character. -/
theorem escape_eq_cons {s rest : List Char} {c : Char} (hc : c ≠ '\\') (h : escape s = c :: rest) :
    ∃ s', rest = escape s' := by
  cases s with
  | nil => cases h
  | cons d s =>
    rw [escape] at h
    split at h
    · exact absurd (List.cons.inj h).1.symm hc
    · exact ⟨s, (List.cons.inj h).2.symm⟩

/-- In an escaped text a backslash or a quote stands behind a backslash. -/
theorem escape_eq_backslash {s rest : List Char} {c : Char} (h : escape s = '\\' :: c :: rest) :
    (c = '\\' ∨ c = '\'') ∧ ∃ s', rest = escape s' := by
  cases s with
  | nil => cases h
  | cons d s =>
    rw [escape] at h
    split at h
    · next hd =>
      simp only [List.cons.injEq, true_and] at h
      obtain ⟨rfl, rfl⟩ := h
      exact ⟨hd, s, rfl⟩
    · next hd => exact absurd (.inl (List.cons.inj h).1) hd

end Text

namespace Query.Terminal

open Text Pattern

theorem isBody_escape (s : List Char) : IsBody (escape s) :=
  (isBody_of_stringBody? (stringBody?_escape s [])).1

theorem matches_quote (s : List Char) : string.pattern.Matches (quote s) :=
  matches_string_iff.2 ⟨_, isBody_escape s, rfl⟩

/-- No mark of a body is needless: a backslash is put only before backslashes and quotes. The backslashes that are
put are those with a whole body in front of them, and not the ones that are marked themselves. -/
def MarksOnlyNeeded (body : List Char) : Prop :=
  ∀ before c after, IsBody before → body = before ++ '\\' :: c :: after → c = '\\' ∨ c = '\''

/-- Escaping puts marks only where they are needed. -/
theorem marksOnlyNeeded_escape (s : List Char) : MarksOnlyNeeded (escape s) := by
  intro before c after hbefore h
  -- along the parts in front of the backslash, each of which is written for one character of the text
  induction hbefore generalizing s with
  | nil => exact (escape_eq_backslash h).1
  | plain _ hb _ ih =>
    obtain ⟨s', hs'⟩ := escape_eq_cons hb h
    exact ih s' hs'.symm
  | marked _ _ ih =>
    obtain ⟨-, s', hs'⟩ := escape_eq_backslash h
    exact ih s' hs'.symm

/-- A body with marks only where they are needed is the escape of its text. -/
theorem MarksOnlyNeeded.escape_unescape {body : List Char} (hbody : IsBody body) (h : MarksOnlyNeeded body) :
    escape (unescape body) = body := by
  induction hbody with
  | nil => rfl
  | @plain c rest hq hb _ ih =>
    have hrest : MarksOnlyNeeded rest := fun before d after hbefore hd =>
      h (c :: before) d after (.plain hq hb hbefore) (congrArg (c :: ·) hd)
    rw [unescape_cons hb, escape, if_neg (by simp [hq, hb]), ih hrest]
  | @marked c rest hn _ ih =>
    have hrest : MarksOnlyNeeded rest := fun before d after hbefore hd =>
      h ('\\' :: c :: before) d after (.marked hn hbefore) (congrArg ('\\' :: c :: ·) hd)
    rw [unescape_backslash, escape, if_pos (h [] c rest .nil rfl), ih hrest]

/-- What a string stands for is quoted as it was spelled just if the string has no needless marks. -/
theorem quote_unescape_eq_iff {body : List Char} (hbody : IsBody body) :
    quote (unescape body) = '\'' :: (body ++ ['\'']) ↔ MarksOnlyNeeded body := by
  constructor
  · intro h
    have hsame : escape (unescape body) = body := List.append_cancel_right (List.cons.inj h).2
    rw [← hsame]
    exact marksOnlyNeeded_escape _
  · intro h
    rw [quote, h.escape_unescape hbody]

/-- Quoting and reading of strings. A quoted text is the one string at the front of any text that begins with it, and
it stands for what was quoted, whatever that holds. What a string stands for is quoted as a string that stands for it
too, and as the same string just if there are no needless marks in it. -/
theorem string_delimits_itself :
    (∀ s rest : List Char,
      escape s = substitute '\'' ['\\', '\''] (substitute '\\' ['\\', '\\'] s) ∧
      string.pattern.Longest (quote s ++ rest) (quote s) rest ∧
      (∀ lexeme left, quote s ++ rest = lexeme ++ left → string.pattern.Matches lexeme → lexeme = quote s) ∧
      string? (quote s ++ rest) = some (escape s, rest) ∧ unescape (escape s) = s) ∧
    ∀ lexeme, string.pattern.Matches lexeme →
      ∃ body, lexeme = '\'' :: (body ++ ['\'']) ∧ string? lexeme = some (body, []) ∧
        unescape body = unescapeEnd (body.foldl unescapeStep ([], false)) ∧
        string.pattern.Matches (quote (unescape body)) ∧
        unescape (escape (unescape body)) = unescape body ∧
        (quote (unescape body) = lexeme ↔ MarksOnlyNeeded body) := by
  constructor
  · intro s rest
    -- no match is the front of another one, so any match there is the whole quoted text
    have honly (lexeme left : List Char) (h : quote s ++ rest = lexeme ++ left)
        (hm : string.pattern.Matches lexeme) : lexeme = quote s :=
      string_selfDelimiting lexeme (quote s) left rest hm (matches_quote s) h.symm
    exact ⟨escape_eq_substitute s, string_selfDelimiting.longest (matches_quote s) rest, honly,
      string?_quote s rest, unescape_escape s⟩
  · intro lexeme h
    obtain ⟨body, hbody, rfl⟩ := matches_string_iff.1 h
    have hread := string?_of_isBody hbody []
    rw [List.append_nil] at hread
    exact ⟨body, rfl, hread, unescape_eq_foldl body, matches_quote _, unescape_escape _,
      quote_unescape_eq_iff hbody⟩

/-- The case of `it's \`, with a quote behind it, and of two strings that stand for `it's`: in `'it\'s'` no mark is
needless, and the first one of `'\it\'s'` is. -/
theorem string_delimits_itself_needless :
    string.pattern.Longest (quote "it's \\".toList ++ ['\'']) (quote "it's \\".toList) ['\''] ∧
    string.pattern.Matches "'it\\'s'".toList ∧ unescape "it\\'s".toList = "it's".toList ∧
    quote "it's".toList = "'it\\'s'".toList ∧ MarksOnlyNeeded "it\\'s".toList ∧
    string.pattern.Matches "'\\it\\'s'".toList ∧ unescape "\\it\\'s".toList = "it's".toList ∧
    quote "it's".toList ≠ "'\\it\\'s'".toList ∧ ¬ MarksOnlyNeeded "\\it\\'s".toList := by
  have hmarks {lexeme body : List Char} (h : string? lexeme = some (body, []))
      (hl : lexeme = '\'' :: (body ++ ['\''])) :
      string.pattern.Matches lexeme ∧ (quote (unescape body) = lexeme ↔ MarksOnlyNeeded body) := by
    have hmatches := (longest_string_iff.2 ⟨body, h, hl⟩).spelled
    obtain ⟨body', -, hbody, -, -, -, hiff⟩ := string_delimits_itself.2 lexeme hmatches
    obtain rfl : body = body' := by
      rw [h] at hbody
      exact (Prod.mk.inj (Option.some.inj hbody)).1
    exact ⟨hmatches, hiff⟩
  have hread : string? "'it\\'s'".toList = some ("it\\'s".toList, []) := by decide
  have hread' : string? "'\\it\\'s'".toList = some ("\\it\\'s".toList, []) := by decide
  obtain ⟨hmatches, hneeded⟩ := hmarks hread rfl
  obtain ⟨hmatches', hneedless⟩ := hmarks hread' rfl
  exact ⟨(string_delimits_itself.1 _ _).2.1, hmatches, by decide, by decide, hneeded.1 (by decide), hmatches',
    by decide, by decide, fun h => absurd (hneedless.2 h) (by decide)⟩

end Query.Terminal

end StructuredQuery
