import StructuredQuery.Text.Run

/-!
Regular expressions and what they match. A pattern takes the longest row of characters that it matches at
the front of a text; there is at most one such row.
-/

namespace StructuredQuery.Query

open Text

/-- Regular expressions over classes of characters. -/
inductive Pattern
  | empty
  | one (p : Char → Bool)
  | seq (a b : Pattern)
  | alt (a b : Pattern)
  | many (a : Pattern)

namespace Pattern

inductive Matches : Pattern → List Char → Prop
  | empty : Matches .empty []
  | one {p : Char → Bool} {c : Char} (hc : p c) : Matches (.one p) [c]
  | seq {a b : Pattern} {s t : List Char} (hs : Matches a s) (ht : Matches b t) :
      Matches (.seq a b) (s ++ t)
  | left {a b : Pattern} {s : List Char} (hs : Matches a s) : Matches (.alt a b) s
  | right {a b : Pattern} {s : List Char} (hs : Matches b s) : Matches (.alt a b) s
  | stop {a : Pattern} : Matches (.many a) []
  | more {a : Pattern} {s t : List Char} (hs : Matches a s) (ht : Matches (.many a) t) :
      Matches (.many a) (s ++ t)

def char (c : Char) : Pattern := .one (· = c)

def optional (a : Pattern) : Pattern := .alt .empty a

def plus (a : Pattern) : Pattern := .seq a (.many a)

def word : List Char → Pattern
  | [] => .empty
  | c :: rest => .seq (.char c) (word rest)

theorem matches_empty_iff {s : List Char} : Matches .empty s ↔ s = [] := by
  constructor
  · rintro ⟨⟩
    rfl
  · rintro rfl
    exact .empty

theorem matches_one_iff {p : Char → Bool} {s : List Char} : Matches (.one p) s ↔ ∃ c, p c ∧ s = [c] := by
  constructor
  · rintro ⟨⟩
    exact ⟨_, ‹_›, rfl⟩
  · rintro ⟨c, hc, rfl⟩
    exact .one hc

theorem matches_char_iff {c : Char} {s : List Char} : Matches (.char c) s ↔ s = [c] := by
  simp [char, matches_one_iff]

theorem matches_seq_iff {a b : Pattern} {s : List Char} :
    Matches (.seq a b) s ↔ ∃ t u, Matches a t ∧ Matches b u ∧ s = t ++ u := by
  constructor
  · rintro ⟨⟩
    exact ⟨_, _, ‹_›, ‹_›, rfl⟩
  · rintro ⟨t, u, ht, hu, rfl⟩
    exact .seq ht hu

theorem matches_alt_iff {a b : Pattern} {s : List Char} :
    Matches (.alt a b) s ↔ Matches a s ∨ Matches b s := by
  constructor
  · intro h
    cases h with
    | left hs => exact .inl hs
    | right hs => exact .inr hs
  · rintro (hs | hs)
    · exact .left hs
    · exact .right hs

theorem matches_optional_iff {a : Pattern} {s : List Char} :
    Matches (.optional a) s ↔ s = [] ∨ Matches a s := by
  rw [optional, matches_alt_iff, matches_empty_iff]

theorem matches_word_iff {w s : List Char} : Matches (.word w) s ↔ s = w := by
  induction w generalizing s with
  | nil => exact matches_empty_iff
  | cons c w ih => simp [word, matches_seq_iff, matches_char_iff, ih]

theorem matches_many_one_iff {p : Char → Bool} {s : List Char} :
    Matches (.many (.one p)) s ↔ ∀ c ∈ s, p c := by
  constructor
  · intro h
    generalize ha : Pattern.many (.one p) = a at h
    induction h with
    | stop => simp
    | more hs ht _ ih =>
      cases ha
      obtain ⟨c, hc, rfl⟩ := matches_one_iff.1 hs
      intro d hd
      rcases List.mem_append.1 hd with h | h
      · rwa [List.mem_singleton.1 h]
      · exact ih rfl d h
    | empty | one | seq | left | right => cases ha
  · intro h
    induction s with
    | nil => exact .stop
    | cons c s ih =>
      have hc : Matches (.one p) [c] := .one (h c List.mem_cons_self)
      exact .more hc (ih fun d hd => h d (List.mem_cons_of_mem c hd))

theorem matches_plus_one_iff {p : Char → Bool} {s : List Char} :
    Matches (.plus (.one p)) s ↔ s ≠ [] ∧ ∀ c ∈ s, p c := by
  simp only [plus, matches_seq_iff, matches_one_iff, matches_many_one_iff]
  constructor
  · rintro ⟨_, u, ⟨c, hc, rfl⟩, hu, rfl⟩
    exact ⟨by simp, by simpa [hc] using hu⟩
  · rintro ⟨hne, hs⟩
    obtain ⟨c, u, rfl⟩ := List.exists_cons_of_ne_nil hne
    exact ⟨[c], u, ⟨c, hs c List.mem_cons_self, rfl⟩, fun d hd => hs d (List.mem_cons_of_mem c hd), rfl⟩

def nullable : Pattern → Bool
  | .empty => true
  | .one _ => false
  | .seq a b => a.nullable && b.nullable
  | .alt a b => a.nullable || b.nullable
  | .many _ => true

def starts (c : Char) : Pattern → Bool
  | .empty => false
  | .one p => p c
  | .seq a b => starts c a || (a.nullable && starts c b)
  | .alt a b => starts c a || starts c b
  | .many a => starts c a

/-- Only a nullable pattern matches the empty text. -/
theorem nullable_of_matches {a : Pattern} {s : List Char} (h : a.Matches s) (hs : s = []) : a.nullable := by
  induction h with
  | empty => rfl
  | one => exact absurd hs (by simp)
  | seq _ _ ihs iht =>
    obtain ⟨hs, ht⟩ := List.append_eq_nil_iff.1 hs
    simp [nullable, ihs hs, iht ht]
  | left _ ih => simp [nullable, ih hs]
  | right _ ih => simp [nullable, ih hs]
  | stop => rfl
  | more => rfl

/-- A match begins with a character that the pattern starts with. -/
theorem starts_of_matches {a : Pattern} {s : List Char} (h : a.Matches s) {c : Char} {rest : List Char}
    (hs : s = c :: rest) : a.starts c := by
  induction h generalizing rest with
  | empty => simp at hs
  | one hc =>
    obtain ⟨rfl, -⟩ := List.cons.inj hs
    exact hc
  | seq ha _ iha ihb =>
    rcases List.append_eq_cons_iff.1 hs with ⟨hnil, ht⟩ | ⟨rest', hcons, -⟩
    · simp [starts, nullable_of_matches ha hnil, ihb ht]
    · simp [starts, iha hcons]
  | left _ ih => simp [starts, ih hs]
  | right _ ih => simp [starts, ih hs]
  | stop => simp at hs
  | more _ _ iha ihb =>
    rcases List.append_eq_cons_iff.1 hs with ⟨-, ht⟩ | ⟨rest', hcons, -⟩
    · exact ihb ht
    · exact iha hcons

def mentions (c : Char) : Pattern → Bool
  | .empty => false
  | .one p => p c
  | .seq a b => mentions c a || mentions c b
  | .alt a b => mentions c a || mentions c b
  | .many a => mentions c a

/-- A match holds only characters that the pattern mentions. -/
theorem mentions_of_matches {a : Pattern} {s : List Char} (h : a.Matches s) {c : Char} (hc : c ∈ s) :
    a.mentions c := by
  induction h with
  | empty => simp at hc
  | one hp =>
    rw [List.mem_singleton.1 hc]
    exact hp
  | seq _ _ iha ihb =>
    rcases List.mem_append.1 hc with h | h
    · simp [mentions, iha h]
    · simp [mentions, ihb h]
  | left _ ih => simp [mentions, ih hc]
  | right _ ih => simp [mentions, ih hc]
  | stop => simp at hc
  | more _ _ iha ihb =>
    rcases List.mem_append.1 hc with h | h
    · exact iha h
    · exact ihb h

/-- A pattern takes the longest of its matches at the front of a text, and something is left. -/
structure Longest (a : Pattern) (cs lexeme rest : List Char) : Prop where
  split : cs = lexeme ++ rest
  spelled : a.Matches lexeme
  longest : ∀ other left, cs = other ++ left → a.Matches other → other.length ≤ lexeme.length

/-- There is only one longest match. -/
theorem Longest.unique {a : Pattern} {cs lexeme rest lexeme' rest' : List Char}
    (h : a.Longest cs lexeme rest) (h' : a.Longest cs lexeme' rest') : lexeme = lexeme' ∧ rest = rest' := by
  have hl : lexeme.length = lexeme'.length :=
    Nat.le_antisymm (h'.longest _ _ h.split h.spelled) (h.longest _ _ h'.split h'.spelled)
  exact List.append_inj (h.split.symm.trans h'.split) hl

theorem Longest.exists_cons {a : Pattern} {cs lexeme rest : List Char} (h : a.Longest cs lexeme rest)
    (hn : a.nullable = false) : ∃ c left, cs = c :: left ∧ a.starts c := by
  have hne : lexeme ≠ [] := by
    intro he
    rw [nullable_of_matches h.spelled he] at hn
    exact absurd hn (by decide)
  obtain ⟨c, left, rfl⟩ := List.exists_cons_of_ne_nil hne
  exact ⟨c, left ++ rest, h.split, starts_of_matches h.spelled rfl⟩

/-- What comes behind a text changes nothing if no match reaches beyond the text. -/
theorem Longest.append {a : Pattern} {cs lexeme rest : List Char} (h : a.Longest cs lexeme rest)
    (hends : ∀ s, a.Matches (cs ++ s) → s = []) (more : List Char) :
    a.Longest (cs ++ more) lexeme (rest ++ more) := by
  refine ⟨by rw [h.split, List.append_assoc], h.spelled, fun other left ho hm => ?_⟩
  rcases List.append_eq_append_iff.1 ho with ⟨s, rfl, -⟩ | ⟨s, hs, -⟩
  · obtain rfl := hends s hm
    exact h.longest _ [] (by simp) hm
  · exact h.longest other s hs hm

/-- A character behind a match that no match may hold keeps what comes later away. -/
theorem Longest.append_of_mentions {a : Pattern} {cs lexeme rest : List Char} (h : a.Longest cs lexeme rest)
    {c : Char} (hc : c ∈ rest) (hm : a.mentions c = false) (more : List Char) :
    a.Longest (cs ++ more) lexeme (rest ++ more) := by
  refine h.append (fun s hs => ?_) more
  have hmem : c ∈ cs ++ s := by simp [h.split, hc]
  rw [mentions_of_matches hs hmem] at hm
  cases hm

/-- No match of a pattern is the front of another one, so a match ends at the same place whatever follows it. -/
def SelfDelimiting (a : Pattern) : Prop :=
  ∀ s t rest left, a.Matches s → a.Matches t → s ++ rest = t ++ left → s = t

/-- A match that delimits itself is the longest one in front of any rest. -/
theorem SelfDelimiting.longest {a : Pattern} (ha : a.SelfDelimiting) {lexeme : List Char}
    (h : a.Matches lexeme) (rest : List Char) : a.Longest (lexeme ++ rest) lexeme rest :=
  ⟨rfl, h, fun other left ho hm => Nat.le_of_eq (congrArg List.length (ha other lexeme left rest hm h ho.symm))⟩

theorem one_selfDelimiting (p : Char → Bool) : (Pattern.one p).SelfDelimiting := by
  intro s t rest left hs ht h
  obtain ⟨c, -, rfl⟩ := matches_one_iff.1 hs
  obtain ⟨d, -, rfl⟩ := matches_one_iff.1 ht
  rw [(List.cons.inj h).1]

theorem longest_one_iff {p : Char → Bool} {cs lexeme rest : List Char} :
    (Pattern.one p).Longest cs lexeme rest ↔ ∃ c, p c ∧ lexeme = [c] ∧ cs = c :: rest := by
  constructor
  · intro h
    obtain ⟨c, hc, rfl⟩ := matches_one_iff.1 h.spelled
    exact ⟨c, hc, rfl, h.split⟩
  · rintro ⟨c, hc, rfl, rfl⟩
    exact (one_selfDelimiting p).longest (.one hc) rest

/-- The longest row of characters of a class is a run. -/
theorem longest_plus_one_iff {p : Char → Bool} {cs lexeme rest : List Char} :
    (Pattern.plus (.one p)).Longest cs lexeme rest ↔ run? p cs = some (lexeme, rest) := by
  have hlongest {taken left : List Char} (h : run? p cs = some (taken, left)) :
      (Pattern.plus (.one p)).Longest cs taken left := by
    obtain ⟨hs, hne, hp, -⟩ := run?_eq_some_iff.1 h
    refine ⟨hs, matches_plus_one_iff.2 ⟨hne, hp⟩, fun other left' ho hm => ?_⟩
    obtain ⟨hne', hp'⟩ := matches_plus_one_iff.1 hm
    obtain ⟨taken', rest', hrun, hle, -⟩ := exists_run?_append left' hne' hp'
    rw [← ho, h, Option.some.injEq, Prod.mk.injEq] at hrun
    rwa [← hrun.1] at hle
  constructor
  · intro h
    obtain ⟨hne, hp⟩ := matches_plus_one_iff.1 h.spelled
    obtain ⟨taken, left, hrun, -⟩ := exists_run?_append rest hne hp
    rw [← h.split] at hrun
    obtain ⟨rfl, rfl⟩ := h.unique (hlongest hrun)
    exact hrun
  · exact hlongest

end Pattern

end StructuredQuery.Query
