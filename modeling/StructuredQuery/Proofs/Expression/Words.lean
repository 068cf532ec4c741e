import StructuredQuery.Proofs.Query.Grammar

/-!
The words of a text, and the rule of `near`. A text has several words if a blank is left in it when the blanks at its
ends are taken off; `near` asks for a space anywhere in it.
-/

namespace StructuredQuery

namespace Text

/-- The words of a text: the pieces between its blanks that are not empty, and so its longest runs of characters
that are not blank. -/
def words (s : List Char) : List (List Char) :=
  (s.splitOnP isBlank).filter fun piece => !piece.isEmpty

/-- The words on the two sides of a blank are those of the whole text. -/
theorem words_append_blank {c : Char} (hc : isBlank c) (before after : List Char) :
    words (before ++ c :: after) = words before ++ words after := by
  rw [words, List.splitOnP_append_cons before after hc, List.filter_append]
  rfl

/-- A row without blanks is one word. -/
theorem words_of_not_blank {s : List Char} (h : ∀ c ∈ s, isBlank c = false) (hne : s ≠ []) : words s = [s] := by
  rw [words, List.splitOnP_eq_singleton h, List.filter_singleton, List.isEmpty_eq_false_iff.2 hne]
  rfl

/-- Only a text of blanks has no words. -/
theorem words_eq_nil_iff {s : List Char} : words s = [] ↔ ∀ c ∈ s, isBlank c := by
  by_cases h : ∃ c ∈ s, isBlank c
  · obtain ⟨c, hm, hc⟩ := h
    obtain ⟨before, after, rfl⟩ := List.append_of_mem hm
    rw [words_append_blank hc, List.append_eq_nil_iff, words_eq_nil_iff, words_eq_nil_iff]
    simp [hc, or_imp, forall_and]
  · cases s with
    | nil => simp [words]
    | cons c rest =>
      have hnone : ∀ d ∈ c :: rest, isBlank d = false := by simpa using h
      rw [words_of_not_blank hnone (List.cons_ne_nil c rest)]
      simp [hnone c List.mem_cons_self]
termination_by s.length

/-- Blanks at the ends of a text do not change its words. -/
theorem words_append_blanks {before after : List Char} (s : List Char) (hb : ∀ c ∈ before, isBlank c)
    (ha : ∀ c ∈ after, isBlank c) : words (before ++ s ++ after) = words s := by
  have hbehind (s : List Char) : words (s ++ after) = words s := by
    cases after with
    | nil => rw [List.append_nil]
    | cons c after =>
      rw [List.forall_mem_cons] at ha
      rw [words_append_blank ha.1, words_eq_nil_iff.2 ha.2, List.append_nil]
  rw [hbehind]
  cases before using List.reverseRecOn with
  | nil => rfl
  | append_singleton before c =>
    rw [List.forall_mem_append] at hb
    rw [List.append_assoc, List.singleton_append, words_append_blank (hb.2 c List.mem_cons_self),
      words_eq_nil_iff.2 hb.1, List.nil_append]

/-- What is trimmed off a text are blanks at its two ends. -/
theorem exists_trim_append (s : List Char) :
    ∃ before after, s = before ++ trim s ++ after ∧ (∀ c ∈ before, isBlank c) ∧ ∀ c ∈ after, isBlank c := by
  have hall {cs : List Char} {c : Char} (h : c ∈ cs.takeWhile isBlank) : isBlank c :=
    List.all_eq_true.1 List.all_takeWhile c h
  have hend (cs : List Char) : cs = trimEnd cs ++ (cs.reverse.takeWhile isBlank).reverse := by
    rw [trimEnd, ← List.reverse_append, List.takeWhile_append_dropWhile, List.reverse_reverse]
  refine ⟨s.takeWhile isBlank, ((s.dropWhile isBlank).reverse.takeWhile isBlank).reverse, ?_, fun _ => hall,
    fun c hc => hall (List.mem_reverse.1 hc)⟩
  rw [trim, List.append_assoc, ← hend, List.takeWhile_append_dropWhile]

/-- A trimmed text does not end with a blank. -/
theorem stops_reverse_trim (s : List Char) : Stops isBlank (trim s).reverse := by
  rw [trim, trimEnd, List.reverse_reverse]
  exact stops_dropWhile _ _

/-- Before a blank in a text that does not begin with one stands something else. -/
theorem exists_of_stops {front behind : List Char} {c : Char} (h : Stops isBlank (front ++ c :: behind))
    (hc : isBlank c) : ∃ d ∈ front, isBlank d = false := by
  cases front with
  | nil =>
    rw [List.nil_append, stops_cons, hc] at h
    cases h
  | cons d front => exact ⟨d, List.mem_cons_self, stops_cons.1 h⟩

theorem words_ne_nil {s : List Char} (h : ∃ c ∈ s, isBlank c = false) : words s ≠ [] := by
  simpa [words_eq_nil_iff] using h

/-- A text has several words if a blank is left in it when it is trimmed. -/
theorem two_le_length_words_iff (s : List Char) : 2 ≤ (words s).length ↔ ∃ c ∈ trim s, isBlank c := by
  obtain ⟨before, after, hs, hb, ha⟩ := exists_trim_append s
  have hwords : words s = words (trim s) := by
    rw [hs, words_append_blanks _ hb ha, ← hs]
  rw [hwords]
  constructor
  · intro hlength
    by_contra hnone
    have hinner : ∀ c ∈ trim s, isBlank c = false := by simpa using hnone
    cases ht : trim s with
    | nil =>
      rw [ht] at hlength
      exact absurd hlength (by decide)
    | cons c rest =>
      rw [words_of_not_blank hinner (by simp [ht])] at hlength
      exact absurd hlength (by simp)
  · rintro ⟨c, hm, hc⟩
    obtain ⟨front, behind, ht⟩ := List.append_of_mem hm
    -- the blank is neither the first character nor the last one, so there are words on both of its sides
    have hfront := words_ne_nil (exists_of_stops (ht ▸ stops_trim s) hc)
    have hreverse : Stops isBlank (behind.reverse ++ c :: front.reverse) := by
      simpa [ht] using stops_reverse_trim s
    have hbehind := words_ne_nil (by simpa using exists_of_stops hreverse hc)
    rw [ht, words_append_blank hc, List.length_append]
    have := List.length_pos_iff.2 hfront
    have := List.length_pos_iff.2 hbehind
    omega

end Text

namespace Expression

open Text

/-- A text makes a `near` expression if there is a space in it, and is refused for its words if there is none. -/
theorem new_near_text (s : String) : new (.text "near") (.list [.text s]) =
    if ' ' ∈ s.toList then .ok ⟨.near, [], [⟨.text s, none⟩]⟩ else .error .multipleWordsRequired := by
  have hnew : new (.text "near") (.list [.text s]) =
      checkFields .near [⟨.text s, none⟩] >>= fun _ => .ok ⟨.near, [], [⟨.text s, none⟩]⟩ := by
    rfl
  have hcheck : checkFields .near [⟨.text s, none⟩] =
      if s.toList.contains ' ' then .ok () else .error .multipleWordsRequired := by
    rfl
  rw [hnew, hcheck]
  by_cases h : ' ' ∈ s.toList
  · rw [if_pos h, if_pos (List.contains_iff_mem.2 h)]
    rfl
  · rw [if_neg h, if_neg (mt List.contains_iff_mem.1 h)]
    rfl

/-- What `near` makes of a text, and where that is not what its words ask for. It takes a text with a space anywhere
in it and refuses any other. So it takes a text of fewer than two words just if there are spaces at its ends and no
blank between, and it refuses a text of several words just if all blanks between them are other ones than spaces. -/
theorem near_of_words (s : String) :
    (new (.text "near") (.list [.text s]) =
      if ' ' ∈ s.toList then .ok ⟨.near, [], [⟨.text s, none⟩]⟩ else .error .multipleWordsRequired) ∧
    ((∃ e, new (.text "near") (.list [.text s]) = .ok e) ∧ (words s.toList).length < 2 ↔
      ' ' ∈ s.toList ∧ ∀ c ∈ trim s.toList, isBlank c = false) ∧
    (new (.text "near") (.list [.text s]) = .error .multipleWordsRequired ∧ 2 ≤ (words s.toList).length ↔
      ' ' ∉ s.toList ∧ ∃ c ∈ trim s.toList, isBlank c) := by
  have hfew : (words s.toList).length < 2 ↔ ∀ c ∈ trim s.toList, isBlank c = false := by
    rw [← Nat.not_le, two_le_length_words_iff]
    simp
  refine ⟨new_near_text s, ?_, ?_⟩
  · rw [new_near_text, hfew]
    split_ifs with h <;> simp [h]
  · rw [new_near_text, two_le_length_words_iff]
    split_ifs with h <;> simp [h]

/-- Two words with a tab between them are refused, and one word with a space behind it is taken. -/
theorem near_misjudges_words :
    new (.text "near") (.list [.text "teenage\tvampire"]) = .error .multipleWordsRequired ∧
      (words "teenage\tvampire".toList).length = 2 ∧
      new (.text "near") (.list [.text "vampire "]) = .ok ⟨.near, [], [⟨.text "vampire ", none⟩]⟩ ∧
      (words "vampire ".toList).length = 1 := by
  exact ⟨rfl, by decide +kernel, rfl, by decide +kernel⟩

end Expression

end StructuredQuery
