/-!
The longest row of characters of a class at the front of a text. It is determined by three facts: nothing
is lost, all its characters are of the class, and what is left does not start with one.
-/

namespace StructuredQuery.Text

/-- The longest row of characters of a class at the front of a text, if it is not empty, and what is
left. -/
def run? (p : Char → Bool) (cs : List Char) : Option (List Char × List Char) :=
  match cs.takeWhile p with
  | [] => none
  | c :: rest => some (c :: rest, cs.dropWhile p)

/-- No character of a class comes first. -/
def Stops (p : Char → Bool) (cs : List Char) : Prop :=
  ∀ c ∈ cs.head?, p c = false

theorem stops_nil (p : Char → Bool) : Stops p [] := by
  simp [Stops]

theorem stops_cons {p : Char → Bool} {c : Char} {rest : List Char} :
    Stops p (c :: rest) ↔ p c = false := by
  simp [Stops]

theorem stops_dropWhile (p : Char → Bool) (cs : List Char) : Stops p (cs.dropWhile p) := by
  induction cs with
  | nil => exact stops_nil p
  | cons c rest ih =>
    rw [List.dropWhile_cons]
    split
    · exact ih
    · next h => exact stops_cons.2 (by simpa using h)

theorem dropWhile_of_stops {p : Char → Bool} {cs : List Char} (h : Stops p cs) :
    cs.dropWhile p = cs := by
  cases cs with
  | nil => rfl
  | cons c rest => simp [stops_cons.1 h]

/-- Characters of a class are taken up to where it stops. -/
theorem takeWhile_append_of_stops {p : Char → Bool} {taken rest : List Char}
    (ht : ∀ c ∈ taken, p c) (hr : Stops p rest) : (taken ++ rest).takeWhile p = taken := by
  induction taken with
  | nil =>
    cases rest with
    | nil => rfl
    | cons c rest => simp [stops_cons.1 hr]
  | cons c taken ih =>
    simp only [List.mem_cons, forall_eq_or_imp] at ht
    simp [ht.1, ih ht.2]

theorem dropWhile_append_of_stops {p : Char → Bool} {taken rest : List Char}
    (ht : ∀ c ∈ taken, p c) (hr : Stops p rest) : (taken ++ rest).dropWhile p = rest := by
  induction taken with
  | nil => exact dropWhile_of_stops hr
  | cons c taken ih =>
    simp only [List.mem_cons, forall_eq_or_imp] at ht
    simp [ht.1, ih ht.2]

/-- Two rows of characters of a class, with none of the class behind them, are the same if the whole texts are. -/
theorem eq_of_append {p : Char → Bool} {w u rest rest' : List Char} (hw : ∀ c ∈ w, p c) (hu : ∀ c ∈ u, p c)
    (hr : Stops p rest) (hr' : Stops p rest') (h : w ++ rest = u ++ rest') : w = u := by
  calc
    w = (w ++ rest).takeWhile p := (takeWhile_append_of_stops hw hr).symm
    _ = (u ++ rest').takeWhile p := by rw [h]
    _ = u := takeWhile_append_of_stops hu hr'

/-- A run is all that a text begins with of a class of characters, and not empty. -/
theorem run?_eq_some_iff {p : Char → Bool} {cs taken rest : List Char} :
    run? p cs = some (taken, rest) ↔
      cs = taken ++ rest ∧ taken ≠ [] ∧ (∀ c ∈ taken, p c) ∧ Stops p rest := by
  constructor
  · intro h
    have hs : cs.takeWhile p ++ cs.dropWhile p = cs := List.takeWhile_append_dropWhile
    have hp : ∀ c ∈ cs.takeWhile p, p c := by
      intro c hc
      exact List.all_eq_true.1 List.all_takeWhile c hc
    unfold run? at h
    split at h
    · simp at h
    · next c rest' ht =>
      obtain ⟨rfl, rfl⟩ : c :: rest' = taken ∧ cs.dropWhile p = rest := by simpa using h
      rw [ht] at hs hp
      exact ⟨hs.symm, by simp, hp, stops_dropWhile p cs⟩
  · rintro ⟨rfl, hne, ht, hr⟩
    cases taken with
    | nil => exact absurd rfl hne
    | cons c taken =>
      rw [run?, takeWhile_append_of_stops ht hr, dropWhile_append_of_stops ht hr]

/-- A row of characters of a class is a run if the next one is of another class. -/
theorem run?_append {p : Char → Bool} {taken rest : List Char} (hne : taken ≠ [])
    (ht : ∀ c ∈ taken, p c) (hr : Stops p rest) : run? p (taken ++ rest) = some (taken, rest) :=
  run?_eq_some_iff.2 ⟨rfl, hne, ht, hr⟩

/-- A row of characters of a class at the front of a text is part of the longest one. -/
theorem exists_run?_append {p : Char → Bool} {ds : List Char} (left : List Char) (hne : ds ≠ [])
    (hd : ∀ c ∈ ds, p c) :
    ∃ taken rest, run? p (ds ++ left) = some (taken, rest) ∧ ds.length ≤ taken.length ∧
      rest.length ≤ left.length := by
  have hrun : run? p (ds ++ left) = some (ds ++ left.takeWhile p, left.dropWhile p) := by
    refine run?_eq_some_iff.2 ⟨?_, by simp [hne], ?_, stops_dropWhile p left⟩
    · rw [List.append_assoc, List.takeWhile_append_dropWhile]
    · intro c hc
      rcases List.mem_append.1 hc with h | h
      · exact hd c h
      · exact List.all_eq_true.1 List.all_takeWhile c h
  exact ⟨_, _, hrun, by simp, (List.dropWhile_suffix p).length_le⟩

theorem suffix_of_run? {p : Char → Bool} {cs taken rest : List Char} (h : run? p cs = some (taken, rest)) :
    rest <:+ cs := by
  obtain ⟨rfl, -⟩ := run?_eq_some_iff.1 h
  exact List.suffix_append taken rest

theorem length_of_run? {p : Char → Bool} {cs taken rest : List Char}
    (h : run? p cs = some (taken, rest)) : rest.length < cs.length := by
  obtain ⟨rfl, hne, -⟩ := run?_eq_some_iff.1 h
  have := List.length_pos_iff.2 hne
  simp only [List.length_append]
  omega

theorem length_dropWhile_le (p : Char → Bool) (cs : List Char) :
    (cs.dropWhile p).length ≤ cs.length :=
  (List.dropWhile_suffix p).length_le

end StructuredQuery.Text
