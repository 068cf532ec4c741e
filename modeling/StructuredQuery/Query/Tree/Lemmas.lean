import StructuredQuery.Query.Tree.Basic

/-!
Every part of a query text that is read takes at least one character. So the guards in the reading of
items always hold, and `items?_eq` states that reading without them.
-/

namespace StructuredQuery.Query

theorem length_closing? {cs rest : List Char} (h : closing? cs = some rest) :
    rest.length < cs.length := by
  unfold closing? at h
  split at h
  · obtain rfl : _ = rest := by simpa using h
    simp
  · simp at h

theorem length_opening? {cs operator rest : List Char} (h : opening? cs = some (operator, rest)) :
    rest.length < cs.length := by
  unfold opening? at h
  split at h
  · next left =>
    have h1 := Text.length_of_run? h
    have h2 := length_skipSpaces_le left
    simp only [List.length_cons]
    omega
  · simp at h

theorem length_scalar? {cs rest : List Char} {s : Scalar} (h : scalar? cs = some (s, rest)) :
    rest.length < cs.length := by
  unfold scalar? at h
  split at h
  · next body left hs =>
    obtain ⟨-, rfl⟩ : _ ∧ left = rest := by simpa using h
    unfold string? at hs
    split at hs
    · have := length_stringBody? hs
      simp only [List.length_cons]
      omega
    · simp at hs
  · simp only [Option.map_eq_some_iff, Prod.exists, Prod.mk.injEq] at h
    obtain ⟨n, left, hn, -, rfl⟩ := h
    exact NumberText.length_take? hn

theorem length_bound_le (cs : List Char) : (bound cs).2.length ≤ cs.length := by
  unfold bound
  split
  · next s rest h =>
    have h1 := length_scalar? h
    have h2 := length_skipSpaces_le rest
    simp only
    omega
  · exact Nat.le_refl _

theorem length_upperBound? {cs rest : List Char} {upper : Option Scalar} {inclusive : Bool}
    (h : upperBound? cs = some (upper, inclusive, rest)) : rest.length < cs.length := by
  unfold upperBound? at h
  split at h
  · next left =>
    have h1 := length_bound_le (skipSpaces left)
    have h2 := length_skipSpaces_le left
    split at h <;> simp only [Option.some.injEq, Prod.mk.injEq, reduceCtorEq] at h
    all_goals
      next hb =>
      obtain ⟨-, -, rfl⟩ := h
      rw [hb] at h1
      simp only [List.length_cons] at h1 ⊢
      omega
  · simp at h

theorem length_interval? {lowerInclusive : Bool} {cs rest : List Char} {term : Term}
    (h : interval? lowerInclusive cs = some (term, rest)) : rest.length < cs.length := by
  simp only [interval?, Option.map_eq_some_iff, Prod.exists, Prod.mk.injEq] at h
  obtain ⟨upper, inclusive, left, hu, -, rfl⟩ := h
  have h1 := length_upperBound? hu
  have h2 := length_bound_le (skipSpaces cs)
  have h3 := length_skipSpaces_le cs
  omega

theorem length_flatTerm? {cs rest : List Char} {term : Term}
    (h : flatTerm? cs = some (term, rest)) : rest.length < cs.length := by
  unfold flatTerm? at h
  split at h
  · have := length_interval? h
    simp only [List.length_cons]
    omega
  · have := length_interval? h
    simp only [List.length_cons]
    omega
  · simp only [Option.map_eq_some_iff, Prod.exists, Prod.mk.injEq] at h
    obtain ⟨s, left, hs, -, rfl⟩ := h
    exact length_scalar? hs

theorem length_head?_option {cs rest word : List Char} {name : OptionName}
    (h : head? cs = some (.option name word, rest)) : rest.length < cs.length := by
  unfold head? at h
  split at h
  · simp at h
  · next name' left hn =>
    have h1 := length_name? hn
    have h2 := length_skipSpaces_le left
    split at h
    · simp at h
    · next left' hl =>
      simp only [Option.bind_eq_bind, Option.bind_eq_some_iff, Prod.exists] at h
      obtain ⟨known, -, word', left'', hr, he⟩ := h
      obtain ⟨-, rfl⟩ : _ ∧ left'' = rest := by simpa using he
      have h3 := Text.length_of_run? hr
      have h4 := length_skipSpaces_le left'
      rw [hl] at h2
      simp only [List.length_cons] at h2
      omega
    · simp at h

theorem length_head?_field_le {cs rest : List Char} {name : Option (List Char)}
    (h : head? cs = some (.field name, rest)) : rest.length ≤ cs.length := by
  unfold head? at h
  split at h
  · obtain ⟨-, rfl⟩ : _ ∧ cs = rest := by simpa using h
    exact Nat.le_refl _
  · next name' left hn =>
    have h1 := length_name? hn
    have h2 := length_skipSpaces_le left
    split at h
    · next left' hl =>
      obtain ⟨-, rfl⟩ : _ ∧ skipSpaces left' = rest := by simpa using h
      have h3 := length_skipSpaces_le left'
      rw [hl] at h2
      simp only [List.length_cons] at h2
      omega
    · next left' hl =>
      simp only [Option.bind_eq_bind, Option.bind_eq_some_iff, Prod.exists] at h
      obtain ⟨known, -, word', left'', -, he⟩ := h
      simp at he
    · simp at h

theorem length_items? {cs rest : List Char} {items : List Item}
    (h : items? cs = some (items, rest)) : rest.length < cs.length := by
  -- the cases in which something is read: the closing bracket, an option, a flat field, a nested one
  fun_induction items? cs generalizing items rest with
  | case1 cs left hc =>
    obtain ⟨-, rfl⟩ : _ ∧ left = rest := by simpa using h
    have h1 := length_closing? hc
    have h2 := length_skipSpaces_le cs
    omega
  | case3 cs hc name word left hh hl ih =>
    simp only [Option.map_eq_some_iff, Prod.exists, Prod.mk.injEq] at h
    obtain ⟨more, left', hi, -, rfl⟩ := h
    have := ih hi
    omega
  | case5 cs hc name left hh term left' ht hl ih =>
    simp only [Option.map_eq_some_iff, Prod.exists, Prod.mk.injEq] at h
    obtain ⟨more, left'', hi, -, rfl⟩ := h
    have := ih hi
    omega
  | case9 cs hc name left hh ht operator left' ho hl nested left'' hn hl' ih ih' =>
    simp only [Option.map_eq_some_iff, Prod.exists, Prod.mk.injEq] at h
    obtain ⟨more, last, hi, -, rfl⟩ := h
    have := ih' hi
    omega
  | case2 | case4 | case6 | case7 | case8 | case10 | case11 => simp at h

/-- The items of an expression without the guards, which always hold. -/
theorem items?_eq (cs : List Char) :
    items? cs =
      match closing? (skipSpaces cs) with
      | some rest => some ([], rest)
      | none =>
        match head? (skipSpaces cs) with
        | none => none
        | some (.option name word, rest) =>
          (items? rest).map fun (items, rest) => (.option name word :: items, rest)
        | some (.field name, rest) =>
          match flatTerm? rest with
          | some (term, rest) =>
            (items? rest).map fun (items, rest) => (.field name term :: items, rest)
          | none =>
            match opening? rest with
            | none => none
            | some (operator, rest) =>
              match items? rest with
              | none => none
              | some (nested, rest) =>
                (items? rest).map fun (items, rest) =>
                  (.field name (.expression (.node operator nested)) :: items, rest) := by
  have hs := length_skipSpaces_le cs
  rw [items?]
  -- at each step what is left is shorter, so the guard of the recursion is true
  cases closing? (skipSpaces cs) with
  | some rest => rfl
  | none =>
    rcases hh : head? (skipSpaces cs) with _ | ⟨name | name, rest⟩
    · rfl
    · have := length_head?_option hh
      dsimp only
      rw [dif_pos (by omega)]
    · have h1 := length_head?_field_le hh
      dsimp only
      rcases ht : flatTerm? rest with _ | ⟨term, rest'⟩
      · dsimp only
        rcases ho : opening? rest with _ | ⟨operator, rest'⟩
        · rfl
        · have h2 := length_opening? ho
          dsimp only
          rw [dif_pos (by omega)]
          rcases hn : items? rest' with _ | ⟨nested, rest''⟩
          · rfl
          · have h3 := length_items? hn
            dsimp only
            rw [dif_pos (by omega)]
      · have h2 := length_flatTerm? ht
        dsimp only
        rw [dif_pos (by omega)]

end StructuredQuery.Query
