import StructuredQuery.Proofs.Expression.Rules

/-!
Which bounds make an interval, and which one. Of the four arguments for two sides some must be given, and those
given must be of one family, also where one of them does not count. A pair of bounds makes the interval with these
bounds as the inclusive ones.
-/

namespace StructuredQuery

def Value.IsAbsent (v : Value) : Prop :=
  v = .null ∨ v = .text ""

/-- The values of a family. Truth values are no numbers, and neither are infinities and what is no number by name;
the names of operators and options are texts. -/
inductive Family.Contains : Family → Value → Prop
  | int (n : Int) : Contains .number (.int n)
  | float {x : Binary64} (h : x.isFinite) : Contains .number (.float x)
  | decimal {d : Decimal} (h : d.isFinite) : Contains .number (.decimal d)
  | timestamp (t : Timestamp) : Contains .timestamp (.timestamp t)
  | text (s : String) : Contains .text (.text s)
  | operator (o : Operator) : Contains .text (.operator o)
  | optionName (o : OptionName) : Contains .text (.optionName o)

/-- A bound is blank if it is not given. -/
theorem Value.isBlank_iff {v : Value} : v.isBlank ↔ v.IsAbsent := by
  cases v <;> simp [isBlank, IsAbsent]

/-- A bound is of the family that it belongs to. -/
theorem Value.family?_eq_some_iff {v : Value} {family : Family} :
    v.family? = some family ↔ family.Contains v := by
  constructor
  · intro h
    -- timestamps are looked for first, then numbers, then texts
    unfold family? at h
    split at h
    · exact Option.some.inj h ▸ .timestamp _
    · split at h
      · next hnumber =>
        obtain rfl := Option.some.inj h
        cases v with
        | int n => exact .int n
        | float x => exact .float hnumber
        | decimal d => exact .decimal hnumber
        | _ => cases hnumber
      · split at h
        · next htext =>
          obtain rfl := Option.some.inj h
          cases v with
          | text s => exact .text s
          | operator o => exact .operator o
          | optionName o => exact .optionName o
          | _ => cases htext
        · cases h
  · intro h
    cases h with
    | float h => simp [family?, isNumber, h]
    | decimal h => simp [family?, isNumber, h]
    | int | timestamp | text | operator | optionName => rfl

namespace Interval

def OneFamily (bounds : List Value) : Prop :=
  ∃ family : Family, ∀ v ∈ bounds, ¬v.IsAbsent → family.Contains v

/-- The bound on a side and whether it belongs to the interval, for the inclusive and the exclusive argument of the
side: the inclusive one if it is given, else the exclusive one, else nothing. -/
inductive SideOf (inclusive exclusive : Value) : Value → Bool → Prop
  | inclusive (hi : ¬inclusive.IsAbsent) : SideOf inclusive exclusive inclusive true
  | exclusive (hi : inclusive.IsAbsent) (he : ¬exclusive.IsAbsent) : SideOf inclusive exclusive exclusive false
  | missing (hi : inclusive.IsAbsent) (he : exclusive.IsAbsent) : SideOf inclusive exclusive .null false

theorem sideOf_side (inclusive exclusive : Value) :
    SideOf inclusive exclusive (side inclusive exclusive).1 (side inclusive exclusive).2 := by
  unfold side present
  by_cases hi : inclusive.isBlank
  · by_cases he : exclusive.isBlank
    · simpa [hi, he] using SideOf.missing (Value.isBlank_iff.1 hi) (Value.isBlank_iff.1 he)
    · simpa [hi, he] using SideOf.exclusive (Value.isBlank_iff.1 hi) (mt Value.isBlank_iff.2 he)
  · have hside : SideOf inclusive exclusive inclusive true := .inclusive (mt Value.isBlank_iff.2 hi)
    simpa [hi] using hside

theorem isBlank_eq_false_iff {v : Value} : v.isBlank = false ↔ ¬v.IsAbsent := by
  rw [← Value.isBlank_iff, Bool.not_eq_true]

/-- The check has three outcomes. -/
theorem check_cases (bounds : List Value) :
    check bounds = .ok () ∨ check bounds = .error .openRange ∨
      ∃ values, check bounds = .error (.rangeType values) := by
  unfold check
  dsimp only
  split
  · exact .inr (.inl rfl)
  · split
    · exact .inl rfl
    · exact .inr (.inr ⟨_, rfl⟩)

/-- Bounds are refused as missing if none is given. -/
theorem check_eq_openRange_iff {bounds : List Value} :
    check bounds = .error .openRange ↔ ∀ v ∈ bounds, v.IsAbsent := by
  have hblank : (bounds.filter fun v => !v.isBlank) = [] ↔ ∀ v ∈ bounds, v.IsAbsent := by
    simp [List.filter_eq_nil_iff, Value.isBlank_iff]
  rw [← hblank]
  unfold check
  dsimp only
  split
  · next h => simpa using List.map_eq_nil_iff.1 h
  · next h =>
    have hne : (bounds.filter fun v => !v.isBlank) ≠ [] := by
      intro hnil
      rw [hnil] at h
      cases h
    split <;> simp [hne]

/-- Bounds pass if some are given and all of these are of one family. -/
theorem check_eq_ok_iff {bounds : List Value} :
    check bounds = .ok () ↔ (∃ v ∈ bounds, ¬v.IsAbsent) ∧ OneFamily bounds := by
  constructor
  · intro h
    obtain ⟨⟨v, hv, hb⟩, family, hfamily⟩ := family_of_check h
    refine ⟨⟨v, hv, isBlank_eq_false_iff.1 hb⟩, family, fun w hw ha => ?_⟩
    exact Value.family?_eq_some_iff.1 (hfamily w hw (isBlank_eq_false_iff.2 ha))
  · rintro ⟨⟨v, hv, ha⟩, family, hfamily⟩
    refine check_eq_ok family ⟨v, hv, isBlank_eq_false_iff.2 ha⟩ fun w hw hb => ?_
    exact Value.family?_eq_some_iff.2 (hfamily w hw (isBlank_eq_false_iff.1 hb))

/-- What is neither accepted nor without any bound is refused for its families. -/
theorem check_eq_rangeType_iff {bounds : List Value} :
    (∃ values, check bounds = .error (.rangeType values)) ↔
      (∃ v ∈ bounds, ¬v.IsAbsent) ∧ ¬OneFamily bounds := by
  have hopen : check bounds = .error .openRange ↔ ¬∃ v ∈ bounds, ¬v.IsAbsent := by
    rw [check_eq_openRange_iff]
    push Not
    rfl
  constructor
  · rintro ⟨values, h⟩
    have hsome : ∃ v ∈ bounds, ¬v.IsAbsent := by
      by_contra hnone
      rw [hopen.2 hnone] at h
      cases h
    refine ⟨hsome, fun hfamily => ?_⟩
    rw [check_eq_ok_iff.2 ⟨hsome, hfamily⟩] at h
    cases h
  · rintro ⟨hsome, hfamily⟩
    rcases check_cases bounds with h | h | h
    · exact absurd (check_eq_ok_iff.1 h).2 hfamily
    · exact absurd hsome (hopen.1 h)
    · exact h

variable {lower lowerExclusive upper upperExclusive : Value}

/-- A description is refused by the check and by nothing else. -/
theorem ofDescriptor_eq_error_iff {e : Error} :
    ofDescriptor lower lowerExclusive upper upperExclusive = .error e ↔
      check [lower, lowerExclusive, upper, upperExclusive] = .error e := by
  rw [ofDescriptor, bind_eq_error_iff]
  constructor
  · rintro (h | ⟨_, -, h⟩)
    · exact h
    · cases h
  · exact .inl

theorem exists_ofDescriptor_iff : (∃ r, ofDescriptor lower lowerExclusive upper upperExclusive = .ok r) ↔
    check [lower, lowerExclusive, upper, upperExclusive] = .ok () := by
  constructor
  · rintro ⟨r, h⟩
    exact (ofDescriptor_eq_ok h).1
  · intro h
    rw [ofDescriptor, h]
    exact ⟨_, rfl⟩

/-- Without any bound no interval is made, nor with bounds of several families or of none, and these are the only
refusals. Otherwise each side of the interval holds its inclusive argument, if it is given, or else its exclusive
one, and one of them is there. The interval between two bounds, given apart or as a pair, is the one with these as
the inclusive bounds. -/
theorem ofDescriptor_exact :
    (∀ lower lowerExclusive upper upperExclusive : Value,
      (ofDescriptor lower lowerExclusive upper upperExclusive = .error .openRange ↔
        ∀ v ∈ [lower, lowerExclusive, upper, upperExclusive], v.IsAbsent) ∧
      ((∃ values, ofDescriptor lower lowerExclusive upper upperExclusive = .error (.rangeType values)) ↔
        (∃ v ∈ [lower, lowerExclusive, upper, upperExclusive], ¬v.IsAbsent) ∧
          ¬OneFamily [lower, lowerExclusive, upper, upperExclusive]) ∧
      ((∃ r, ofDescriptor lower lowerExclusive upper upperExclusive = .ok r ∧
          SideOf lower lowerExclusive r.lower r.lowerInclusive ∧
          SideOf upper upperExclusive r.upper r.upperInclusive ∧ (r.lower ≠ .null ∨ r.upper ≠ .null)) ↔
        (∃ v ∈ [lower, lowerExclusive, upper, upperExclusive], ¬v.IsAbsent) ∧
          OneFamily [lower, lowerExclusive, upper, upperExclusive])) ∧
    ∀ lower upper : Value, ofBounds lower upper = ofDescriptor lower .null upper .null ∧
      ofValue (.tuple [lower, upper]) = ofDescriptor lower .null upper .null := by
  refine ⟨fun lower lowerExclusive upper upperExclusive => ⟨?_, ?_, ?_⟩, fun lower upper => ?_⟩
  · rw [ofDescriptor_eq_error_iff, check_eq_openRange_iff]
  · simp only [ofDescriptor_eq_error_iff, check_eq_rangeType_iff]
  · rw [← check_eq_ok_iff, ← exists_ofDescriptor_iff]
    -- the form of the interval follows from its being made, so it adds nothing to the condition
    refine exists_congr fun r => ⟨fun h => h.1, fun h => ⟨h, ?_⟩⟩
    have hbounded := (valid_of_ofDescriptor h).bounded
    obtain ⟨-, rfl⟩ := ofDescriptor_eq_ok h
    exact ⟨sideOf_side _ _, sideOf_side _ _, hbounded⟩
  · exact ⟨ofBounds_eq lower upper, ofBounds_eq lower upper⟩

/-- An exclusive bound that loses to the inclusive one is checked all the same. -/
example : ofDescriptor (.int 1990) (.text "star") .null (.int 2000) =
    .error (.rangeType [.int 1990, .text "star", .int 2000]) := rfl

end Interval

end StructuredQuery
