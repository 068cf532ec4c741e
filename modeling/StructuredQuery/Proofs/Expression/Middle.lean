import StructuredQuery.Proofs.Expression.Equal

/-!
One condition among others. What comes before and behind a condition gives the same options and fields
whatever stands between, so an expression depends on the condition only through the option or field that it
gives itself.
-/

namespace StructuredQuery

def Operator.takes (operator : Operator) (key : String) : Bool :=
  (OptionName.ofText? key).any operator.accepted.contains

theorem Operator.takes_of_ofText? {key : String} (h : OptionName.ofText? key = none) (operator : Operator) :
    operator.takes key = false := by
  rw [takes, h]
  rfl

namespace Expression

def unnamedOf (conditions : List Condition) : Except Error (List FieldValue) := do
  return (← (conditions.filterMap Condition.positional?).mapM id).filterMap id

def namedOf (operator : Operator) (conditions : List Condition) : Except Error (List FieldValue) :=
  (conditions.filterMap (Condition.namedField? operator)).mapM id

/-- What the conditions before and behind a place give: fields without a name and named ones. -/
structure Surroundings (operator : Operator) (before after : List Condition)
    (ub ua nb na : List FieldValue) : Prop where
  unnamedBefore : unnamedOf before = .ok ub
  unnamedAfter : unnamedOf after = .ok ua
  namedBefore : namedOf operator before = .ok nb
  namedAfter : namedOf operator after = .ok na

/-- The surroundings of a condition determine their fields. -/
theorem Surroundings.unique {operator : Operator} {before after : List Condition}
    {ub ua nb na ub' ua' nb' na' : List FieldValue} (h : Surroundings operator before after ub ua nb na)
    (h' : Surroundings operator before after ub' ua' nb' na') : ub = ub' ∧ ua = ua' ∧ nb = nb' ∧ na = na' :=
  ⟨Except.ok.inj (h.unnamedBefore.symm.trans h'.unnamedBefore),
    Except.ok.inj (h.unnamedAfter.symm.trans h'.unnamedAfter),
    Except.ok.inj (h.namedBefore.symm.trans h'.namedBefore),
    Except.ok.inj (h.namedAfter.symm.trans h'.namedAfter)⟩

/-- Fields without a name are gathered from left to right. -/
theorem unnamedOf_append_eq_ok {before after : List Condition} {us : List FieldValue}
    (h : unnamedOf (before ++ after) = .ok us) :
    ∃ ub ua, unnamedOf before = .ok ub ∧ unnamedOf after = .ok ua ∧ us = ub ++ ua := by
  rw [unnamedOf, List.filterMap_append, List.mapM_append] at h
  obtain ⟨found, hfound, h⟩ := bind_eq_ok_iff.1 h
  obtain ⟨bs, hb, hfound⟩ := bind_eq_ok_iff.1 hfound
  obtain ⟨as, ha, hfound⟩ := bind_eq_ok_iff.1 hfound
  obtain rfl := Except.ok.inj hfound
  obtain rfl := Except.ok.inj h
  refine ⟨bs.filterMap id, as.filterMap id, ?_, ?_, List.filterMap_append⟩
  · rw [unnamedOf, hb]
    rfl
  · rw [unnamedOf, ha]
    rfl

/-- Named fields are gathered from left to right. -/
theorem namedOf_append_eq_ok {operator : Operator} {before after : List Condition} {ns : List FieldValue}
    (h : namedOf operator (before ++ after) = .ok ns) :
    ∃ nb na, namedOf operator before = .ok nb ∧ namedOf operator after = .ok na ∧ ns = nb ++ na := by
  rw [namedOf, List.filterMap_append, List.mapM_append] at h
  obtain ⟨nb, hb, h⟩ := bind_eq_ok_iff.1 h
  obtain ⟨na, ha, h⟩ := bind_eq_ok_iff.1 h
  exact ⟨nb, na, hb, ha, (Except.ok.inj h).symm⟩

/-- A named pair gives its field, unless the operator takes it for an option. -/
theorem namedOf_named (operator : Operator) (key : String) (v : Value) (candidate : Except Error FieldValue) :
    namedOf operator [.named key v candidate] =
      if (OptionName.ofText? key).any operator.accepted.contains then .ok [] else candidate.map ([·]) := by
  rw [namedOf, List.filterMap_cons, List.filterMap_nil, Condition.namedField?]
  by_cases htaken : (OptionName.ofText? key).any operator.accepted.contains
  · simp only [htaken, if_true]
    rfl
  · rw [if_neg htaken, if_neg htaken]
    cases candidate <;> rfl

/-- The fields of a row of conditions with one in the middle. -/
theorem exists_surroundings {operator : Operator} {before after : List Condition} {c : Condition}
    {fs : List FieldValue} (h : fieldsOf operator (before ++ c :: after) = .ok fs) :
    ∃ ub ua nb na um nm, Surroundings operator before after ub ua nb na ∧ unnamedOf [c] = .ok um ∧
      namedOf operator [c] = .ok nm ∧ fs = (ub ++ (um ++ ua)) ++ (nb ++ (nm ++ na)) := by
  have hsplit : fieldsOf operator (before ++ c :: after) =
      unnamedOf (before ++ ([c] ++ after)) >>= fun us =>
        namedOf operator (before ++ ([c] ++ after)) >>= fun ns => pure (us ++ ns) := by
    rw [fieldsOf, unnamedOf, namedOf, bind_assoc]
    rfl
  rw [hsplit] at h
  obtain ⟨us, hu, h⟩ := bind_eq_ok_iff.1 h
  obtain ⟨ns, hn, h⟩ := bind_eq_ok_iff.1 h
  obtain ⟨ub, _, hub, hu', rfl⟩ := unnamedOf_append_eq_ok hu
  obtain ⟨um, ua, hum, hua, rfl⟩ := unnamedOf_append_eq_ok hu'
  obtain ⟨nb, _, hnb, hn', rfl⟩ := namedOf_append_eq_ok hn
  obtain ⟨nm, na, hnm, hna, rfl⟩ := namedOf_append_eq_ok hn'
  exact ⟨ub, ua, nb, na, um, nm, ⟨hub, hua, hnb, hna⟩, hum, hnm, (Except.ok.inj h).symm⟩

section Middle

variable {operator : Operator} {before after : List Condition} {e e' : Expression} {key : String}

/-- A named pair with the name of no option counts only through its field. -/
theorem ofConditions_named_congr (hk : OptionName.ofText? key = none) (v v' : Value)
    (candidate : Except Error FieldValue) :
    ofConditions operator (before ++ .named key v candidate :: after) =
      ofConditions operator (before ++ .named key v' candidate :: after) := by
  have hnone (w : Value) (name : OptionName) : Condition.valueOf? name (.named key w candidate) = none := by
    simp [Condition.valueOf?, hk]
  have hnamed (w : Value) : namedOption (before ++ .named key w candidate :: after) =
      namedOption (before ++ after) := by
    funext name
    simp only [namedOption, List.findSome?_append, List.findSome?_cons, hnone]
  have hoptions : optionsOf operator (before ++ .named key v candidate :: after) =
      optionsOf operator (before ++ .named key v' candidate :: after) := by
    simp only [optionsOf, hnamed, List.filterMap_append, List.filterMap_cons, Condition.option?]
  have hfields : fieldsOf operator (before ++ .named key v candidate :: after) =
      fieldsOf operator (before ++ .named key v' candidate :: after) := by
    simp only [fieldsOf, List.filterMap_append, List.filterMap_cons, Condition.positional?,
      Condition.namedField?]
  rw [ofConditions, ofConditions, hoptions, hfields]

/-- A pair that is taken for a field must give one. -/
theorem exists_field_of_named (hk : operator.takes key = false) {v : Value} {candidate : Except Error FieldValue}
    (h : ofConditions operator (before ++ .named key v candidate :: after) = .ok e) : ∃ f, candidate = .ok f := by
  obtain ⟨_, _, _, _, _, _, -, -, hn, -⟩ := exists_surroundings (fieldsOf_of_ofConditions h)
  rw [namedOf_named, if_neg (by simpa [Operator.takes] using hk)] at hn
  obtain ⟨f, hf, -⟩ := map_eq_ok_iff.1 hn
  exact ⟨f, hf⟩

/-- A named pair that is no option must give a field, and counts through it alone. -/
theorem ofConditions_named_iff (hk : OptionName.ofText? key = none) {v : Value}
    {candidate : Except Error FieldValue} :
    ofConditions operator (before ++ .named key v candidate :: after) = .ok e ↔
      ∃ f, candidate = .ok f ∧ ofConditions operator (before ++ .named key .null (.ok f) :: after) = .ok e := by
  cases candidate with
  | ok f => simp [ofConditions_named_congr hk v .null]
  | error err =>
    simp only [reduceCtorEq, false_and, exists_false, iff_false]
    intro h
    obtain ⟨f, hf⟩ := exists_field_of_named (Operator.takes_of_ofText? hk operator) h
    cases hf

/-- A value without a name counts through the field that it gives, if any. -/
theorem ofConditions_positional_iff {candidate : Except Error (Option FieldValue)} :
    ofConditions operator (before ++ .positional candidate :: after) = .ok e ↔
      ∃ found, candidate = .ok found ∧
        ofConditions operator (before ++ .positional (.ok found) :: after) = .ok e := by
  cases candidate with
  | ok found => simp
  | error err =>
    simp only [reduceCtorEq, false_and, exists_false, iff_false]
    intro h
    obtain ⟨_, _, _, _, _, _, -, hu, -, -⟩ := exists_surroundings (fieldsOf_of_ofConditions h)
    cases hu

/-- A pair that the operator takes for an option counts only through the option. -/
theorem ofConditions_option_congr (hk : operator.takes key) {v v' : Value}
    (hv : ∀ name, OperatorOption.new (.optionName name) v = OperatorOption.new (.optionName name) v')
    (candidate candidate' : Except Error FieldValue) :
    ofConditions operator (before ++ .named key v candidate :: after) =
      ofConditions operator (before ++ .named key v' candidate' :: after) := by
  have hnamed : namedOption (before ++ .named key v candidate :: after) =
      namedOption (before ++ .named key v' candidate' :: after) := by
    funext name
    simp only [namedOption, List.findSome?_append, List.findSome?_cons, Condition.valueOf?]
    cases before.findSome? (Condition.valueOf? name) with
    | some _ => rfl
    | none =>
      -- the pair is the first of its key
      by_cases hname : OptionName.ofText? key = some name
      · simpa [hname] using hv name
      · simp [hname]
  have hfield (w : Value) (c : Except Error FieldValue) :
      Condition.namedField? operator (.named key w c) = none := if_pos hk
  have hoptions : optionsOf operator (before ++ .named key v candidate :: after) =
      optionsOf operator (before ++ .named key v' candidate' :: after) := by
    simp only [optionsOf, hnamed, List.filterMap_append, List.filterMap_cons, Condition.option?]
  have hfields : fieldsOf operator (before ++ .named key v candidate :: after) =
      fieldsOf operator (before ++ .named key v' candidate' :: after) := by
    simp only [fieldsOf, List.filterMap_append, List.filterMap_cons, Condition.positional?, hfield]
  rw [ofConditions, ofConditions, hoptions, hfields]

/-- Expressions whose nested expressions in one place are apart are apart. -/
theorem apart_of_nested {inner inner' : Expression} (hi : inner.Apart inner')
    (hk : OptionName.ofText? key = none)
    (h : ofConditions operator (before ++ .named key .null (.ok ⟨.expression inner, none⟩) :: after) = .ok e)
    (h' : ofConditions operator (before ++ .named key .null (.ok ⟨.expression inner', none⟩) :: after) =
      .ok e') : e.Apart e' := by
  have hnamed (f : FieldValue) : namedOf operator [.named key .null (.ok f)] = .ok [f] := by
    rw [namedOf_named, hk]
    rfl
  obtain ⟨ub, ua, nb, na, um, nm, hs, hum, hnm, hf⟩ := exists_surroundings (fieldsOf_of_ofConditions h)
  obtain ⟨_, _, _, _, um', nm', hs', hum', hnm', hf'⟩ := exists_surroundings (fieldsOf_of_ofConditions h')
  obtain ⟨rfl, rfl, rfl, rfl⟩ := hs.unique hs'
  obtain rfl : [] = um := Except.ok.inj hum
  obtain rfl : [] = um' := Except.ok.inj hum'
  obtain rfl := Except.ok.inj ((hnamed _).symm.trans hnm)
  obtain rfl := Except.ok.inj ((hnamed _).symm.trans hnm')
  have hfields : e.fields = (ub ++ ua ++ nb) ++ ⟨.expression inner, none⟩ :: na := by simpa using hf
  have hfields' : e'.fields = (ub ++ ua ++ nb) ++ ⟨.expression inner', none⟩ :: na := by simpa using hf'
  exact .nested hfields hfields' rfl hi

/-- Where one condition gives an interval without a name and the other one does not, the expressions are
apart. -/
theorem apart_of_interval {v : Value} {candidate : Except Error FieldValue} {r : Interval}
    (hc : ∀ f, candidate = .ok f → f.isOpenInterval = false)
    (h : ofConditions operator (before ++ .named key v candidate :: after) = .ok e)
    (h' : ofConditions operator (before ++ .positional (.ok (some ⟨.range r, none⟩)) :: after) = .ok e') :
    e.Apart e' := by
  obtain ⟨ub, ua, nb, na, um, nm, hs, hum, hnm, hf⟩ := exists_surroundings (fieldsOf_of_ofConditions h)
  obtain ⟨_, _, _, _, um', nm', hs', hum', hnm', hf'⟩ := exists_surroundings (fieldsOf_of_ofConditions h')
  obtain ⟨rfl, rfl, rfl, rfl⟩ := hs.unique hs'
  obtain rfl : [] = um := Except.ok.inj hum
  obtain rfl : [] = nm' := Except.ok.inj hnm'
  obtain rfl : [⟨.range r, none⟩] = um' := Except.ok.inj hum'
  -- the pair is an option or gives a field that is no such interval
  have hnone : nm.countP FieldValue.isOpenInterval = 0 := by
    rw [namedOf_named] at hnm
    split at hnm
    · obtain rfl : [] = nm := Except.ok.inj hnm
      rfl
    · obtain ⟨f, hcandidate, rfl⟩ := map_eq_ok_iff.1 hnm
      simp [hc f hcandidate]
  have hopen : FieldValue.isOpenInterval ⟨.range r, none⟩ = true := rfl
  apply Apart.here
  rw [openIntervals, openIntervals, hf, hf']
  simp only [List.countP_append, List.countP_nil, List.countP_cons, hnone, hopen, if_true]
  omega

end Middle

end Expression

end StructuredQuery
