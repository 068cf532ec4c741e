import Mathlib.Tactic.ByContra
import StructuredQuery.Expression.Condition
import StructuredQuery.Proofs.Expression.Result

/-!
The rules of expressions. A rule is about one expression with its options and fields; it holds everywhere
in an expression if it holds of every expression in it, at any depth.
-/

namespace StructuredQuery

/-- A property of an expression and of all expressions that are nested in it. -/
inductive Expression.Everywhere (P : Expression → Prop) : Expression → Prop
  | intro (e : Expression) (here : P e)
      (nested : ∀ f ∈ e.fields, ∀ inner, f.value = .expression inner → Everywhere P inner) : Everywhere P e

/-- A property that holds everywhere holds of the expression itself. -/
theorem Expression.Everywhere.here {P : Expression → Prop} {e : Expression} (h : e.Everywhere P) : P e := by
  cases h
  assumption

/-- A property that holds everywhere holds of each expression in the fields. -/
theorem Expression.Everywhere.nested {P : Expression → Prop} {e : Expression} (h : e.Everywhere P) :
    ∀ f ∈ e.fields, ∀ inner, f.value = .expression inner → inner.Everywhere P := by
  cases h
  assumption

theorem Expression.Everywhere.imp {P Q : Expression → Prop} {e : Expression} (h : e.Everywhere P)
    (hpq : ∀ e, P e → Q e) : e.Everywhere Q := by
  induction h with
  | intro e here _ ih => exact .intro e (hpq e here) ih

theorem Expression.Everywhere.and {P Q : Expression → Prop} {e : Expression} (hp : e.Everywhere P)
    (hq : e.Everywhere Q) : e.Everywhere fun e => P e ∧ Q e := by
  induction hp with
  | intro e here _ ih =>
    exact .intro e ⟨here, hq.here⟩ fun f hf inner hi => ih f hf inner hi (hq.nested f hf inner hi)

/-- Some bound is there, all that are there are of one family, and none that is missing is inclusive. -/
structure Interval.Valid (r : Interval) : Prop where
  bounded : r.lower ≠ .null ∨ r.upper ≠ .null
  family : ∃ family, (r.lower ≠ .null → r.lower.family? = some family) ∧
    (r.upper ≠ .null → r.upper.family? = some family)
  lower : r.lowerInclusive → r.lower ≠ .null
  upper : r.upperInclusive → r.upper ≠ .null

/-- A valid interval whose bounds are missing or not blank, as every constructor gives it. -/
structure Interval.Sound (r : Interval) : Prop where
  valid : r.Valid
  lower : r.lower = .null ∨ r.lower.isBlank = false
  upper : r.upper = .null ∨ r.upper.isBlank = false

def OperatorOption.Valid (o : OperatorOption) : Prop :=
  ∃ word, o.value = some word ∧ Text.isWord word.toList

/-- A name that a field may have: none, or a text that is not empty and names no operator. -/
def IsFieldName (name : Option String) : Prop :=
  ∀ n, name = some n → n ≠ "" ∧ Operator.ofText? n = none

/-- What the operator of an expression demands of its options and fields. -/
structure Expression.Obeys (e : Expression) : Prop where
  some_field : e.fields ≠ []
  one_field : e.operator ≠ .and → e.operator ≠ .or → e.fields.length = 1
  near : e.operator = .near → ∀ f ∈ e.fields, ∃ s, f.value.text? = some s ∧ ' ' ∈ s.toList
  text : e.operator = .phrase ∨ e.operator = .beginning → ∀ f ∈ e.fields, ∃ s, f.value.text? = some s
  range : e.operator = .range → ∀ f ∈ e.fields,
    (∃ r, f.value = .range r) ∨ ∃ s, f.value.text? = some s ∧ Text.isRangeText s.toList
  options : ∀ o ∈ e.options, o.name ∈ e.operator.accepted ∧ o.Valid
  names : ∀ f ∈ e.fields, IsFieldName f.name
  intervals : ∀ f ∈ e.fields, ∀ r, f.value = .range r → r.Valid

/-- An expression as it is made: its fields passed the check, and its parts are valid. -/
structure Expression.Sound (e : Expression) : Prop where
  rules : checkFields e.operator e.fields = .ok ()
  options : ∀ o ∈ e.options, o.name ∈ e.operator.accepted ∧ o.Valid
  names : ∀ f ∈ e.fields, IsFieldName f.name
  intervals : ∀ f ∈ e.fields, ∀ r, f.value = .range r → r.Sound

theorem Value.isNull_of_ne_null {v : Value} (h : v ≠ .null) : v.isNull = false := by
  cases v <;> first | rfl | exact absurd rfl h

/-- The option of a known name is made of the word of the value. -/
theorem OperatorOption.new_optionName (name : OptionName) {v : Value} (hv : v ≠ .null) :
    new (.optionName name) v = v.word?.map fun word => word.map fun w => ⟨name, some w⟩ := by
  have hself : (Value.optionName name).optionName? = some name := OptionName.ofText?_text name
  rw [new, if_neg (by simp [Value.isNull_of_ne_null hv]), hself]
  · cases v.word? <;> rfl
  · simp

namespace Interval

/-- A bound that is not blank has a family, and all such bounds have the same. -/
theorem family_of_check {bounds : List Value} (h : check bounds = .ok ()) :
    (∃ v ∈ bounds, v.isBlank = false) ∧
      ∃ family, ∀ v ∈ bounds, v.isBlank = false → v.family? = some family := by
  unfold check at h
  dsimp only at h
  have hmem {v : Value} : v ∈ bounds.filter (fun v => !v.isBlank) ↔ v ∈ bounds ∧ v.isBlank = false := by
    simp
  -- the check sees the bounds only through the list of those that are present
  generalize bounds.filter (fun v => !v.isBlank) = present at h hmem
  split at h
  · cases h
  · next first others hp =>
    split at h
    · next hall =>
      obtain ⟨hfirst, hothers⟩ := Bool.and_eq_true_iff.1 hall
      obtain ⟨family, rfl⟩ := Option.isSome_iff_exists.1 hfirst
      obtain ⟨v, vs, rfl, hv, rfl⟩ := List.map_eq_cons_iff.1 hp
      have hsame : ∀ w ∈ v :: vs, w.family? = some family := by
        intro w hw
        rcases List.mem_cons.1 hw with rfl | hw
        · exact hv
        · have := List.all_eq_true.1 hothers _ (List.mem_map_of_mem hw)
          simpa using this
      exact ⟨⟨v, hmem.1 List.mem_cons_self⟩, family, fun w hw hb => hsame w (hmem.2 ⟨hw, hb⟩)⟩
    · cases h

/-- The bound of a side is one of the two that are given for it, and missing if both are blank. -/
theorem side_cases (inclusive exclusive : Value) :
    (∃ v, (v = inclusive ∨ v = exclusive) ∧ v.isBlank = false ∧ (side inclusive exclusive).1 = v) ∨
      inclusive.isBlank ∧ exclusive.isBlank ∧ side inclusive exclusive = (.null, false) := by
  unfold side present
  by_cases hi : inclusive.isBlank
  · by_cases he : exclusive.isBlank
    · exact .inr ⟨hi, he, by simp [hi, he]⟩
    · exact .inl ⟨exclusive, .inr rfl, by simpa using he, by simp [hi, he]⟩
  · exact .inl ⟨inclusive, .inl rfl, by simpa using hi, by simp [hi]⟩

/-- What is known of both bounds of a side, and of a missing one, is known of the bound that counts. -/
theorem of_side {P : Value → Prop} {inclusive exclusive : Value} (hn : P .null) (hi : P inclusive)
    (he : P exclusive) : P (side inclusive exclusive).1 := by
  rcases side_cases inclusive exclusive with ⟨v, rfl | rfl, -, hs⟩ | ⟨-, -, hs⟩
  · rwa [hs]
  · rwa [hs]
  · rwa [hs]

theorem ne_null_of_not_isBlank {v : Value} (h : v.isBlank = false) : v ≠ .null := by
  rintro rfl
  exact absurd h (by simp [Value.isBlank])

/-- An interval between two bounds is one with two inclusive bounds. -/
theorem ofBounds_eq (lower upper : Value) : ofBounds lower upper = ofDescriptor lower .null upper .null := by
  have hnull : Value.null.isBlank = true := rfl
  have hside (v : Value) : side v .null = (present v, !v.isBlank) := by
    unfold side present
    by_cases hv : v.isBlank <;> simp [hv, hnull]
  have hcheck : check [lower, .null, upper, .null] = check [lower, upper] := by
    simp only [check, List.filter_cons, hnull, Bool.not_true, Bool.false_eq_true, if_false]
  rw [ofBounds, ofDescriptor, hcheck, hside, hside]

/-- A described interval has passed the check, and its sides are those of the description. -/
theorem ofDescriptor_eq_ok {lower lowerExclusive upper upperExclusive : Value} {r : Interval}
    (h : ofDescriptor lower lowerExclusive upper upperExclusive = .ok r) :
    check [lower, lowerExclusive, upper, upperExclusive] = .ok () ∧
      r = ⟨(side lower lowerExclusive).1, (side lower lowerExclusive).2, (side upper upperExclusive).1,
        (side upper upperExclusive).2⟩ := by
  obtain ⟨_, hc, hr⟩ := bind_eq_ok_iff.1 h
  exact ⟨hc, (Except.ok.inj hr).symm⟩

/-- An interval that is made obeys the rules for bounds. -/
theorem valid_of_ofDescriptor {lower lowerExclusive upper upperExclusive : Value} {r : Interval}
    (h : ofDescriptor lower lowerExclusive upper upperExclusive = .ok r) : r.Valid := by
  obtain ⟨hc, rfl⟩ := ofDescriptor_eq_ok h
  obtain ⟨⟨v, hv, hb⟩, family, hfamily⟩ := family_of_check hc
  have hlow := side_cases lower lowerExclusive
  have hhigh := side_cases upper upperExclusive
  -- there are both sides to look at: a bound is missing, or not blank and of the family
  constructor
  · rcases hlow with ⟨w, -, hw, he⟩ | ⟨hl, hle, -⟩
    · exact .inl (he ▸ ne_null_of_not_isBlank hw)
    · rcases hhigh with ⟨w, -, hw, he⟩ | ⟨hu, hue, -⟩
      · exact .inr (he ▸ ne_null_of_not_isBlank hw)
      · -- no bound would be present at all
        have hblank : v.isBlank := by
          simp only [List.mem_cons, List.not_mem_nil, or_false] at hv
          rcases hv with rfl | rfl | rfl | rfl <;> assumption
        rw [hblank] at hb
        exact absurd hb (by decide)
  · refine ⟨family, fun hne => ?_, fun hne => ?_⟩
    · rcases hlow with ⟨w, hw, hb, he⟩ | ⟨-, -, he⟩
      · rw [he]
        exact hfamily w (by rcases hw with rfl | rfl <;> simp) hb
      · exact absurd (congrArg Prod.fst he) hne
    · rcases hhigh with ⟨w, hw, hb, he⟩ | ⟨-, -, he⟩
      · rw [he]
        exact hfamily w (by rcases hw with rfl | rfl <;> simp) hb
      · exact absurd (congrArg Prod.fst he) hne
  · intro hi
    rcases hlow with ⟨w, -, hw, he⟩ | ⟨-, -, he⟩
    · exact he ▸ ne_null_of_not_isBlank hw
    · rw [he] at hi
      exact absurd hi (by simp)
  · intro hi
    rcases hhigh with ⟨w, -, hw, he⟩ | ⟨-, -, he⟩
    · exact he ▸ ne_null_of_not_isBlank hw
    · rw [he] at hi
      exact absurd hi (by simp)

/-- The bounds of a made interval are missing or not blank. -/
theorem bounds_of_ofDescriptor {lower lowerExclusive upper upperExclusive : Value} {r : Interval}
    (h : ofDescriptor lower lowerExclusive upper upperExclusive = .ok r) :
    (r.lower = .null ∨ r.lower.isBlank = false) ∧ (r.upper = .null ∨ r.upper.isBlank = false) := by
  obtain ⟨-, rfl⟩ := ofDescriptor_eq_ok h
  constructor
  · rcases side_cases lower lowerExclusive with ⟨v, -, hv, he⟩ | ⟨-, -, he⟩
    · exact .inr (he ▸ hv)
    · exact .inl (congrArg Prod.fst he)
  · rcases side_cases upper upperExclusive with ⟨v, -, hv, he⟩ | ⟨-, -, he⟩
    · exact .inr (he ▸ hv)
    · exact .inl (congrArg Prod.fst he)

/-- Bounds pass the check if some bound is not blank and all such bounds are of one family. -/
theorem check_eq_ok {bounds : List Value} (family : Family) (hsome : ∃ v ∈ bounds, v.isBlank = false)
    (hfamily : ∀ v ∈ bounds, v.isBlank = false → v.family? = some family) : check bounds = .ok () := by
  have hmem {v : Value} : v ∈ bounds.filter (fun v => !v.isBlank) ↔ v ∈ bounds ∧ v.isBlank = false := by
    simp
  obtain ⟨v, hv, hb⟩ := hsome
  unfold check
  dsimp only
  -- the first bound that is not blank gives the family that the others are compared with
  generalize bounds.filter (fun v => !v.isBlank) = present at hmem
  obtain ⟨first, others, rfl⟩ : ∃ first others, present = first :: others :=
    List.exists_cons_of_ne_nil (List.ne_nil_of_mem (hmem.2 ⟨hv, hb⟩))
  have hall {w : Value} (hw : w ∈ first :: others) : w.family? = some family :=
    hfamily w (hmem.1 hw).1 (hmem.1 hw).2
  have hothers : (others.map Value.family?).all (· = first.family?) := by
    apply List.all_eq_true.2
    intro f hf
    obtain ⟨w, hw, rfl⟩ := List.mem_map.1 hf
    rw [hall List.mem_cons_self, hall (List.mem_cons_of_mem _ hw)]
    simp
  have hif : (first.family?.isSome && (others.map Value.family?).all (· = first.family?)) = true := by
    rw [hothers, hall List.mem_cons_self]
    rfl
  exact if_pos hif

/-- A bound that is given on its own side of a pair comes back with that side. -/
theorem side_given {v : Value} {inclusive : Bool} (hv : v = .null ∨ v.isBlank = false)
    (hi : inclusive → v ≠ .null) :
    side (if inclusive then v else .null) (if inclusive then .null else v) = (v, inclusive) := by
  have hnull : Value.null.isBlank = true := rfl
  cases inclusive with
  | true =>
    have hb : v.isBlank = false := hv.resolve_left (hi rfl)
    simp [side, hb]
  | false =>
    rcases hv with rfl | hb
    · rfl
    · simp [side, hnull, present, hb]

/-- Of two descriptions of a side the one that is given is its bound. -/
theorem eq_of_given {v w : Value} {inclusive : Bool}
    (hw : w = (if inclusive then v else .null) ∨ w = (if inclusive then .null else v))
    (hb : w.isBlank = false) : w = v := by
  have hnull : Value.null.isBlank = true := rfl
  cases inclusive with
  | true =>
    rcases hw with rfl | rfl
    · rfl
    · exact absurd hb (by simp [hnull])
  | false =>
    rcases hw with rfl | rfl
    · exact absurd hb (by simp [hnull])
    · rfl

/-- A valid interval without blank bounds is made of its own bounds. -/
theorem Valid.ofDescriptor_eq {r : Interval} (h : r.Valid)
    (hl : r.lower = .null ∨ r.lower.isBlank = false) (hu : r.upper = .null ∨ r.upper.isBlank = false) :
    ofDescriptor (if r.lowerInclusive then r.lower else .null) (if r.lowerInclusive then .null else r.lower)
      (if r.upperInclusive then r.upper else .null) (if r.upperInclusive then .null else r.upper) = .ok r := by
  obtain ⟨low, lowInclusive, high, highInclusive⟩ := r
  obtain ⟨hbounded, ⟨family, hlow, hhigh⟩, hlowInclusive, hhighInclusive⟩ := h
  dsimp only at *
  have hcheck : check [if lowInclusive then low else .null, if lowInclusive then .null else low,
      if highInclusive then high else .null, if highInclusive then .null else high] = .ok () := by
    refine check_eq_ok family ?_ fun w hw hb => ?_
    · rcases hbounded with hne | hne
      · refine ⟨low, ?_, hl.resolve_left hne⟩
        cases lowInclusive <;> simp
      · refine ⟨high, ?_, hu.resolve_left hne⟩
        cases highInclusive <;> simp
    · have hne : w ≠ .null := ne_null_of_not_isBlank hb
      simp only [List.mem_cons, List.not_mem_nil, or_false] at hw
      -- the four values given are the two pairs
      rcases hw with hw | hw | hw | hw
      · obtain rfl := eq_of_given (.inl hw) hb
        exact hlow hne
      · obtain rfl := eq_of_given (.inr hw) hb
        exact hlow hne
      · obtain rfl := eq_of_given (.inl hw) hb
        exact hhigh hne
      · obtain rfl := eq_of_given (.inr hw) hb
        exact hhigh hne
  rw [ofDescriptor, hcheck, side_given hl hlowInclusive, side_given hu hhighInclusive]
  rfl

theorem sound_of_ofDescriptor {lower lowerExclusive upper upperExclusive : Value} {r : Interval}
    (h : ofDescriptor lower lowerExclusive upper upperExclusive = .ok r) : r.Sound := by
  obtain ⟨hl, hu⟩ := bounds_of_ofDescriptor h
  exact ⟨valid_of_ofDescriptor h, hl, hu⟩

theorem sound_of_ofBounds {lower upper : Value} {r : Interval} (h : ofBounds lower upper = .ok r) :
    r.Sound := by
  rw [ofBounds_eq] at h
  exact sound_of_ofDescriptor h

theorem sound_of_ofProgression {p : Progression} {r : Interval} (h : ofProgression p = .ok r) : r.Sound := by
  unfold ofProgression at h
  split at h
  · exact sound_of_ofBounds h
  · cases h

theorem sound_of_ofMapping {entries : List (Value × Value)} {r : Interval} (h : ofMapping entries = .ok r) :
    r.Sound := by
  unfold ofMapping at h
  dsimp only at h
  split at h
  · exact sound_of_ofDescriptor h
  · obtain ⟨sorted, -, hthrow⟩ := bind_eq_ok_iff.1 h
    cases hthrow

end Interval

namespace Expression

/-- Operators of a single field have one. -/
theorem checkFields_single {operator : Operator} {first : FieldValue} {others : List FieldValue}
    (h : checkFields operator (first :: others) = .ok ()) (hs : operator.isSingle) : others = [] := by
  by_contra hne
  have hmany : (operator.isSingle && !others.isEmpty) = true := by simp [hs, hne]
  have he : checkFields operator (first :: others) =
      .error (.tooManyFieldValues operator (first :: others).length) := by
    unfold checkFields
    exact if_pos hmany
  rw [he] at h
  cases h

/-- The value of `near` is a text with a space in it. -/
theorem checkFields_near {first : FieldValue} {others : List FieldValue}
    (h : checkFields .near (first :: others) = .ok ()) :
    ∃ s, first.value.text? = some s ∧ ' ' ∈ s.toList := by
  rw [checkFields] at h
  split at h
  · cases h
  · split at h
    · next s hs =>
      split at h
      · next hc => exact ⟨s, hs, by simpa using hc⟩
      · cases h
    · cases h

/-- The value of `phrase` and of `prefix` is a text. -/
theorem checkFields_text {operator : Operator} {first : FieldValue} {others : List FieldValue}
    (ho : operator = .phrase ∨ operator = .beginning) (h : checkFields operator (first :: others) = .ok ()) :
    ∃ s, first.value.text? = some s := by
  apply Option.isSome_iff_exists.1
  rcases ho with rfl | rfl
  all_goals
    rw [checkFields] at h
    split at h
    · cases h
    · split at h
      · assumption
      · cases h

/-- The value of `range` is an interval or the text of one. -/
theorem checkFields_range {first : FieldValue} {others : List FieldValue}
    (h : checkFields .range (first :: others) = .ok ()) :
    (∃ r, first.value = .range r) ∨ ∃ s, first.value.text? = some s ∧ Text.isRangeText s.toList := by
  rw [checkFields] at h
  split at h
  · cases h
  · split at h
    · next r hr => exact .inl ⟨r, hr⟩
    · split at h
      · next ht =>
        obtain ⟨s, hs, hrange⟩ := (Option.any_eq_true _ _).1 ht
        exact .inr ⟨s, hs, hrange⟩
      · cases h

/-- Fields that pass the check obey the rules about fields. -/
theorem Sound.obeys {e : Expression} (h : e.Sound) : e.Obeys := by
  obtain ⟨h, options, names, intervals⟩ := h
  obtain ⟨operator, opts, fields⟩ := e
  dsimp only at h
  obtain ⟨first, others, rfl⟩ : ∃ first others, fields = first :: others := by
    cases fields with
    | nil => cases h
    | cons first others => exact ⟨first, others, rfl⟩
  -- the checks of the operators look at the first field: where they do, it is the only one
  have honly (hs : operator.isSingle) : ∀ f ∈ first :: others, f = first := by
    rw [checkFields_single h hs]
    simp
  refine ⟨List.cons_ne_nil _ _, ?_, ?_, ?_, ?_, options, names, fun f hf r hr => (intervals f hf r hr).valid⟩
  · intro hand hor
    have hs : operator.isSingle := by
      cases operator <;> first | rfl | exact absurd rfl hand | exact absurd rfl hor
    rw [checkFields_single h hs]
    rfl
  · rintro rfl f hf
    rw [honly rfl f hf]
    exact checkFields_near h
  · intro ho f hf
    have hs : operator.isSingle := by rcases ho with rfl | rfl <;> rfl
    rw [honly hs f hf]
    exact checkFields_text ho h
  · rintro rfl f hf
    rw [honly rfl f hf]
    exact checkFields_range h

def ofField (f : FieldValue) : Condition := .positional (.ok (some f))

/-- Finished parts give no value for an option by its name. -/
theorem namedOptions_parts (options : List OperatorOption) (fields : List FieldValue)
    (names : List OptionName) :
    names.mapM (namedOption (options.map .option ++ fields.map ofField)) = .ok (names.map fun _ => none) := by
  have hpair (name : OptionName) :
      (options.map Condition.option ++ fields.map ofField).findSome? (Condition.valueOf? name) = none := by
    refine List.findSome?_eq_none_iff.2 fun c hc => ?_
    rcases List.mem_append.1 hc with hc | hc
    · obtain ⟨o, -, rfl⟩ := List.mem_map.1 hc
      rfl
    · obtain ⟨f, -, rfl⟩ := List.mem_map.1 hc
      rfl
  induction names with
  | nil => rfl
  | cons name rest ih =>
    rw [List.mapM_cons, ih, namedOption, hpair]
    rfl

theorem filterMap_option?_of_accepted {operator : Operator} {options : List OperatorOption}
    (h : ∀ o ∈ options, o.name ∈ operator.accepted) :
    (options.map Condition.option).filterMap (Condition.option? operator) = options := by
  induction options with
  | nil => rfl
  | cons o rest ih =>
    have ho : Condition.option? operator (.option o) = some o := by
      simp [Condition.option?, h o List.mem_cons_self]
    rw [List.map_cons, List.filterMap_cons_some ho, ih fun o' ho' => h o' (List.mem_cons_of_mem o ho')]

/-- The options of finished parts are all kept, in their order. -/
theorem optionsOf_parts {operator : Operator} {options : List OperatorOption} {fields : List FieldValue}
    (h : ∀ o ∈ options, o.name ∈ operator.accepted) :
    optionsOf operator (options.map .option ++ fields.map ofField) = .ok options := by
  have hfields : (fields.map ofField).filterMap (Condition.option? operator) = [] := by
    rw [List.filterMap_map]
    exact List.filterMap_eq_nil_iff.2 fun _ _ => rfl
  have hnone : (operator.accepted.map fun _ => (none : Option OperatorOption)).filterMap id = [] := by
    rw [List.filterMap_map]
    exact List.filterMap_eq_nil_iff.2 fun _ _ => rfl
  rw [optionsOf, namedOptions_parts]
  change Except.ok _ = _
  rw [List.filterMap_append, filterMap_option?_of_accepted h, hfields, hnone, List.append_nil,
    List.append_nil]

theorem filterMap_option {β : Type} {options : List OperatorOption} (p : Condition → Option β)
    (hp : ∀ o, p (.option o) = none) : (options.map Condition.option).filterMap p = [] := by
  rw [List.filterMap_map]
  exact List.filterMap_eq_nil_iff.2 fun o _ => hp o

theorem filterMap_positional_ofField (fields : List FieldValue) :
    (fields.map ofField).filterMap Condition.positional? = fields.map fun f => .ok (some f) := by
  rw [List.filterMap_map, ← List.filterMap_eq_map]
  rfl

/-- Candidates that are finished fields are these fields. -/
theorem mapM_finished (fields : List FieldValue) :
    (fields.map fun f => (.ok (some f) : Except Error (Option FieldValue))).mapM id = .ok (fields.map some) := by
  apply mapM_ok_iff_forall₂.2
  rw [List.forall₂_map_left_iff, List.forall₂_map_right_iff]
  exact List.forall₂_same.2 fun _ _ => rfl

/-- The fields of finished parts are all kept, in their order. -/
theorem fieldsOf_parts {operator : Operator} (options : List OperatorOption) (fields : List FieldValue) :
    fieldsOf operator (options.map .option ++ fields.map ofField) = .ok fields := by
  have hnamed : (fields.map ofField).filterMap (Condition.namedField? operator) = [] := by
    rw [List.filterMap_map]
    exact List.filterMap_eq_nil_iff.2 fun _ _ => rfl
  rw [fieldsOf, List.filterMap_append, List.filterMap_append, filterMap_option _ fun _ => rfl,
    filterMap_option _ fun _ => rfl, List.nil_append, List.nil_append, filterMap_positional_ofField, hnamed,
    mapM_finished]
  change Except.ok ((fields.map some).filterMap id ++ []) = _
  rw [List.filterMap_map, List.append_nil]
  exact congrArg Except.ok List.filterMap_some

/-- An expression is made of its own options and fields. -/
theorem ofConditions_parts {operator : Operator} {options : List OperatorOption} {fields : List FieldValue}
    (ho : ∀ o ∈ options, o.name ∈ operator.accepted) (hf : checkFields operator fields = .ok ()) :
    ofConditions operator (options.map .option ++ fields.map ofField) = .ok ⟨operator, options, fields⟩ := by
  rw [ofConditions, optionsOf_parts ho, fieldsOf_parts]
  change (checkFields operator fields >>= fun _ => _) = _
  rw [hf]
  rfl

/-- An expression that is made consists of the options and fields of its conditions, which pass the check. -/
theorem ofConditions_eq_ok {operator : Operator} {conditions : List Condition} {e : Expression}
    (h : ofConditions operator conditions = .ok e) :
    ∃ options fields, optionsOf operator conditions = .ok options ∧ fieldsOf operator conditions = .ok fields ∧
      checkFields operator fields = .ok () ∧ e = ⟨operator, options, fields⟩ := by
  obtain ⟨options, ho, h⟩ := bind_eq_ok_iff.1 h
  obtain ⟨fields, hf, h⟩ := bind_eq_ok_iff.1 h
  obtain ⟨_, hrules, h⟩ := bind_eq_ok_iff.1 h
  refine ⟨options, fields, ?_, hf, hrules, (Except.ok.inj h).symm⟩
  cases hfound : optionsOf operator conditions with
  | error f =>
    rw [hfound] at ho
    cases ho
  | ok found =>
    rw [hfound] at ho
    exact congrArg Except.ok (Except.ok.inj ho)

theorem fieldsOf_of_ofConditions {operator : Operator} {conditions : List Condition} {e : Expression}
    (h : ofConditions operator conditions = .ok e) : fieldsOf operator conditions = .ok e.fields := by
  obtain ⟨options, fields, -, hf, -, rfl⟩ := ofConditions_eq_ok h
  exact hf

/-- What an expression is made of, if it is made of finished options and fields alone. -/
theorem ofConditions_parts_eq_ok {operator : Operator} {options : List OperatorOption} {fields : List FieldValue}
    {e : Expression} (ho : ∀ o ∈ options, o.name ∈ operator.accepted)
    (h : ofConditions operator (options.map .option ++ fields.map ofField) = .ok e) :
    checkFields operator fields = .ok () ∧ e = ⟨operator, options, fields⟩ := by
  obtain ⟨options', fields', hoptions, hfields, hrules, rfl⟩ := ofConditions_eq_ok h
  obtain rfl : options = options' := Except.ok.inj ((optionsOf_parts ho).symm.trans hoptions)
  obtain rfl : fields = fields' := Except.ok.inj ((fieldsOf_parts options fields).symm.trans hfields)
  exact ⟨hrules, rfl⟩

end Expression

end StructuredQuery
