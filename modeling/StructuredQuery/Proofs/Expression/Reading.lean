import StructuredQuery.Expression.Reading
import StructuredQuery.Proofs.Expression.Result

/-!
What the reading of values preserves. A value is read from its parts upwards, and every field in the
reading is made of a name and a value by one function. So what this function gives is known of all fields
of the reading once it is known to pass from the parts of a value to the whole.
-/

namespace StructuredQuery

variable {D K : Value → Prop} {O : OperatorOption → Prop} {P : FieldValue → Prop} {E : Error → Prop}

/-- What is known of the options and fields of a condition, of the value that it may give an option, and of
the errors of its fields. -/
def Condition.Holds (D : Value → Prop) (O : OperatorOption → Prop) (P : FieldValue → Prop)
    (E : Error → Prop) : Condition → Prop
  | .skipped => True
  | .option o => O o
  | .positional candidate => Meets (fun found => ∀ f ∈ found, P f) E candidate
  | .named _ value candidate => D value ∧ Meets P E candidate

/-- An option that is made stood in the place of its name, or has a name that is known and the word of
the value. -/
theorem OperatorOption.new_cases {name value : Value} {o : OperatorOption}
    (h : new name value = .ok (some o)) :
    name = .option o ∨
      ∃ known word, name.optionName? = some known ∧ value.word? = .ok (some word) ∧ o = ⟨known, some word⟩ := by
  unfold new at h
  split at h
  · next o' =>
    obtain rfl : o' = o := by simpa using h
    exact .inl rfl
  · split at h
    · cases h
    · split at h
      · cases h
      · next known hknown =>
        obtain ⟨found, hw, hfound⟩ := bind_eq_ok_iff.1 h
        obtain ⟨word, rfl, rfl⟩ := Option.map_eq_some_iff.1 (Except.ok.inj hfound)
        exact .inr ⟨known, word, hknown, hw, rfl⟩

/-- An option has the name that it was made with. -/
theorem OperatorOption.name_of_new {name : OptionName} {value : Value} {o : OperatorOption}
    (h : new (.optionName name) value = .ok (some o)) : o.name = name := by
  have hself : (Value.optionName name).optionName? = some name := OptionName.ofText?_text name
  rcases new_cases h with hname | ⟨known, word, hknown, -, rfl⟩
  · cases hname
  · exact Option.some.inj (hknown.symm.trans hself)

namespace Expression

inductive IsRuleError : Error → Prop
  | noFieldValues (o : Operator) : IsRuleError (.noFieldValues o)
  | tooManyFieldValues (o : Operator) (size : Nat) : IsRuleError (.tooManyFieldValues o size)
  | multipleWordsRequired : IsRuleError .multipleWordsRequired
  | textRequired (o : Operator) : IsRuleError (.textRequired o)
  | rangeRequired : IsRuleError .rangeRequired

/-- Every refusal of fields is that of a rule. -/
theorem isRuleError_of_checkFields {operator : Operator} {fields : List FieldValue} {e : Error}
    (h : checkFields operator fields = .error e) : IsRuleError e := by
  -- each branch throws the error of one rule, or succeeds
  unfold checkFields at h
  split at h
  · obtain rfl := Except.error.inj h
    exact .noFieldValues operator
  · split at h
    · obtain rfl := Except.error.inj h
      exact .tooManyFieldValues _ _
    · split at h
      · split at h
        · split at h
          · cases h
          · obtain rfl := Except.error.inj h
            exact .multipleWordsRequired
        · obtain rfl := Except.error.inj h
          exact .textRequired _
      · split at h
        · cases h
        · obtain rfl := Except.error.inj h
          exact .textRequired _
      · split at h
        · cases h
        · obtain rfl := Except.error.inj h
          exact .textRequired _
      · split at h
        · cases h
        · split at h
          · cases h
          · obtain rfl := Except.error.inj h
            exact .rangeRequired
      · cases h

/-- The fields of conditions are among the fields that the conditions give. -/
theorem meets_fieldsOf {operator : Operator} {conditions : List Condition}
    (h : ∀ c ∈ conditions, c.Holds D O P E) :
    Meets (fun fields => ∀ f ∈ fields, P f) E (fieldsOf operator conditions) := by
  -- only positional conditions give fields without a name, only named ones those with one
  have hunnamed : Meets (fun found => ∀ x ∈ found, ∀ f ∈ x, P f) E
      ((conditions.filterMap Condition.positional?).mapM id) := by
    apply meets_mapM
    intro candidate hc
    obtain ⟨c, hc, he⟩ := List.mem_filterMap.1 hc
    have hcond := h c hc
    cases c with
    | positional r =>
      obtain rfl : r = candidate := by simpa [Condition.positional?] using he
      exact hcond
    | skipped | option | named => simp [Condition.positional?] at he
  have hnamed : Meets (fun found => ∀ f ∈ found, P f) E
      ((conditions.filterMap (Condition.namedField? operator)).mapM id) := by
    apply meets_mapM
    intro candidate hc
    obtain ⟨c, hc, he⟩ := List.mem_filterMap.1 hc
    have hcond := h c hc
    cases c with
    | named key value r =>
      obtain ⟨-, rfl⟩ : _ ∧ r = candidate := by simpa [Condition.namedField?] using he
      exact hcond.2
    | skipped | option | positional => simp [Condition.namedField?] at he
  refine hunnamed.bind fun unnamed _ hu => hnamed.bind fun named _ hn => ?_
  intro f hf
  rcases List.mem_append.1 hf with hf | hf
  · obtain ⟨x, hx, rfl⟩ := List.mem_filterMap.1 hf
    exact hu _ hx f rfl
  · exact hn f hf

/-- The value that is found for an option is that of a condition. -/
theorem of_findSome?_valueOf? {conditions : List Condition} {name : OptionName} {value : Value}
    (h : ∀ c ∈ conditions, c.Holds D O P E)
    (hf : conditions.findSome? (Condition.valueOf? name) = some value) : D value := by
  obtain ⟨c, hc, he⟩ := List.exists_of_findSome?_eq_some hf
  have hcond := h c hc
  cases c with
  | named key given candidate =>
    obtain ⟨-, rfl⟩ : _ ∧ given = value := by simpa [Condition.valueOf?] using he
    exact hcond.1
  | skipped | option | positional => simp [Condition.valueOf?] at he

/-- The options of conditions are finished ones that the operator accepts, or made of a value. -/
theorem meets_optionsOf (operator : Operator) {conditions : List Condition}
    (h : ∀ c ∈ conditions, c.Holds D O P E)
    (hnew : ∀ name value o, OperatorOption.new (.optionName name) value = .ok (some o) → O o)
    (hfault : ∀ name value f, D value → OperatorOption.new (.optionName name) value = .error f → E (.fault f)) :
    Meets (fun options => ∀ o ∈ options, o.name ∈ operator.accepted ∧ O o) (fun f => E (.fault f))
      (optionsOf operator conditions) := by
  -- first the options that are made of named pairs; finished ones are accepted by the filter itself
  have hnamed : Meets (fun found => ∀ x ∈ found, ∀ o ∈ x, o.name ∈ operator.accepted ∧ O o)
      (fun f => E (.fault f)) (operator.accepted.mapM (namedOption conditions)) := by
    refine meets_mapM fun name hname => ?_
    unfold namedOption
    split
    · next value hvalue =>
      refine meets_iff.2 ⟨?_, fun f => hfault name value f (of_findSome?_valueOf? h hvalue)⟩
      rintro _ hfound o rfl
      refine ⟨?_, hnew name value o hfound⟩
      rw [OperatorOption.name_of_new hfound]
      exact hname
    · intro o ho
      cases ho
  apply hnamed.bind
  intro named _ hn o ho
  rcases List.mem_append.1 ho with ho | ho
  · obtain ⟨c, hc, he⟩ := List.mem_filterMap.1 ho
    have hcond := h c hc
    cases c with
    | option o' =>
      obtain ⟨haccepted, rfl⟩ : operator.accepted.contains o'.name ∧ o' = o := by
        simpa [Condition.option?] using he
      exact ⟨List.contains_iff_mem.1 haccepted, hcond⟩
    | skipped | positional | named => simp [Condition.option?] at he
  · obtain ⟨x, hx, rfl⟩ := List.mem_filterMap.1 ho
    exact hn _ hx o rfl

/-- An expression has the operator it is made for, options that the operator accepts and fields that obey
its rules; or else a part of it failed or the fields break a rule. -/
theorem meets_ofConditions (operator : Operator) {conditions : List Condition}
    (h : ∀ c ∈ conditions, c.Holds D O P E)
    (hnew : ∀ name value o, OperatorOption.new (.optionName name) value = .ok (some o) → O o)
    (hfault : ∀ name value f, D value → OperatorOption.new (.optionName name) value = .error f → E (.fault f))
    (hrule : ∀ e, IsRuleError e → E e) :
    Meets (fun e => e.operator = operator ∧ (∀ o ∈ e.options, o.name ∈ operator.accepted ∧ O o) ∧
      (∀ f ∈ e.fields, P f) ∧ checkFields operator e.fields = .ok ()) E (ofConditions operator conditions) := by
  have hoptions := (meets_optionsOf operator h hnew hfault).liftM
  refine hoptions.bind fun options _ ho => (meets_fieldsOf h).bind fun fields _ hf => ?_
  have hcheck : Meets (fun _ => checkFields operator fields = .ok ()) E (checkFields operator fields) :=
    meets_iff.2 ⟨fun _ hc => hc, fun e he => hrule e (isRuleError_of_checkFields he)⟩
  apply hcheck.bind
  intro _ _ hc
  exact ⟨rfl, ho, hf, hc⟩

end Expression

/-- A tuple that is no pair is read as a value to match. -/
theorem Value.reading_tuple {items : List Value} (h : ¬ ∃ key value, items = [key, value]) :
    (Value.tuple items).reading = .single (.positional ((FieldValue.ofUnnamed (.tuple items)).map some)) := by
  rw [Value.reading]
  intro key value first reading hitems
  exact absurd ⟨key, value, hitems⟩ h

/-- A pair is read as one condition, also where it stands as a list of its own. -/
theorem Value.reading_pair (key value : Value) :
    (Value.tuple [key, value]).reading = .single (Condition.ofPair key value value.reading) := by
  rfl

theorem readItems_eq_map (vs : List Value) : readItems vs = vs.map Value.reading := by
  induction vs with
  | nil => rfl
  | cons v vs ih => rw [readItems, ih, List.map_cons]

/-- Each item of a list is one condition. -/
theorem Value.conditions_list (vs : List Value) :
    (Value.list vs).conditions = vs.map fun v => v.reading.entry := by
  rw [Value.conditions, Value.reading, readItems_eq_map, List.map_map]
  rfl

/-- What passes from the parts of values to the fields and options in their readings. -/
structure ReadingInvariant (D K : Value → Prop) (O : OperatorOption → Prop) (P : FieldValue → Prop)
    (E : Error → Prop) : Prop where
  option : ∀ o, D (.option o) → O o
  field : ∀ f, D (.field f) → P f
  items : ∀ vs, D (.list vs) → ∀ v ∈ vs, D v
  parts : ∀ vs, D (.tuple vs) → ∀ v ∈ vs, D v
  entries : ∀ es, D (.mapping es) → ∀ entry ∈ es, K entry.1 ∧ D (.tuple [entry.1, entry.2])
  unnamed : K .null
  text : ∀ key s, key.text? = some s → K key
  named : ∀ name value conditions, K name → D value → (∀ c ∈ conditions, c.Holds D O P E) →
    Meets P E (FieldValue.ofNamed name value conditions)

/-- A value that cannot stand in a query is refused, or its refusal cannot be shown. -/
theorem Value.meets_unusable {α : Type} {Q : α → Prop} (v : Value)
    (hfault : ∀ f, v.shown = .error f → E (.fault f))
    (hrefused : ∀ shown kind, E (.unusableValue shown kind)) : Meets Q E (v.unusable : Except Error α) :=
  (meets_liftM (P := fun _ => True) (fun _ _ => trivial) hfault).bind fun s _ _ => hrefused s v.kind

/-- What a field is made of: the nested expression of an operator, a renamed field or a value. -/
theorem FieldValue.meets_ofNamed {name value : Value} {conditions : List Condition}
    (hexpression : ∀ operator, name.operator? = some operator →
      Meets (fun e => P ⟨.expression e, none⟩) E (Expression.ofConditions operator conditions))
    (hrename : ∀ n f, name.operator? = none → name.fieldName? = .ok n → value = .field f → P ⟨f.value, n⟩)
    (hcontent : ∀ n, name.operator? = none → name.fieldName? = .ok n → (∀ f, value ≠ .field f) →
      Meets (fun v => P ⟨v, n⟩) E value.content)
    (hfault : ∀ f, name.fieldName? = .error f → E (.fault f)) :
    Meets P E (FieldValue.ofNamed name value conditions) := by
  unfold FieldValue.ofNamed
  split
  · next operator ho => exact (hexpression operator ho).bind fun e _ he => he
  · next ho =>
    have hname := meets_liftM (P := fun n => name.fieldName? = .ok n) (fun n hn => hn) hfault
    apply hname.bind
    intro n _ hn
    split
    · next f => exact hrename n f ho hn rfl
    · next hv => exact (hcontent n ho hn fun f hf => hv f hf).bind fun v _ hv => hv

theorem Value.fieldName?_text {name : String} (hn : name ≠ "") :
    (Value.text name).fieldName? = .ok (some name) := by
  have hblank : (Value.text name).isBlank = false := by simpa [Value.isBlank] using hn
  have htext : (Value.text name).asText = .ok name := congrArg Except.ok String.ofList_toList
  rw [Value.fieldName?, hblank, htext]
  rfl

/-- A field is made of a name that names no operator and of what the field holds. -/
theorem FieldValue.ofNamed_eq {name value : Value} {n : Option String} (conditions : List Condition)
    (ho : name.operator? = none) (hn : name.fieldName? = .ok n) (hf : ∀ f, value ≠ .field f) :
    FieldValue.ofNamed name value conditions = value.content.map (FieldValue.mk · n) := by
  have hbind {β : Type} (k : Option String → Except Error β) :
      (liftM (Except.ok n : Except Fault (Option String)) >>= k) = k n := rfl
  rw [FieldValue.ofNamed, ho, hn]
  dsimp only
  rw [hbind]
  split
  · next f => exact absurd rfl (hf f)
  · cases value.content <;> rfl

namespace ReadingInvariant

section

variable (inv : ReadingInvariant D K O P E)

include inv

theorem ofUnnamed {v : Value} (hv : D v) : Meets P E (FieldValue.ofUnnamed v) :=
  inv.named .null v [] inv.unnamed hv (by simp)

theorem holds_unnamed {v : Value} (hv : D v) :
    (Condition.positional ((FieldValue.ofUnnamed v).map some)).Holds D O P E := by
  apply (inv.ofUnnamed hv).map
  intro f hf g hg
  obtain rfl : f = g := by simpa using hg
  exact hf

theorem holds_ofPair {key value : Value} {reading : Reading} (hp : D (.tuple [key, value]))
    (hr : ∀ c ∈ reading.conditions, c.Holds D O P E) : (Condition.ofPair key value reading).Holds D O P E := by
  have hv : D value := inv.parts _ hp value (by simp)
  unfold Condition.ofPair
  split
  · next s hs =>
    split
    · exact inv.holds_unnamed hp
    · exact ⟨hv, inv.named key value _ (inv.text key s hs) hv hr⟩
  · exact inv.holds_unnamed hp

end

/-- A property of the conditions in both readings of a value. -/
def Reads (D : Value → Prop) (O : OperatorOption → Prop) (P : FieldValue → Prop) (E : Error → Prop)
    (r : Reading) : Prop :=
  r.entry.Holds D O P E ∧ ∀ c ∈ r.conditions, c.Holds D O P E

theorem reads_single {c : Condition} (hc : c.Holds D O P E) : Reads D O P E (.single c) :=
  ⟨hc, fun _ hd => List.mem_singleton.1 hd ▸ hc⟩

-- Along the structure of values, as the reading itself: a value, its items and its entries.
mutual

/-- The invariant holds of both readings of every value. -/
theorem reads (inv : ReadingInvariant D K O P E) : ∀ v : Value, D v → Reads D O P E v.reading
  | .null, _ => by
    rw [Value.reading]
    exact ⟨trivial, by simp⟩
  | .option o, hv => by
    rw [Value.reading]
    exact reads_single (inv.option o hv)
  | .field f, hv => by
    rw [Value.reading]
    apply reads_single
    intro g hg
    obtain rfl : f = g := by simpa using hg
    exact inv.field f hv
  | .list items, hv => by
    rw [Value.reading]
    refine ⟨inv.holds_unnamed hv, fun c hc => ?_⟩
    obtain ⟨r, hr, rfl⟩ := List.mem_map.1 hc
    exact (reads_items inv items (inv.items items hv) r hr).1
  | .tuple items, hv => by
    have hparts := reads_items inv items (inv.parts items hv)
    -- only a pair may be a name with its value, any other tuple is one value to match
    by_cases hpair : ∃ key value, items = [key, value]
    · obtain ⟨key, value, rfl⟩ := hpair
      have hr := hparts value.reading (by simp [readItems])
      exact reads_single (inv.holds_ofPair hv hr.2)
    · rw [Value.reading_tuple hpair]
      exact reads_single (inv.holds_unnamed hv)
  | .mapping entries, hv => by
    have hentries := reads_entries inv entries (inv.entries entries hv)
    rw [Value.reading]
    refine ⟨?_, fun c hc => ?_⟩
    · dsimp only [Condition.Holds]
      split
      · next key value reading hread =>
        obtain ⟨hk, hp, hr⟩ := hentries (key, value, reading) (by rw [hread]; simp)
        have hnamed := inv.named key value _ hk (inv.parts _ hp value (by simp)) hr.2
        exact hnamed.map fun f hf g hg => by
          obtain rfl : f = g := by simpa using hg
          exact hf
      · exact fun f hf => absurd hf (by simp)
    · obtain ⟨⟨key, value, reading⟩, hm, rfl⟩ := List.mem_map.1 hc
      obtain ⟨-, hp, hr⟩ := hentries _ hm
      exact inv.holds_ofPair hp hr.2
  | .bool _, hv | .int _, hv | .float _, hv | .decimal _, hv | .text _, hv | .operator _, hv
  | .optionName _, hv | .member _ _ _, hv | .timestamp _, hv | .date _, hv | .time _, hv | .bytes _, hv
  | .progression _, hv | .range _, hv | .expression _, hv => by
    rw [Value.reading]
    · exact reads_single (inv.holds_unnamed hv)
    all_goals simp

theorem reads_items (inv : ReadingInvariant D K O P E) : ∀ items : List Value, (∀ v ∈ items, D v) →
    ∀ r ∈ readItems items, Reads D O P E r
  | [], _ => by simp [readItems]
  | item :: rest, h => by
    rw [readItems]
    intro r hr
    rcases List.mem_cons.1 hr with rfl | hr
    · exact reads inv item (h item List.mem_cons_self)
    · exact reads_items inv rest (fun v hv => h v (List.mem_cons_of_mem item hv)) r hr

/-- It holds of the entries of a mapping, with their keys. -/
theorem reads_entries (inv : ReadingInvariant D K O P E) : ∀ entries : List (Value × Value),
    (∀ entry ∈ entries, K entry.1 ∧ D (.tuple [entry.1, entry.2])) →
    ∀ read ∈ readEntries entries, K read.1 ∧ D (.tuple [read.1, read.2.1]) ∧ Reads D O P E read.2.2
  | [], _ => by simp [readEntries]
  | (key, value) :: rest, h => by
    rw [readEntries]
    intro read hread
    rcases List.mem_cons.1 hread with rfl | hread
    · obtain ⟨hk, hp⟩ := h (key, value) List.mem_cons_self
      exact ⟨hk, hp, reads inv value (inv.parts _ hp value (by simp))⟩
    · exact reads_entries inv rest (fun entry he => h entry (List.mem_cons_of_mem _ he)) read hread

end

section

variable (inv : ReadingInvariant D K O P E)

include inv

/-- A field of a name and a value keeps the invariant. -/
theorem new {name value : Value} (hn : K name) (hv : D value) : Meets P E (FieldValue.new name value) :=
  inv.named name value _ hn hv (inv.reads value hv).2

/-- A field that is made of a value alone keeps the invariant. -/
theorem ofValue {v : Value} (hv : D v) :
    Meets (fun found => ∀ f ∈ found, P f) E (FieldValue.ofValue v) := by
  have hsome {r : Except Error FieldValue} (hr : Meets P E r) :
      Meets (fun found => ∀ f ∈ found, P f) E (r.map some) :=
    hr.map fun f hf g hg => by
      obtain rfl : f = g := by simpa using hg
      exact hf
  unfold FieldValue.ofValue
  split
  · next f =>
    intro g hg
    obtain rfl : f = g := by simpa using hg
    exact inv.field f hv
  · next name value =>
    obtain ⟨hk, hp⟩ := inv.entries _ hv (name, value) (by simp)
    exact hsome (inv.new hk (inv.parts _ hp value (by simp)))
  · exact fun f hf => absurd hf (by simp)
  · exact hsome (inv.ofUnnamed hv)

end

end ReadingInvariant

end StructuredQuery
