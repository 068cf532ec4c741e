import StructuredQuery.Expression.Builder
import StructuredQuery.Proofs.Expression.Reading
import StructuredQuery.Proofs.Expression.Rules
import StructuredQuery.Proofs.Number.Words

/-!
Expressions obey their rules by construction. Whatever is made of plain data and of finished parts that
were made of such data themselves holds to the rules of its operators, at any depth.
-/

namespace StructuredQuery

namespace Value

def isLeaf : Value → Bool
  | .list _ => false
  | .tuple _ => false
  | .mapping _ => false
  | .option _ => false
  | .range _ => false
  | .field _ => false
  | .expression _ => false
  | _ => true

def IsName (name : Value) : Prop :=
  name = .null ∨ ∃ s, name.text? = some s

end Value

/-- Plain data, mappings with texts for keys, and the parts of queries that are made of such data. -/
inductive Made : Value → Prop
  | leaf {v : Value} (h : v.isLeaf) : Made v
  | list {items : List Value} (h : ∀ v ∈ items, Made v) : Made (.list items)
  | tuple {items : List Value} (h : ∀ v ∈ items, Made v) : Made (.tuple items)
  | mapping {entries : List (Value × Value)} (hk : ∀ entry ∈ entries, ∃ s, entry.1.text? = some s)
      (hv : ∀ entry ∈ entries, Made entry.2) : Made (.mapping entries)
  | option {name value : Value} {o : OperatorOption} (hn : Made name) (hv : Made value)
      (h : OperatorOption.new name value = .ok (some o)) : Made (.option o)
  | optionOfPair {pair : Value} {o : OperatorOption} (hp : Made pair)
      (h : OperatorOption.ofPair pair = .ok (some o)) : Made (.option o)
  | bounds {lower upper : Value} {r : Interval} (hl : Made lower) (hu : Made upper)
      (h : Interval.ofBounds lower upper = .ok r) : Made (.range r)
  | descriptor {lower lowerExclusive upper upperExclusive : Value} {r : Interval} (hl : Made lower)
      (hle : Made lowerExclusive) (hu : Made upper) (hue : Made upperExclusive)
      (h : Interval.ofDescriptor lower lowerExclusive upper upperExclusive = .ok r) : Made (.range r)
  | interval {v : Value} {r : Interval} (hv : Made v) (h : Interval.ofValue v = .ok r) : Made (.range r)
  | named {name value : Value} {f : FieldValue} (hn : name.IsName) (hv : Made value)
      (h : FieldValue.new name value = .ok f) : Made (.field f)
  | field {v : Value} {f : FieldValue} (hv : Made v) (h : FieldValue.ofValue v = .ok (some f)) :
      Made (.field f)
  | expression {operator conditions : Value} {e : Expression} (hc : Made conditions)
      (h : Expression.new operator conditions = .ok e) : Made (.expression e)
  | built {operator : Operator} {given : List Value} {named : List (String × Value)} {e : Expression}
      (hg : ∀ v ∈ given, Made v) (hn : ∀ entry ∈ named, Made entry.2)
      (h : Expression.build operator given named = .ok e) : Made (.expression e)
  | described {description : Value} {es : List Expression} {e : Expression} (hd : Made description)
      (h : Expression.ofDescription description = .ok es) (he : e ∈ es) : Made (.expression e)

structure FieldValue.Valid (f : FieldValue) : Prop where
  name : IsFieldName f.name
  interval : ∀ r, f.value = .range r → r.Sound
  expression : ∀ e, f.value = .expression e → e.Everywhere Expression.Sound

inductive Value.Sound : Value → Prop
  | leaf {v : Value} (h : v.isLeaf) : Sound v
  | list {items : List Value} (h : ∀ v ∈ items, Sound v) : Sound (.list items)
  | tuple {items : List Value} (h : ∀ v ∈ items, Sound v) : Sound (.tuple items)
  | mapping {entries : List (Value × Value)} (hk : ∀ entry ∈ entries, ∃ s, entry.1.text? = some s)
      (hv : ∀ entry ∈ entries, Sound entry.2) : Sound (.mapping entries)
  | option {o : OperatorOption} (h : o.Valid) : Sound (.option o)
  | range {r : Interval} (h : r.Sound) : Sound (.range r)
  | field {f : FieldValue} (h : f.Valid) : Sound (.field f)
  | expression {e : Expression} (h : e.Everywhere Expression.Sound) : Sound (.expression e)

namespace Value.Sound

theorem option_valid {o : OperatorOption} (h : (Value.option o).Sound) : o.Valid := by
  cases h with
  | leaf hl => cases hl
  | option h => exact h

theorem range_sound {r : Interval} (h : (Value.range r).Sound) : r.Sound := by
  cases h with
  | leaf hl => cases hl
  | range h => exact h

theorem field_valid {f : FieldValue} (h : (Value.field f).Sound) : f.Valid := by
  cases h with
  | leaf hl => cases hl
  | field h => exact h

theorem expression_sound {e : Expression} (h : (Value.expression e).Sound) :
    e.Everywhere Expression.Sound := by
  cases h with
  | leaf hl => cases hl
  | expression h => exact h

theorem items {vs : List Value} (h : (Value.list vs).Sound) : ∀ v ∈ vs, v.Sound := by
  cases h with
  | leaf hl => cases hl
  | list h => exact h

theorem parts {vs : List Value} (h : (Value.tuple vs).Sound) : ∀ v ∈ vs, v.Sound := by
  cases h with
  | leaf hl => cases hl
  | tuple h => exact h

theorem entries {es : List (Value × Value)} (h : (Value.mapping es).Sound) :
    ∀ entry ∈ es, entry.1.IsName ∧ (Value.tuple [entry.1, entry.2]).Sound := by
  intro entry he
  cases h with
  | leaf hl => cases hl
  | mapping hk hv =>
    obtain ⟨s, hs⟩ := hk entry he
    have hkey : entry.1.Sound := by
      apply Value.Sound.leaf
      cases hkey : entry.1 <;> rw [hkey] at hs <;> simp [Value.text?, Value.isLeaf] at hs ⊢
    exact ⟨.inr ⟨s, hs⟩, .tuple (by simpa using ⟨hkey, hv entry he⟩)⟩

end Value.Sound

/-- An option that is made has a word that is one. -/
theorem OperatorOption.valid_of_new {name value : Value} {o : OperatorOption} (hn : name.Sound)
    (h : new name value = .ok (some o)) : o.Valid := by
  rcases new_cases h with rfl | ⟨known, word, -, hw, rfl⟩
  · exact hn.option_valid
  · exact ⟨word, rfl, Value.isWord_of_word? hw⟩

theorem isFieldName_none : IsFieldName none := by
  intro n hn
  cases hn

/-- What a name gives, if it names no operator, is a name that a field may have. -/
theorem isFieldName_of_fieldName? {name : Value} {n : Option String} (hk : name.IsName)
    (ho : name.operator? = none) (h : name.fieldName? = .ok n) : IsFieldName n := by
  unfold Value.fieldName? at h
  split at h
  · obtain rfl := Except.ok.inj h
    exact isFieldName_none
  · next hb =>
    rcases hk with rfl | ⟨s, hs⟩
    · exact absurd rfl hb
    · rw [Value.asText_of_text? hs] at h
      obtain rfl : some s = n := by simpa [Except.map] using h
      intro m hm
      obtain rfl := Option.some.inj hm
      refine ⟨?_, by simpa [Value.operator?, hs] using ho⟩
      rintro rfl
      -- only an empty text could give the empty name, and that is blank
      cases name with
      | text t =>
        obtain rfl : t = "" := by simpa [Value.text?] using hs
        exact hb rfl
      | operator o => cases o <;> exact absurd hs (by simp [Value.text?, Operator.text])
      | optionName o => cases o <;> exact absurd hs (by simp [Value.text?, OptionName.text])
      | _ => simp [Value.text?] at hs

/-- What a field holds of sound data is sound. -/
theorem Value.Sound.content {v : Value} (hv : v.Sound) :
    Meets (fun w => (∀ r, w = .range r → r.Sound) ∧ ∀ e, w = .expression e → e.Everywhere Expression.Sound)
      (fun _ => True) v.content := by
  have hinterval {r : Except Error Interval} (hr : ∀ i, r = .ok i → i.Sound) :
      Meets (fun w => (∀ r, w = .range r → r.Sound) ∧
        ∀ e, w = .expression e → e.Everywhere Expression.Sound) (fun _ => True) (r.map Value.range) := by
    refine Meets.map (P := Interval.Sound) (meets_iff.2 ⟨hr, fun _ _ => trivial⟩) fun i hi => ⟨?_, by simp⟩
    rintro _ ⟨⟩
    exact hi
  unfold Value.content
  -- intervals are given or made here, expressions are given, and nothing else holds either
  split
  · exact ⟨by simp, by simp⟩
  · next r =>
    refine ⟨?_, by simp⟩
    rintro _ ⟨⟩
    exact hv.range_sound
  · exact hinterval fun _ => Interval.sound_of_ofProgression
  · exact hinterval fun _ => Interval.sound_of_ofBounds
  · exact ⟨by simp, by simp⟩
  · next e =>
    refine ⟨by simp, ?_⟩
    rintro _ ⟨⟩
    exact hv.expression_sound
  · exact ⟨by simp, by simp⟩
  · next hrange _ _ _ hexpression _ =>
    split
    · exact ⟨fun r hr => (hrange r hr).elim, fun e he => (hexpression e he).elim⟩
    · exact v.meets_unusable (fun _ _ => trivial) fun _ _ => trivial

/-- Valid fields and options make an expression that is sound everywhere. -/
theorem Expression.everywhere_ofConditions {operator : Operator} {conditions : List Condition}
    (h : ∀ c ∈ conditions, c.Holds Value.Sound OperatorOption.Valid FieldValue.Valid fun _ => True) :
    Meets (Expression.Everywhere Expression.Sound) (fun _ => True) (ofConditions operator conditions) := by
  have hnew (name : OptionName) (value : Value) (o : OperatorOption)
      (ho : OperatorOption.new (.optionName name) value = .ok (some o)) : o.Valid :=
    OperatorOption.valid_of_new (.leaf rfl) ho
  refine (meets_ofConditions operator h hnew (fun _ _ _ _ _ => trivial) fun _ _ => trivial).imp ?_
  rintro e ⟨rfl, hoptions, hfields, hcheck⟩
  refine .intro e ?_ fun f hf inner hi => (hfields f hf).expression inner hi
  exact ⟨hcheck, hoptions, fun f hf => (hfields f hf).name, fun f hf => (hfields f hf).interval⟩

/-- The reading of valid data gives valid options and fields. -/
theorem readingInvariant_sound : ReadingInvariant Value.Sound Value.IsName OperatorOption.Valid
    FieldValue.Valid (fun _ => True) where
  option _ ho := ho.option_valid
  field _ hf := hf.field_valid
  items _ h := h.items
  parts _ h := h.parts
  entries _ h := h.entries
  unnamed := .inl rfl
  text key s hs := .inr ⟨s, hs⟩
  named name value conditions hn hv hc := by
    refine FieldValue.meets_ofNamed ?_ ?_ ?_ fun _ _ => trivial
    · intro operator _
      refine (Expression.everywhere_ofConditions hc).imp fun e he => ⟨isFieldName_none, by simp, ?_⟩
      rintro _ ⟨⟩
      exact he
    · rintro n f ho hname rfl
      exact ⟨isFieldName_of_fieldName? hn ho hname, hv.field_valid.interval, hv.field_valid.expression⟩
    · intro n ho hname _
      exact hv.content.imp fun v hv => ⟨isFieldName_of_fieldName? hn ho hname, hv.1, hv.2⟩

namespace Expression

theorem everywhere_of_new {operator conditions : Value} {e : Expression} (hc : conditions.Sound)
    (h : new operator conditions = .ok e) : e.Everywhere Sound := by
  unfold new at h
  split at h
  · exact (everywhere_ofConditions (readingInvariant_sound.reads conditions hc).2).of_ok h
  · cases ha : operator.asText <;> rw [ha] at h <;> cases h

theorem everywhere_of_build {operator : Operator} {given : List Value} {named : List (String × Value)}
    {e : Expression} (hg : ∀ v ∈ given, v.Sound) (hn : ∀ entry ∈ named, entry.2.Sound)
    (h : build operator given named = .ok e) : e.Everywhere Sound := by
  refine everywhere_of_new (.list fun v hv => ?_) h
  rcases List.mem_append.1 hv with hv | hv
  · split at hv
    · next items => exact (hg _ (List.mem_singleton.2 rfl)).items v hv
    · exact hg v hv
  · obtain ⟨⟨key, value⟩, he, rfl⟩ := List.mem_map.1 hv
    have hvalue : value.Sound := hn _ he
    exact .tuple (by simpa using ⟨.leaf rfl, hvalue⟩)

/-- The entries of a sound description are sound. -/
theorem sound_of_description? {v : Value} {entries : List Value} (hv : v.Sound)
    (h : v.description? = some entries) : ∀ entry ∈ entries, entry.Sound := by
  unfold Value.description? at h
  -- tables give their values, rows their items; what other data gives has no parts of queries in it
  split at h
  · next es =>
    obtain rfl := Option.some.inj h
    intro entry he
    obtain ⟨⟨key, value⟩, hm, rfl⟩ := List.mem_map.1 he
    exact (hv.entries (key, value) hm).2
  · obtain rfl := Option.some.inj h
    exact hv.items
  · obtain rfl := Option.some.inj h
    exact hv.parts
  · obtain rfl := Option.some.inj h
    intro entry he
    obtain ⟨b, -, rfl⟩ := List.mem_map.1 he
    exact .leaf rfl
  · obtain rfl := Option.some.inj h
    intro entry he
    obtain ⟨n, -, rfl⟩ := List.mem_map.1 he
    exact .leaf rfl
  · obtain ⟨s, -, rfl⟩ := Option.map_eq_some_iff.1 h
    intro entry he
    obtain ⟨c, -, rfl⟩ := List.mem_map.1 he
    exact .leaf rfl

theorem everywhere_of_ofEntry {v : Value} (hv : v.Sound) :
    Meets (Everywhere Sound) (fun _ => True) (ofEntry v) := by
  refine meets_iff.2 ⟨fun e he => ?_, fun _ _ => trivial⟩
  unfold ofEntry at he
  split at he
  · obtain rfl := Except.ok.inj he
    exact hv.expression_sound
  · next operator conditions =>
    exact everywhere_of_new (hv.parts conditions (by simp)) he
  · next operator conditions =>
    exact everywhere_of_new (hv.items conditions (by simp)) he
  · cases ha : v.asText <;> rw [ha] at he <;> cases he

theorem everywhere_of_ofDescription {v : Value} {es : List Expression} (hv : v.Sound)
    (h : ofDescription v = .ok es) : ∀ e ∈ es, e.Everywhere Sound := by
  unfold ofDescription at h
  split at h
  · obtain rfl := Except.ok.inj h
    simp
  · obtain rfl := Except.ok.inj h
    simpa using hv.expression_sound
  · split at h
    · next entries hd =>
      have hentries := sound_of_description? hv hd
      exact (meets_mapM fun entry he => everywhere_of_ofEntry (hentries entry he)).of_ok h
    · cases h

end Expression

/-- An interval is sound in whatever way it is made. -/
theorem Interval.sound_of_ofValue {v : Value} {r : Interval} (hv : v.Sound) (h : ofValue v = .ok r) :
    r.Sound := by
  unfold ofValue at h
  split at h
  · obtain rfl := Except.ok.inj h
    exact hv.range_sound
  · exact sound_of_ofProgression h
  · exact sound_of_ofMapping h
  · exact sound_of_ofBounds h
  · cases h

/-- An option of a pair is as valid as one of its parts. -/
theorem OperatorOption.valid_of_ofPair {pair : Value} {o : OperatorOption} (hp : pair.Sound)
    (h : ofPair pair = .ok (some o)) : o.Valid := by
  unfold ofPair at h
  split at h
  · obtain rfl := Option.some.inj (Except.ok.inj h)
    exact hp.option_valid
  · split at h
    · next name value hpair =>
      refine valid_of_new ?_ h
      unfold pair? at hpair
      split at hpair
      · obtain ⟨rfl, rfl⟩ : _ = name ∧ _ = value := by simpa using hpair
        exact hp.items _ (by simp)
      · obtain ⟨rfl, rfl⟩ : _ = name ∧ _ = value := by simpa using hpair
        exact hp.parts _ (by simp)
      · obtain ⟨rfl, rfl⟩ : _ = name ∧ _ = value := by simpa using hpair
        have hentry := (hp.entries _ List.mem_cons_self).2
        exact hentry.parts _ (by simp)
      · cases hpair
    · cases h

/-- Every part of a query among data that is made of plain data is valid. -/
theorem Made.sound {v : Value} (h : Made v) : v.Sound := by
  -- along the making: what a constructor is given is sound, so what it makes is valid
  induction h with
  | leaf hl => exact .leaf hl
  | list _ ih => exact .list ih
  | tuple _ ih => exact .tuple ih
  | mapping hk _ ih => exact .mapping hk ih
  | option _ _ h ihn _ => exact .option (OperatorOption.valid_of_new ihn h)
  | optionOfPair _ h ih => exact .option (OperatorOption.valid_of_ofPair ih h)
  | bounds _ _ h => exact .range (Interval.sound_of_ofBounds h)
  | descriptor _ _ _ _ h => exact .range (Interval.sound_of_ofDescriptor h)
  | interval _ h ih => exact .range (Interval.sound_of_ofValue ih h)
  | named hn _ h ih => exact .field ((readingInvariant_sound.new hn ih).of_ok h)
  | field _ h ih => exact .field ((readingInvariant_sound.ofValue ih).of_ok h _ rfl)
  | expression _ h ih => exact .expression (Expression.everywhere_of_new ih h)
  | built _ _ h ihg ihn => exact .expression (Expression.everywhere_of_build ihg ihn h)
  | described _ h he ih => exact .expression (Expression.everywhere_of_ofDescription ih h _ he)

/-- A description amounts to its expressions and to no others. -/
theorem Value.mem_of_ofExpressions {es : List Expression} {e : Expression}
    (h : ofExpressions es = .expression e ∨ ∃ items, ofExpressions es = .list items ∧ .expression e ∈ items) :
    e ∈ es := by
  rcases h with h | ⟨items, h, he⟩
  all_goals
    unfold ofExpressions at h
    split at h
  · cases h
  · exact List.mem_singleton.2 (Value.expression.inj h).symm
  · cases h
  · cases h
  · cases h
  · obtain rfl := Value.list.inj h
    simpa using he

/-- Validity of construction. Whatever the operator, if an expression is made of conditions, or by a
builder, or from a description, alone or with others, and the data are plain or made of plain data, then every
expression in it, at any depth, obeys the rules of its operator. -/
theorem Expression.everywhere_obeys_of_made :
    (∀ operator conditions e, Made conditions → Expression.new operator conditions = .ok e →
      e.Everywhere Obeys) ∧
    (∀ operator given named e, (∀ v ∈ given, Made v) → (∀ entry ∈ named, Made entry.2) →
      Expression.build operator given named = .ok e → e.Everywhere Obeys) ∧
    (∀ description es, Made description → Expression.ofDescription description = .ok es →
      ∀ e ∈ es, e.Everywhere Obeys) ∧
    ∀ description v, Made description → Value.ofDescription description = .ok v →
      ∀ e, (v = .expression e ∨ ∃ items, v = .list items ∧ .expression e ∈ items) → e.Everywhere Obeys := by
  have hdescribed (description : Value) (es : List Expression) (hd : Made description)
      (h : Expression.ofDescription description = .ok es) (e : Expression) (he : e ∈ es) : e.Everywhere Obeys :=
    (everywhere_of_ofDescription hd.sound h e he).imp fun _ => Sound.obeys
  refine ⟨fun operator conditions e hc h => ?_, fun operator given named e hg hn h => ?_, hdescribed,
    fun description v hd h e he => ?_⟩
  · exact (everywhere_of_new hc.sound h).imp fun _ => Sound.obeys
  · have hmade := everywhere_of_build (fun v hv => (hg v hv).sound) (fun entry he => (hn entry he).sound) h
    exact hmade.imp fun _ => Sound.obeys
  · obtain ⟨es, hes, rfl⟩ := map_eq_ok_iff.1 h
    exact hdescribed description es hd hes e (Value.mem_of_ofExpressions he)

/-- The case of a pair that gives an option and a pair that gives a field. -/
theorem Expression.everywhere_obeys_of_made_near :
    ∃ e, Expression.new (.text "near") (.list [.tuple [.text "distance", .text "2"],
      .tuple [.text "plot", .text "teenage vampire"]]) = .ok e ∧ e.Everywhere Obeys := by
  have hpair (s t : String) : Made (.tuple [.text s, .text t]) := by
    apply Made.tuple
    simpa using ⟨Made.leaf rfl, Made.leaf rfl⟩
  have hmade : Made (.list [.tuple [.text "distance", .text "2"],
      .tuple [.text "plot", .text "teenage vampire"]]) := by
    apply Made.list
    simpa using ⟨hpair "distance" "2", hpair "plot" "teenage vampire"⟩
  have hnew : Expression.new (.text "near") (.list [.tuple [.text "distance", .text "2"],
      .tuple [.text "plot", .text "teenage vampire"]]) =
        .ok ⟨.near, [⟨.distance, some "2"⟩], [⟨.text "teenage vampire", some "plot"⟩]⟩ := by
    rfl
  exact ⟨_, hnew, Expression.everywhere_obeys_of_made.1 _ _ _ hmade hnew⟩

end StructuredQuery
