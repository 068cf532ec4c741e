import StructuredQuery.Proofs.Expression.Reading
import StructuredQuery.Proofs.Expression.Rules

/-!
How the entries of a condition list are sorted. Each entry goes to one place, by its kind and in its order:
nothing is left out, a finished option is kept or refused, a named pair is for an option or for a field, and
anything else is a value to match. An expression is made of just what has been sorted so.
-/

namespace StructuredQuery

/-- The parts of a named pair: a tuple of two whose first part is a text that is not empty. -/
def Value.namedPair? : Value → Option (Value × Value)
  | .tuple [key, value] => if key.text?.any (!·.isEmpty) then some (key, value) else none
  | _ => none

inductive Role
  /-- Nothing. -/
  | nothing
  /-- A finished option that the operator accepts. -/
  | accepted (o : OperatorOption)
  /-- A finished option that it does not accept. -/
  | refused (o : OperatorOption)
  /-- A named pair whose key is the name of an option that it accepts. -/
  | forOption (name : OptionName) (value : Value)
  /-- Any other named pair. -/
  | named (key value : Value)
  /-- A value to match. -/
  | value (v : Value)

def Role.isNothing : Role → Bool
  | .nothing => true
  | _ => false

/-- What a named pair gives for an option that the operator accepts. -/
def Operator.forOption? (operator : Operator) (p : Value × Value) : Option (OptionName × Value) :=
  (p.1.optionName?.filter (· ∈ operator.accepted)).map fun name => (name, p.2)

def Value.role (operator : Operator) (v : Value) : Role :=
  match v with
  | .null => .nothing
  | .option o => if o.name ∈ operator.accepted then .accepted o else .refused o
  | v =>
    match v.namedPair? with
    | none => .value v
    | some p =>
      match operator.forOption? p with
      | some (name, value) => .forOption name value
      | none => .named p.1 p.2

namespace Expression

structure Sorted where
  accepted : List OperatorOption := []
  refused : List OperatorOption := []
  forOptions : List (OptionName × Value) := []
  values : List Value := []
  named : List (Value × Value) := []

def Sorted.add : Role → Sorted → Sorted
  | .nothing, s => s
  | .accepted o, s => { s with accepted := o :: s.accepted }
  | .refused o, s => { s with refused := o :: s.refused }
  | .forOption name value, s => { s with forOptions := (name, value) :: s.forOptions }
  | .value v, s => { s with values := v :: s.values }
  | .named key value, s => { s with named := (key, value) :: s.named }

/-- A condition list sorted entry by entry, so within each role the entries keep their order. -/
def sort (operator : Operator) : List Value → Sorted
  | [] => {}
  | v :: vs => (sort operator vs).add (v.role operator)

/-- A list of roles splits without loss: what is sorted of each role is found in the list in the same order,
and there is no more in the list than this and nothings. -/
structure Sorted.Splits (s : Sorted) (roles : List Role) : Prop where
  accepted : (s.accepted.map Role.accepted).Sublist roles
  refused : (s.refused.map Role.refused).Sublist roles
  forOptions : (s.forOptions.map fun p => Role.forOption p.1 p.2).Sublist roles
  values : (s.values.map Role.value).Sublist roles
  named : (s.named.map fun p => Role.named p.1 p.2).Sublist roles
  all : roles.length = roles.countP Role.isNothing + s.accepted.length + s.refused.length +
    s.forOptions.length + s.values.length + s.named.length

/-- The option that pairs give to a name: that of the first pair for it, if the value there has a word. The
pairs behind that one do not count. -/
inductive FirstOption (name : OptionName) : List (OptionName × Value) → Option OperatorOption → Prop
  | missing : FirstOption name [] none
  | other {n : OptionName} {v : Value} {pairs : List (OptionName × Value)} {found : Option OperatorOption}
      (hn : n ≠ name) (h : FirstOption name pairs found) : FirstOption name ((n, v) :: pairs) found
  | null (pairs : List (OptionName × Value)) : FirstOption name ((name, .null) :: pairs) none
  | value {v : Value} {word : Option String} (pairs : List (OptionName × Value)) (hv : v ≠ .null)
      (hw : v.word? = .ok word) : FirstOption name ((name, v) :: pairs) (word.map fun w => ⟨name, some w⟩)

/-- The options that sorted entries give: the finished ones, then those of named pairs in the order of the
operator's table. -/
def Sorted.Options (operator : Operator) (s : Sorted) (options : List OperatorOption) : Prop :=
  ∃ found, List.Forall₂ (fun name o => FirstOption name s.forOptions o) operator.accepted found ∧
    options = s.accepted ++ found.filterMap id

/-- The fields that sorted entries give: those of the values, some of which give none, then those of the
named pairs. -/
def Sorted.Fields (s : Sorted) (fields : List FieldValue) : Prop :=
  ∃ unnamed named, List.Forall₂ (fun v found => FieldValue.ofValue v = .ok found) s.values unnamed ∧
    List.Forall₂ (fun p f => FieldValue.new p.1 p.2 = .ok f) s.named named ∧
    fields = unnamed.filterMap id ++ named

/-! ## Nothing is lost -/

/-- One more entry of any role is in its place and in no other. -/
theorem Sorted.Splits.add {s : Sorted} {roles : List Role} (h : s.Splits roles) (r : Role) :
    (s.add r).Splits (r :: roles) := by
  obtain ⟨haccepted, hrefused, hforOptions, hvalues, hnamed, hall⟩ := h
  have hall' : (r :: roles).length = (r :: roles).countP Role.isNothing + (s.add r).accepted.length +
      (s.add r).refused.length + (s.add r).forOptions.length + (s.add r).values.length +
      (s.add r).named.length := by
    rw [List.length_cons, List.countP_cons, hall]
    cases r <;> simp only [Sorted.add, Role.isNothing, List.length_cons, if_true, Bool.false_eq_true, if_false]
    all_goals omega
  cases r with
  | nothing => exact ⟨haccepted.cons _, hrefused.cons _, hforOptions.cons _, hvalues.cons _, hnamed.cons _, hall'⟩
  | accepted o =>
    exact ⟨haccepted.cons_cons _, hrefused.cons _, hforOptions.cons _, hvalues.cons _, hnamed.cons _, hall'⟩
  | refused o =>
    exact ⟨haccepted.cons _, hrefused.cons_cons _, hforOptions.cons _, hvalues.cons _, hnamed.cons _, hall'⟩
  | forOption name value =>
    exact ⟨haccepted.cons _, hrefused.cons _, hforOptions.cons_cons _, hvalues.cons _, hnamed.cons _, hall'⟩
  | named key value =>
    exact ⟨haccepted.cons _, hrefused.cons _, hforOptions.cons _, hvalues.cons _, hnamed.cons_cons _, hall'⟩
  | value v =>
    exact ⟨haccepted.cons _, hrefused.cons _, hforOptions.cons _, hvalues.cons_cons _, hnamed.cons _, hall'⟩

/-- Sorting by roles loses nothing, adds nothing and keeps the order within a role. -/
theorem splits_sort (operator : Operator) (vs : List Value) :
    (sort operator vs).Splits (vs.map (Value.role operator)) := by
  induction vs with
  | nil => exact ⟨.slnil, .slnil, .slnil, .slnil, .slnil, rfl⟩
  | cons v vs ih => exact ih.add (v.role operator)

end Expression

/-! ## The condition that an entry is read as -/

/-- The condition that an entry of a role is read as. -/
inductive Role.Gives (operator : Operator) : Role → Condition → Prop
  | nothing : Gives operator .nothing .skipped
  | accepted {o : OperatorOption} (ho : o.name ∈ operator.accepted) : Gives operator (.accepted o) (.option o)
  | refused {o : OperatorOption} (ho : o.name ∉ operator.accepted) : Gives operator (.refused o) (.option o)
  | forOption {name : OptionName} {value : Value} (candidate : Except Error FieldValue)
      (hn : name ∈ operator.accepted) :
      Gives operator (.forOption name value) (.named name.text value candidate)
  | named {key value : Value} {s : String} (hs : ∀ name ∈ operator.accepted, OptionName.ofText? s ≠ some name) :
      Gives operator (.named key value) (.named s value (FieldValue.new key value))
  | value {v : Value} : Gives operator (.value v) (.positional (FieldValue.ofValue v))

namespace Operator

variable {operator : Operator} {p : Value × Value}

/-- A pair is for an option if its key names one that the operator accepts. -/
theorem forOption?_eq_some_iff {o : OptionName × Value} :
    operator.forOption? p = some o ↔ p.1.optionName? = some o.1 ∧ o.1 ∈ operator.accepted ∧ o.2 = p.2 := by
  simp only [forOption?, Option.map_eq_some_iff, Option.filter_eq_some_iff, decide_eq_true_eq]
  constructor
  · rintro ⟨name, ⟨hk, hn⟩, rfl⟩
    exact ⟨hk, hn, rfl⟩
  · rintro ⟨hk, hn, hv⟩
    exact ⟨o.1, ⟨hk, hn⟩, by rw [← hv]⟩

/-- A pair is for a field if its key names no option that the operator accepts. -/
theorem forOption?_eq_none_iff :
    operator.forOption? p = none ↔ ∀ name ∈ operator.accepted, p.1.optionName? ≠ some name := by
  simp only [forOption?, Option.map_eq_none_iff, Option.filter_eq_none_iff, decide_eq_true_eq]
  exact ⟨fun h name hn hk => h name hk hn, fun h name hk hn => h name hn hk⟩

end Operator

theorem OptionName.eq_text_of_ofText? {word : String} {name : OptionName} (h : ofText? word = some name) :
    word = name.text := by
  have hfound : name.text = word := by simpa using List.find?_some h
  exact hfound.symm

namespace Value

/-- A named pair has a text that is not empty for its key. -/
theorem namedPair?_eq_some {v : Value} {p : Value × Value} (h : v.namedPair? = some p) :
    v = .tuple [p.1, p.2] ∧ ∃ s, p.1.text? = some s ∧ s.isEmpty = false := by
  unfold namedPair? at h
  split at h
  · split at h
    · next hkey =>
      obtain rfl := Option.some.inj h
      obtain ⟨s, hs, hne⟩ := (Option.any_eq_true _ _).1 hkey
      exact ⟨rfl, s, hs, by simpa using hne⟩
    · cases h
  · cases h

/-- A named pair is a named condition with the field of its two parts. -/
theorem entry_of_namedPair? {v : Value} {p : Value × Value} (h : v.namedPair? = some p) :
    ∃ s, p.1.text? = some s ∧ v.reading.entry = .named s p.2 (FieldValue.new p.1 p.2) := by
  obtain ⟨rfl, s, hs, hne⟩ := namedPair?_eq_some h
  refine ⟨s, hs, ?_⟩
  rw [reading_pair, Reading.single, Condition.ofPair, hs]
  simp only [hne]
  rfl

/-- What is neither nothing nor an option nor a named pair is a value to match. -/
theorem entry_of_value {v : Value} (hnull : v ≠ .null) (hoption : ∀ o, v ≠ .option o)
    (hpair : v.namedPair? = none) : v.reading.entry = .positional (FieldValue.ofValue v) := by
  cases v with
  | null => exact absurd rfl hnull
  | option o => exact absurd rfl (hoption o)
  | field f => rfl
  | list items => rfl
  | mapping entries =>
    rw [reading]
    match entries with
    | [] => rfl
    | [(key, value)] => rfl
    | _ :: _ :: _ => rfl
  | tuple items =>
    by_cases h : ∃ key value, items = [key, value]
    · -- a pair that is not named has no text in front, or the empty one
      obtain ⟨key, value, rfl⟩ := h
      rw [reading_pair, Reading.single, Condition.ofPair]
      rw [namedPair?] at hpair
      cases hs : key.text? with
      | none => rfl
      | some s =>
        have hempty : s.isEmpty := by simpa [hs] using hpair
        simp only [hempty, if_true]
        rfl
    · rw [reading_tuple h]
      rfl
  | bool | int | float | decimal | text | operator | optionName | member | timestamp | date | time | bytes
  | progression | range | expression =>
    rw [reading]
    · rfl
    all_goals simp

/-- Every value is read as the condition of its role. -/
theorem gives_role (operator : Operator) (v : Value) : (v.role operator).Gives operator v.reading.entry := by
  unfold role
  split
  · exact .nothing
  · next o =>
    split
    · next ho => exact .accepted ho
    · next ho => exact .refused ho
  · next hnull hoption =>
    split
    · next hp =>
      rw [entry_of_value hnull hoption hp]
      exact .value
    · next p hp =>
      obtain ⟨s, hs, hentry⟩ := entry_of_namedPair? hp
      -- the key is a text or a word in its place, and names an option as that text does
      have hname : p.1.optionName? = OptionName.ofText? s := by rw [optionName?, hs]; rfl
      rw [hentry]
      split
      · next name value ho =>
        obtain ⟨hk, hn, rfl⟩ := Operator.forOption?_eq_some_iff.1 ho
        rw [OptionName.eq_text_of_ofText? (hname.symm.trans hk)]
        exact .forOption _ hn
      · next ho =>
        have hk := Operator.forOption?_eq_none_iff.1 ho
        exact .named fun name hn => hname ▸ hk name hn

theorem role_of_forOption {operator : Operator} {v : Value} {p : Value × Value} {o : OptionName × Value}
    (hp : v.namedPair? = some p) (ho : operator.forOption? p = some o) : v.role operator = .forOption o.1 o.2 := by
  obtain ⟨rfl, -⟩ := namedPair?_eq_some hp
  rw [role, hp]
  · simp only [ho]
  all_goals simp

theorem role_of_named {operator : Operator} {v : Value} {p : Value × Value} (hp : v.namedPair? = some p)
    (ho : operator.forOption? p = none) : v.role operator = .named p.1 p.2 := by
  obtain ⟨rfl, -⟩ := namedPair?_eq_some hp
  rw [role, hp]
  · simp only [ho]
  all_goals simp

end Value

/-! ## The expression of a sorted list -/

theorem exists_forall₂_iff {α β : Type} {R : α → β → Prop} {xs : List α} :
    (∃ ys, List.Forall₂ R xs ys) ↔ ∀ x ∈ xs, ∃ y, R x y := by
  induction xs with
  | nil => simp
  | cons x xs ih =>
    simp only [List.forall₂_cons_left_iff, List.forall_mem_cons, ← ih]
    constructor
    · rintro ⟨_, y, ys, hy, hys, rfl⟩
      exact ⟨⟨y, hy⟩, ys, hys⟩
    · rintro ⟨⟨y, hy⟩, ys, hys⟩
      exact ⟨_, y, ys, hy, hys, rfl⟩

namespace Expression

/-- The conditions of a list are found in it sorted: its options, the candidates for fields without a name
and with one, and the value for each option by its name. -/
structure Sorted.Finds (operator : Operator) (conditions : List Condition) (s : Sorted) : Prop where
  options : conditions.filterMap (Condition.option? operator) = s.accepted
  values : conditions.filterMap Condition.positional? = s.values.map FieldValue.ofValue
  named : conditions.filterMap (Condition.namedField? operator) = s.named.map fun p => FieldValue.new p.1 p.2
  forOption : ∀ name ∈ operator.accepted,
    conditions.findSome? (Condition.valueOf? name) = (s.forOptions.find? (·.1 = name)).map (·.2)

variable {operator : Operator} {conditions : List Condition} {s : Sorted}

/-- One more condition is found where its role puts the entry. -/
theorem Sorted.Finds.add {r : Role} {c : Condition} (h : s.Finds operator conditions) (hc : r.Gives operator c) :
    (s.add r).Finds operator (c :: conditions) := by
  obtain ⟨hoptions, hvalues, hnamed, hforOption⟩ := h
  -- each role changes one of the four rows, and the condition is passed over in the others
  cases hc with
  | nothing => exact ⟨hoptions, hvalues, hnamed, hforOption⟩
  | accepted ho =>
    refine ⟨?_, hvalues, hnamed, hforOption⟩
    rw [List.filterMap_cons_some (by simp only [Condition.option?, List.contains_iff_mem.2 ho]; rfl), hoptions]
    rfl
  | refused ho =>
    refine ⟨?_, hvalues, hnamed, hforOption⟩
    rw [List.filterMap_cons_none (by simp [Condition.option?, ho]), hoptions]
    rfl
  | @forOption name value candidate hn =>
    refine ⟨hoptions, hvalues, ?_, fun other ho => ?_⟩
    · rw [List.filterMap_cons_none (by simp [Condition.namedField?, OptionName.ofText?_text, hn]), hnamed]
      rfl
    · -- the pair comes first for its own option, and any other option is looked for behind it
      rw [List.findSome?_cons, Condition.valueOf?, OptionName.ofText?_text, Sorted.add, List.find?_cons]
      by_cases he : name = other
      · simp [he]
      · simp [he, hforOption other ho]
  | @named key value s hs =>
    have hkey : (OptionName.ofText? s).any operator.accepted.contains = false := by
      cases hk : OptionName.ofText? s with
      | none => rfl
      | some name => simpa using fun hn => hs name hn hk
    refine ⟨hoptions, hvalues, ?_, fun other ho => ?_⟩
    · rw [List.filterMap_cons_some (by simp only [Condition.namedField?, hkey]; rfl), hnamed]
      rfl
    · rw [List.findSome?_cons, Condition.valueOf?, if_neg (hs other ho)]
      exact hforOption other ho
  | value =>
    refine ⟨hoptions, ?_, hnamed, hforOption⟩
    rw [List.filterMap_cons_some (f := Condition.positional?) rfl, hvalues]
    rfl

/-- What the reading finds in a condition list is what sorting by roles finds. -/
theorem finds_sort (operator : Operator) (vs : List Value) :
    (sort operator vs).Finds operator (vs.map fun v => v.reading.entry) := by
  induction vs with
  | nil => exact ⟨rfl, rfl, rfl, fun _ _ => rfl⟩
  | cons v vs ih => exact ih.add (v.gives_role operator)

def optionOf (pairs : List (OptionName × Value)) (name : OptionName) : Except Fault (Option OperatorOption) :=
  match pairs.find? (·.1 = name) with
  | some (_, value) => OperatorOption.new (.optionName name) value
  | none => .ok none

/-- Of several pairs for one option the first one counts. -/
theorem optionOf_cons_self (name : OptionName) (v : Value) (pairs : List (OptionName × Value)) :
    optionOf ((name, v) :: pairs) name = OperatorOption.new (.optionName name) v := by
  simp [optionOf]

theorem optionOf_cons_of_ne {n name : OptionName} (hn : n ≠ name) (v : Value)
    (pairs : List (OptionName × Value)) : optionOf ((n, v) :: pairs) name = optionOf pairs name := by
  simp [optionOf, hn]

/-- An option is found for a name exactly as the first pair for it gives one. -/
theorem optionOf_eq_ok_iff {pairs : List (OptionName × Value)} {name : OptionName}
    {found : Option OperatorOption} : optionOf pairs name = .ok found ↔ FirstOption name pairs found := by
  constructor
  · intro h
    -- along the pairs: one for another option is passed over, the first one for this option decides
    induction pairs with
    | nil =>
      obtain rfl := Except.ok.inj h
      exact .missing
    | cons p pairs ih =>
      obtain ⟨n, v⟩ := p
      by_cases hn : n = name
      · subst hn
        rw [optionOf_cons_self] at h
        by_cases hv : v = .null
        · subst hv
          obtain rfl := Except.ok.inj h
          exact .null pairs
        · rw [OperatorOption.new_optionName n hv] at h
          obtain ⟨word, hw, rfl⟩ := map_eq_ok_iff.1 h
          exact .value pairs hv hw
      · rw [optionOf_cons_of_ne hn] at h
        exact .other hn (ih h)
  · intro h
    induction h with
    | missing => rfl
    | other hn _ ih => rw [optionOf_cons_of_ne hn, ih]
    | null => rw [optionOf_cons_self]; rfl
    | value _ hv hw => rw [optionOf_cons_self, OperatorOption.new_optionName name hv, hw]; rfl

/-- The options of a condition list depend on it only through what is sorted of it. -/
theorem Sorted.Finds.optionsOf_eq (h : s.Finds operator conditions) :
    optionsOf operator conditions = (operator.accepted.mapM (optionOf s.forOptions)).map
      fun found => s.accepted ++ found.filterMap id := by
  -- only the names that the operator accepts are looked up, so the induction is on a part of its table
  have hnamed (names : List OptionName) (hn : ∀ name ∈ names, name ∈ operator.accepted) :
      names.mapM (namedOption conditions) = names.mapM (optionOf s.forOptions) := by
    induction names with
    | nil => rfl
    | cons name names ih =>
      have hname : namedOption conditions name = optionOf s.forOptions name := by
        rw [namedOption, optionOf, h.forOption name (hn name List.mem_cons_self)]
        cases s.forOptions.find? (·.1 = name) <;> rfl
      rw [List.mapM_cons, List.mapM_cons, hname, ih fun n hmem => hn n (List.mem_cons_of_mem _ hmem)]
  rw [optionsOf, hnamed _ fun _ hn => hn, h.options]
  cases operator.accepted.mapM (optionOf s.forOptions) <;> rfl

/-- The fields of an expression depend on the roles alone. -/
theorem Sorted.Finds.fieldsOf_eq (h : s.Finds operator conditions) :
    fieldsOf operator conditions = do
      let unnamed ← s.values.mapM FieldValue.ofValue
      let named ← s.named.mapM fun p => FieldValue.new p.1 p.2
      return unnamed.filterMap id ++ named := by
  rw [fieldsOf, h.values, h.named, List.mapM_map, List.mapM_map]
  rfl

/-- The options of an expression are told by the sorted list. -/
theorem Sorted.Finds.optionsOf_eq_ok_iff (h : s.Finds operator conditions) {options : List OperatorOption} :
    optionsOf operator conditions = .ok options ↔ s.Options operator options := by
  rw [h.optionsOf_eq, map_eq_ok_iff]
  constructor
  · rintro ⟨found, hfound, rfl⟩
    exact ⟨found, (mapM_ok_iff_forall₂.1 hfound).imp fun _ _ => optionOf_eq_ok_iff.1, rfl⟩
  · rintro ⟨found, hfound, rfl⟩
    exact ⟨found, mapM_ok_iff_forall₂.2 (hfound.imp fun _ _ => optionOf_eq_ok_iff.2), rfl⟩

/-- The fields of an expression are told by the sorted list. -/
theorem Sorted.Finds.fieldsOf_eq_ok_iff (h : s.Finds operator conditions) {fields : List FieldValue} :
    fieldsOf operator conditions = .ok fields ↔ s.Fields fields := by
  rw [h.fieldsOf_eq, bind_eq_ok_iff]
  constructor
  · rintro ⟨unnamed, hu, hfields⟩
    obtain ⟨named, hn, hfields⟩ := bind_eq_ok_iff.1 hfields
    exact ⟨unnamed, named, mapM_ok_iff_forall₂.1 hu, mapM_ok_iff_forall₂.1 hn, (Except.ok.inj hfields).symm⟩
  · rintro ⟨unnamed, named, hu, hn, rfl⟩
    exact ⟨unnamed, mapM_ok_iff_forall₂.2 hu, bind_eq_ok_iff.2 ⟨named, mapM_ok_iff_forall₂.2 hn, rfl⟩⟩

/-- The fields of a sorted list are determined by it. -/
theorem fields_unique {vs : List Value} {fields fields' : List FieldValue}
    (h : (sort operator vs).Fields fields) (h' : (sort operator vs).Fields fields') : fields = fields' := by
  have hfinds := finds_sort operator vs
  exact Except.ok.inj ((hfinds.fieldsOf_eq_ok_iff.2 h).symm.trans (hfinds.fieldsOf_eq_ok_iff.2 h'))

/-- An expression is made exactly of the options and fields of its conditions. -/
theorem ofConditions_eq_ok_iff {e : Expression} :
    ofConditions operator conditions = .ok e ↔ e.operator = operator ∧
      optionsOf operator conditions = .ok e.options ∧ fieldsOf operator conditions = .ok e.fields ∧
      checkFields operator e.fields = .ok () := by
  constructor
  · intro h
    obtain ⟨options, fields, ho, hf, hc, rfl⟩ := ofConditions_eq_ok h
    exact ⟨rfl, ho, hf, hc⟩
  · obtain ⟨made, options, fields⟩ := e
    rintro ⟨rfl, ho, hf, hc⟩
    dsimp only at ho hf hc
    refine bind_eq_ok_iff.2 ⟨options, by rw [ho]; rfl, ?_⟩
    refine bind_eq_ok_iff.2 ⟨fields, hf, ?_⟩
    exact bind_eq_ok_iff.2 ⟨(), hc, rfl⟩

/-- An expression of a condition list has just the options and fields of the sorted list, and these pass the
operator's check. -/
theorem new_list_eq_ok_iff {o : Value} (ho : o.operator? = some operator) {vs : List Value} {e : Expression} :
    new o (.list vs) = .ok e ↔ e.operator = operator ∧ (sort operator vs).Options operator e.options ∧
      (sort operator vs).Fields e.fields ∧ checkFields operator e.fields = .ok () := by
  have hfinds := finds_sort operator vs
  rw [new, ho]
  dsimp only
  rw [Value.conditions_list, ofConditions_eq_ok_iff, hfinds.optionsOf_eq_ok_iff, hfinds.fieldsOf_eq_ok_iff]

/-- Every known operator makes an expression of a condition list if and only if the words of its options can
be computed, every candidate for a field converts, and the fields so made pass the operator's check. Its
options and fields are then those of the sorted list, and the list is sorted without loss. -/
theorem new_list_sorted {o : Value} (ho : o.operator? = some operator) (vs : List Value) :
    ((∃ e, new o (.list vs) = .ok e) ↔
      (∀ name ∈ operator.accepted, ∃ found, FirstOption name (sort operator vs).forOptions found) ∧
      (∀ v ∈ (sort operator vs).values, ∃ found, FieldValue.ofValue v = .ok found) ∧
      (∀ p ∈ (sort operator vs).named, ∃ f, FieldValue.new p.1 p.2 = .ok f) ∧
      ∀ fields, (sort operator vs).Fields fields → checkFields operator fields = .ok ()) ∧
    (∀ e, new o (.list vs) = .ok e ↔ e.operator = operator ∧ (sort operator vs).Options operator e.options ∧
      (sort operator vs).Fields e.fields ∧ checkFields operator e.fields = .ok ()) ∧
    (sort operator vs).Splits (vs.map (Value.role operator)) := by
  refine ⟨?_, fun e => new_list_eq_ok_iff ho, splits_sort operator vs⟩
  simp only [← exists_forall₂_iff]
  constructor
  · rintro ⟨e, he⟩
    obtain ⟨-, ⟨found, hfound, -⟩, hfields, hcheck⟩ := (new_list_eq_ok_iff ho).1 he
    -- the candidates convert in one way only, so any fields of the sorted list are those of the expression
    have hsame (fields : List FieldValue) (h : (sort operator vs).Fields fields) : fields = e.fields :=
      fields_unique h hfields
    obtain ⟨unnamed, named, hu, hn, -⟩ := hfields
    refine ⟨⟨found, hfound⟩, ⟨unnamed, hu⟩, ⟨named, hn⟩, fun fields h => ?_⟩
    rw [hsame fields h]
    exact hcheck
  · rintro ⟨⟨found, hfound⟩, ⟨unnamed, hu⟩, ⟨named, hn⟩, hcheck⟩
    have hfields : (sort operator vs).Fields (unnamed.filterMap id ++ named) := ⟨unnamed, named, hu, hn, rfl⟩
    exact ⟨⟨operator, (sort operator vs).accepted ++ found.filterMap id, unnamed.filterMap id ++ named⟩,
      (new_list_eq_ok_iff ho).2 ⟨rfl, ⟨found, hfound, rfl⟩, hfields, hcheck _ hfields⟩⟩

/-- A pair without a value keeps a later one of its name from giving an option, and a mapping of no entries is
no field. -/
theorem new_list_of_shadowed_boost : (Value.text "and").operator? = some .and ∧
    new (.text "and") (.list [.tuple [.text "boost", .null], .tuple [.text "title", .text "space"], .null,
        .text "star", .mapping [], .option ⟨.field, some "a"⟩, .tuple [.text "boost", .int 2]]) =
      .ok ⟨.and, [], [⟨.text "star", none⟩, ⟨.text "space", some "title"⟩]⟩ := by
  have ho : (Value.text "and").operator? = some .and := by decide
  refine ⟨ho, ((new_list_sorted ho _).2.1 _).2 ⟨rfl, ⟨[none], ?_, rfl⟩, ?_, rfl⟩⟩
  · exact .cons (.null _) .nil
  · refine ⟨[some ⟨.text "star", none⟩, none], [⟨.text "space", some "title"⟩], ?_, ?_, rfl⟩
    · exact .cons rfl (.cons rfl .nil)
    · exact .cons rfl .nil

end Expression

end StructuredQuery
