import StructuredQuery.Proofs.Query.Options

/-!
What else than a broken rule making fails by. Values are shown and written inside the refusals, and the keys of a
mapping are sorted; so an integer of too many digits, a finished field of something that has no query text, or keys
without an order end the making by a failure that names no rule. There is no other way to fail.
-/

namespace StructuredQuery

/-! ## What cannot be shown or written -/

/-- Somewhere in a value stands one with a property: itself, or one in a part of it. -/
inductive Value.Somewhere (P : Value → Prop) : Value → Prop
  | here {v : Value} (h : P v) : Somewhere P v
  | item {items : List Value} {v : Value} (hm : v ∈ items) (h : Somewhere P v) : Somewhere P (.list items)
  | part {items : List Value} {v : Value} (hm : v ∈ items) (h : Somewhere P v) : Somewhere P (.tuple items)
  | key {entries : List (Value × Value)} {entry : Value × Value} (hm : entry ∈ entries)
      (h : Somewhere P entry.1) : Somewhere P (.mapping entries)
  | value {entries : List (Value × Value)} {entry : Value × Value} (hm : entry ∈ entries)
      (h : Somewhere P entry.2) : Somewhere P (.mapping entries)
  | member {enumeration name : String} {v : Value} (h : Somewhere P v) :
      Somewhere P (.member enumeration name v)
  | lower {r : Interval} (h : Somewhere P r.lower) : Somewhere P (.range r)
  | upper {r : Interval} (h : Somewhere P r.upper) : Somewhere P (.range r)
  | content {f : FieldValue} (h : Somewhere P f.value) : Somewhere P (.field f)
  | field {e : Expression} {f : FieldValue} (hm : f ∈ e.fields) (h : Somewhere P (.field f)) :
      Somewhere P (.expression e)

/-- Whether a value has a text in a query by itself: parts of queries, points in time, numbers and texts. -/
def Value.hasQueryText : Value → Bool
  | .range _ => true
  | .expression _ => true
  | .option _ => true
  | .timestamp _ => true
  | v => v.isNumber || v.text?.isSome

/-- A value that cannot be shown, or has no query text, for what it is itself, and the failure that this causes. -/
inductive Value.Causes : Fault → Value → Prop
  /-- An integer of too many digits. -/
  | int {n : Int} (h : ¬Integer.IsShort n) : Causes .digitLimit (.int n)
  /-- A progression that such an integer describes. -/
  | progression {p : Progression} {n : Int} (hn : n ∈ [p.start, p.stop, p.step]) (h : ¬Integer.IsShort n) :
      Causes .digitLimit (.progression p)
  /-- A finished field of bytes. -/
  | bytes (bs : List UInt8) (name : Option String) : Causes .wrongKind (.field ⟨.bytes bs, name⟩)
  /-- A finished field of anything else that has no query text. -/
  | field {v : Value} (name : Option String) (hb : ∀ bs, v ≠ .bytes bs) (h : v.hasQueryText = false) :
      Causes .missingPart (.field ⟨v, name⟩)

/-- Something in a value may end the showing or writing of it by a failure. -/
abbrev Value.FailsBy (v : Value) (f : Fault) : Prop := v.Somewhere (Value.Causes f)

/-! ## Values shown -/

theorem Limited.imp {α : Type} {long long' : Prop} {r : Except Fault α} (hr : Limited long r)
    (h : long → long') : Limited long' r :=
  fun f hf => (hr f hf).imp_right h

-- Along the structure of values, as showing itself: a value, its items, its entries and its fields.
mutual

/-- Showing a value fails only for the digits of an integer in it. -/
theorem Value.limited_shown : ∀ v : Value, Limited (v.FailsBy .digitLimit) v.shown
  | .int n => by
    rw [Value.shown]
    exact (Integer.limited_write (Classical.em _)).imp fun hn => .here (.int hn)
  | .progression p => by
    have hpart (n : Int) (hn : n ∈ [p.start, p.stop, p.step]) :
        Limited ((Value.progression p).FailsBy .digitLimit) (Integer.write n) :=
      (Integer.limited_write (Classical.em _)).imp fun hs => .here (.progression hn hs)
    rw [Value.shown]
    refine (hpart p.start (by simp)).bind fun _ => (hpart p.stop (by simp)).bind fun _ => ?_
    exact (hpart p.step (by simp)).bind fun _ => limited_ok _
  | .list items => by
    rw [Value.shown]
    exact ((limited_shownItems_of items).imp fun ⟨v, hm, hv⟩ => .item hm hv).bind fun _ => limited_ok _
  | .tuple items => by
    rw [Value.shown]
    exact ((limited_shownItems_of items).imp fun ⟨v, hm, hv⟩ => .part hm hv).bind fun _ => limited_ok _
  | .mapping entries => by
    rw [Value.shown]
    refine ((limited_shownEntries_of entries).imp fun ⟨entry, hm, he⟩ => ?_).bind fun _ => limited_ok _
    exact he.elim (.key hm) (.value hm)
  | .member _ _ value => by
    rw [Value.shown]
    exact ((Value.limited_shown value).imp fun h => .member h).bind fun _ => limited_ok _
  | .range r => by
    rw [Value.shown]
    exact Interval.limited_shown r
  | .field f => by
    rw [Value.shown]
    exact FieldValue.limited_shown f
  | .expression e => by
    rw [Value.shown]
    exact Expression.limited_shown e
  | .null | .bool _ | .float _ | .decimal _ | .text _ | .operator _ | .optionName _ | .timestamp _ | .date _
  | .time _ | .bytes _ | .option _ => by
    rw [Value.shown]
    exact limited_ok _

/-- Showing a row of values fails only with a member that cannot be shown. -/
theorem limited_shownItems_of : ∀ items : List Value,
    Limited (∃ v ∈ items, v.FailsBy .digitLimit) (shownItems items)
  | [] => limited_ok _
  | item :: rest => by
    rw [shownItems]
    refine ((Value.limited_shown item).imp fun h => ⟨item, List.mem_cons_self, h⟩).bind fun _ => ?_
    exact ((limited_shownItems_of rest).imp fun ⟨v, hm, hv⟩ => ⟨v, List.mem_cons_of_mem _ hm, hv⟩).bind
      fun _ => limited_ok _

theorem limited_shownEntries_of : ∀ entries : List (Value × Value),
    Limited (∃ entry ∈ entries, entry.1.FailsBy .digitLimit ∨ entry.2.FailsBy .digitLimit) (shownEntries entries)
  | [] => limited_ok _
  | (key, value) :: rest => by
    rw [shownEntries]
    refine ((Value.limited_shown key).imp fun h => ⟨_, List.mem_cons_self, .inl h⟩).bind fun _ => ?_
    refine ((Value.limited_shown value).imp fun h => ⟨_, List.mem_cons_self, .inr h⟩).bind fun _ => ?_
    exact ((limited_shownEntries_of rest).imp fun ⟨e, hm, he⟩ => ⟨e, List.mem_cons_of_mem _ hm, he⟩).bind
      fun _ => limited_ok _

theorem Interval.limited_shown : ∀ r : Interval, Limited ((Value.range r).FailsBy .digitLimit) r.shown
  | ⟨lower, lowerInclusive, upper, upperInclusive⟩ => by
    rw [Interval.shown]
    refine ((Value.limited_shown lower).imp fun h => .lower h).bind fun _ => ?_
    exact ((Value.limited_shown upper).imp fun h => .upper h).bind fun _ => limited_ok _

theorem FieldValue.limited_shown : ∀ f : FieldValue, Limited ((Value.field f).FailsBy .digitLimit) f.shown
  | ⟨value, name⟩ => by
    rw [FieldValue.shown]
    exact ((Value.limited_shown value).imp fun h => .content h).bind fun _ => limited_ok _

theorem Expression.limited_shown : ∀ e : Expression, Limited ((Value.expression e).FailsBy .digitLimit) e.shown
  | ⟨operator, options, fields⟩ => by
    rw [Expression.shown]
    exact ((limited_shownFields fields).imp fun ⟨f, hm, hf⟩ => .field hm hf).bind fun _ => limited_ok _

theorem limited_shownFields : ∀ fields : List FieldValue,
    Limited (∃ f ∈ fields, (Value.field f).FailsBy .digitLimit) (shownFields fields)
  | [] => limited_ok _
  | field :: rest => by
    rw [shownFields]
    refine ((FieldValue.limited_shown field).imp fun h => ⟨field, List.mem_cons_self, h⟩).bind fun _ => ?_
    exact ((limited_shownFields rest).imp fun ⟨f, hm, hf⟩ => ⟨f, List.mem_cons_of_mem _ hm, hf⟩).bind
      fun _ => limited_ok _

end

/-! ### What is shown has nothing in it that fails -/

/-- A row of results gives a row of values only if each of them gives one. -/
theorem exists_of_mapM_eq_ok {α β ε : Type} {f : α → Except ε β} {xs : List α} {ys : List β}
    (h : xs.mapM f = .ok ys) : ∀ x ∈ xs, ∃ y, f x = .ok y := by
  induction xs generalizing ys with
  | nil => simp
  | cons x rest ih =>
    rw [List.mapM_cons] at h
    obtain ⟨y, hx, h⟩ := bind_eq_ok_iff.1 h
    obtain ⟨more, hrest, -⟩ := bind_eq_ok_iff.1 h
    exact List.forall_mem_cons.2 ⟨⟨y, hx⟩, ih hrest⟩

theorem shownItems_eq_mapM (items : List Value) : shownItems items = items.mapM Value.shown := by
  induction items with
  | nil => rfl
  | cons item rest ih => rw [shownItems, List.mapM_cons, ih]

theorem shownFields_eq_mapM (fields : List FieldValue) : shownFields fields = fields.mapM FieldValue.shown := by
  induction fields with
  | nil => rfl
  | cons field rest ih => rw [shownFields, List.mapM_cons, ih]

def shownEntry (entry : Value × Value) : Except Fault String := do
  let left ← entry.1.shown
  let right ← entry.2.shown
  return s!"{left}: {right}"

theorem shownEntries_eq_mapM (entries : List (Value × Value)) :
    shownEntries entries = entries.mapM shownEntry := by
  induction entries with
  | nil => rfl
  | cons entry rest ih =>
    rw [shownEntries, List.mapM_cons, ih, shownEntry]
    simp only [bind_assoc, pure_bind]

/-- A value with an integer of too many digits is never shown. -/
theorem Value.FailsBy.shown_ne_ok {v : Value} (h : v.FailsBy .digitLimit) (text : String) : v.shown ≠ .ok text := by
  intro hs
  induction h generalizing text with
  | here h =>
    cases h with
    | int hn =>
      rw [shown] at hs
      exact hn (Integer.length_of_write hs)
    | progression hm hn =>
      rw [shown] at hs
      obtain ⟨start, hstart, hs⟩ := bind_eq_ok_iff.1 hs
      obtain ⟨stop, hstop, hs⟩ := bind_eq_ok_iff.1 hs
      obtain ⟨step, hstep, -⟩ := bind_eq_ok_iff.1 hs
      simp only [List.mem_cons, List.not_mem_nil, or_false] at hm
      rcases hm with rfl | rfl | rfl
      · exact hn (Integer.length_of_write hstart)
      · exact hn (Integer.length_of_write hstop)
      · exact hn (Integer.length_of_write hstep)
  | item hm _ ih | part hm _ ih =>
    rw [shown, shownItems_eq_mapM] at hs
    obtain ⟨texts, hitems, -⟩ := bind_eq_ok_iff.1 hs
    obtain ⟨text, hv⟩ := exists_of_mapM_eq_ok hitems _ hm
    exact ih text hv
  | key hm _ ih =>
    rw [shown, shownEntries_eq_mapM] at hs
    obtain ⟨texts, hentries, -⟩ := bind_eq_ok_iff.1 hs
    obtain ⟨text, hentry⟩ := exists_of_mapM_eq_ok hentries _ hm
    obtain ⟨left, hkey, -⟩ := bind_eq_ok_iff.1 hentry
    exact ih left hkey
  | value hm _ ih =>
    rw [shown, shownEntries_eq_mapM] at hs
    obtain ⟨texts, hentries, -⟩ := bind_eq_ok_iff.1 hs
    obtain ⟨text, hentry⟩ := exists_of_mapM_eq_ok hentries _ hm
    obtain ⟨left, -, hentry⟩ := bind_eq_ok_iff.1 hentry
    obtain ⟨right, hvalue, -⟩ := bind_eq_ok_iff.1 hentry
    exact ih right hvalue
  | member _ ih =>
    rw [shown] at hs
    obtain ⟨held, hvalue, -⟩ := bind_eq_ok_iff.1 hs
    exact ih held hvalue
  | @lower r _ ih =>
    obtain ⟨lower, lowerInclusive, upper, upperInclusive⟩ := r
    rw [shown, Interval.shown] at hs
    obtain ⟨low, hlow, -⟩ := bind_eq_ok_iff.1 hs
    exact ih low hlow
  | @upper r _ ih =>
    obtain ⟨lower, lowerInclusive, upper, upperInclusive⟩ := r
    rw [shown, Interval.shown] at hs
    obtain ⟨low, -, hs⟩ := bind_eq_ok_iff.1 hs
    obtain ⟨high, hhigh, -⟩ := bind_eq_ok_iff.1 hs
    exact ih high hhigh
  | @content f _ ih =>
    obtain ⟨value, name⟩ := f
    rw [shown, FieldValue.shown] at hs
    obtain ⟨content, hcontent, -⟩ := bind_eq_ok_iff.1 hs
    exact ih content hcontent
  | @field e f hm _ ih =>
    obtain ⟨operator, options, fields⟩ := e
    rw [shown, Expression.shown, shownFields_eq_mapM] at hs
    obtain ⟨texts, hfields, -⟩ := bind_eq_ok_iff.1 hs
    obtain ⟨text, hf⟩ := exists_of_mapM_eq_ok hfields f hm
    refine ih text ?_
    rw [shown]
    exact hf

/-- A value cannot be shown exactly if there is an integer of too many digits in it. -/
theorem Value.shown_eq_error_iff {v : Value} {f : Fault} :
    v.shown = .error f ↔ f = .digitLimit ∧ v.FailsBy .digitLimit := by
  constructor
  · exact v.limited_shown f
  · rintro ⟨rfl, h⟩
    cases hs : v.shown with
    | ok text => exact absurd hs (h.shown_ne_ok text)
    | error f => rw [(v.limited_shown f hs).1]

/-! ## Values written -/

-- As an implication this is not unfolded to the value of a closed result, which `Meets` is: writing an integer would be
-- computed up to the power of ten that it is compared with.
def FailsOnly {α : Type} (E : Fault → Prop) (r : Except Fault α) : Prop :=
  ∀ f, r = .error f → E f

section FailsOnly

variable {α β : Type} {E E' : Fault → Prop} {r : Except Fault α}

theorem failsOnly_ok (a : α) : FailsOnly E (.ok a) := by
  intro f hf
  cases hf

theorem FailsOnly.imp (hr : FailsOnly E r) (h : ∀ f, E f → E' f) : FailsOnly E' r :=
  fun f hf => h f (hr f hf)

/-- A row of steps fails as one of its steps does. -/
theorem FailsOnly.bind {g : α → Except Fault β} (hr : FailsOnly E r) (hg : ∀ a, FailsOnly E (g a)) :
    FailsOnly E (r >>= g) := by
  intro f hf
  rcases bind_eq_error_iff.1 hf with h | ⟨a, -, h⟩
  · exact hr f h
  · exact hg a f h

theorem FailsOnly.map (g : α → β) (hr : FailsOnly E r) : FailsOnly E (r.map g) := by
  cases r with
  | error fault =>
    intro f hf
    obtain rfl : fault = f := Except.error.inj hf
    exact hr fault rfl
  | ok a => exact failsOnly_ok _

end FailsOnly

theorem failsOnly_writeBound {v : Value} {E : Fault → Prop} (h : FailsOnly E v.written) :
    FailsOnly E (writeBound v v.written) := by
  unfold writeBound
  split
  · exact failsOnly_ok _
  · split
    · exact h
    · exact h.map _

/-- The content of a field fails as it is written, or else for what it is. -/
theorem failsOnly_writeContent {v : Value} (name : Option String) (h : FailsOnly v.FailsBy v.written) :
    FailsOnly (Value.field ⟨v, name⟩).FailsBy (writeContent v v.written) := by
  have hcontent : FailsOnly (Value.field ⟨v, name⟩).FailsBy v.written := h.imp fun f hf => .content hf
  unfold writeContent
  -- intervals and expressions are written by themselves, options and times by a text that is there already
  split
  · exact hcontent
  · exact hcontent
  · exact failsOnly_ok _
  · exact failsOnly_ok _
  · next bs =>
    rintro f ⟨⟩
    exact .here (.bytes bs name)
  · next hrange hexpression hoption htime hbytes =>
    split
    · exact hcontent
    · next hnumber =>
      split
      · exact failsOnly_ok _
      · next htext =>
        rintro f ⟨⟩
        refine .here (.field name hbytes ?_)
        cases v <;> simp_all [Value.hasQueryText]

mutual

/-- Writing a value fails only by what stands in it. -/
theorem Value.failsOnly_written : ∀ v : Value, FailsOnly v.FailsBy v.written
  | .range r => by
    rw [Value.written]
    exact Interval.failsOnly_written r
  | .field f => by
    rw [Value.written]
    exact FieldValue.failsOnly_written f
  | .expression e => by
    rw [Value.written]
    exact Expression.failsOnly_written e
  | .text _ | .operator _ | .optionName _ | .member _ _ _ | .decimal _ | .timestamp _ | .date _ | .time _
  | .option _ => by
    rw [Value.written]
    exact failsOnly_ok _
  | .null | .bool _ | .int _ | .float _ | .bytes _ | .list _ | .tuple _ | .progression _ | .mapping _ => by
    rw [Value.written]
    · intro f hf
      obtain ⟨rfl, hlong⟩ := (Value.limited_shown _).map _ f hf
      exact hlong
    all_goals simp

theorem Interval.failsOnly_written : ∀ r : Interval, FailsOnly (Value.range r).FailsBy r.written
  | ⟨lower, lowerInclusive, upper, upperInclusive⟩ => by
    have hside {E : Fault → Prop} {v : Value} (hv : FailsOnly E v.written) (missing : List Char)
        (f : List Char → List Char) :
        FailsOnly E (if v.isNull then pure missing else (writeBound v v.written).map f) := by
      split
      · exact failsOnly_ok _
      · exact (failsOnly_writeBound hv).map _
    rw [Interval.written_mk]
    refine (hside ((Value.failsOnly_written lower).imp fun f hf => .lower hf) _ _).bind fun _ => ?_
    exact (hside ((Value.failsOnly_written upper).imp fun f hf => .upper hf) _ _).bind fun _ => failsOnly_ok _

theorem FieldValue.failsOnly_written : ∀ f : FieldValue, FailsOnly (Value.field f).FailsBy f.written
  | ⟨value, name⟩ => by
    rw [FieldValue.written]
    exact (failsOnly_writeContent name (Value.failsOnly_written value)).map _

/-- Writing an expression fails as writing one of its values does. -/
theorem Expression.failsOnly_written : ∀ e : Expression, FailsOnly (Value.expression e).FailsBy e.written
  | ⟨operator, options, fields⟩ => by
    rw [Expression.written]
    exact ((failsOnly_writtenFields fields).imp fun f ⟨g, hm, hg⟩ => .field hm hg).bind fun _ => failsOnly_ok _

theorem failsOnly_writtenFields : ∀ fields : List FieldValue,
    FailsOnly (fun f => ∃ g ∈ fields, (Value.field g).FailsBy f) (writtenFields fields)
  | [] => failsOnly_ok _
  | field :: rest => by
    rw [writtenFields]
    refine ((FieldValue.failsOnly_written field).imp fun f h => ⟨field, List.mem_cons_self, h⟩).bind fun _ => ?_
    exact ((failsOnly_writtenFields rest).imp fun f ⟨g, hm, hg⟩ => ⟨g, List.mem_cons_of_mem _ hm, hg⟩).bind
      fun _ => failsOnly_ok _

end

/-! ## Fields and expressions -/

/-- The errors of making something of given values: a broken rule, or the failure of something in one of them. -/
inductive Error.ComesFrom (given : List Value) : Error → Prop
  | rule {e : Error} (h : e.breaksRule) : ComesFrom given e
  | failure {f : Fault} {v : Value} (hm : v ∈ given) (h : v.FailsBy f) : ComesFrom given (.fault f)

/-- What may fail in a value may fail in one of the given ones. -/
def Value.AddsNothing (given : List Value) (v : Value) : Prop :=
  ∀ f, v.FailsBy f → ∃ w ∈ given, w.FailsBy f

variable {given : List Value} {v : Value}

/-- The failure of a value that adds nothing is that of a given value. -/
theorem Value.AddsNothing.comesFrom (h : v.AddsNothing given) {f : Fault} (hf : v.FailsBy f) :
    Error.ComesFrom given (.fault f) := by
  obtain ⟨w, hm, hw⟩ := h f hf
  exact .failure hm hw

theorem Value.not_failsBy_of_text? {s : String} (hs : v.text? = some s) (f : Fault) : ¬v.FailsBy f := by
  intro h
  cases h with
  | here h =>
    cases h <;> cases hs
  | _ => cases hs

theorem Value.not_failsBy_null (f : Fault) : ¬Value.null.FailsBy f := by
  intro h
  cases h with
  | here h => cases h

/-- What may fail in a pair may fail in one of its parts. -/
theorem Value.failsBy_of_tuple {items : List Value} {f : Fault} (h : (Value.tuple items).FailsBy f) :
    ∃ v ∈ items, v.FailsBy f := by
  cases h with
  | here h => cases h
  | part hm h => exact ⟨_, hm, h⟩

/-- The name of a field fails as its text does. -/
theorem Value.failsOnly_fieldName? (name : Value) : FailsOnly name.FailsBy name.fieldName? := by
  unfold fieldName?
  split
  · exact failsOnly_ok _
  · exact ((failsOnly_written name).map _).map _

/-- What a value amounts to stands in it. -/
theorem Value.Somewhere.of_underlying {P : Value → Prop} (h : v.underlying.Somewhere P) : v.Somewhere P := by
  fun_induction underlying v with
  | case1 _ _ value ih => exact .member (ih h)
  | case2 => exact h

/-- The only step of an option that may fail is the word of its value. -/
theorem OperatorOption.failsOnly_new (name : OptionName) (value : Value) :
    FailsOnly value.FailsBy (new (.optionName name) value) := by
  intro f hf
  obtain ⟨rfl, -, n, hn, hlong⟩ := new_eq_error_iff.1 hf
  exact .of_underlying (hn ▸ .here (.int hlong))

/-- An expression is refused by the rules, or fails as a given value does. -/
theorem Expression.meets_ofConditions_given {operator : Operator} {conditions : List Condition}
    (h : ∀ c ∈ conditions, c.Holds (Value.AddsNothing given) (fun _ => True) (fun _ => True)
      (Error.ComesFrom given)) :
    Meets (fun _ => True) (Error.ComesFrom given) (ofConditions operator conditions) := by
  have hmade := meets_ofConditions operator h (fun _ _ _ _ => trivial)
    (fun name value f hv hf => hv.comesFrom (OperatorOption.failsOnly_new name value f hf))
    fun e he => .rule he.breaksRule
  exact hmade.imp fun _ _ => trivial

/-- The reading of values adds nothing that may fail. -/
theorem readingInvariant_comesFrom (given : List Value) :
    ReadingInvariant (Value.AddsNothing given) (Value.AddsNothing given) (fun _ => True) (fun _ => True)
      (Error.ComesFrom given) where
  option _ _ := trivial
  field _ _ := trivial
  items _ h v hm f hf := h f (.item hm hf)
  parts _ h v hm f hf := h f (.part hm hf)
  -- what fails in the pair of an entry fails in its key or its value
  entries es h entry he := by
    refine ⟨fun f hf => h f (.key he hf), fun f hf => ?_⟩
    obtain ⟨v, hm, hv⟩ := Value.failsBy_of_tuple hf
    rcases List.mem_pair.1 hm with rfl | rfl
    · exact h f (.key he hv)
    · exact h f (.value he hv)
  unnamed f hf := absurd hf (Value.not_failsBy_null f)
  text key s hs f hf := absurd hf (Value.not_failsBy_of_text? hs f)
  named name value conditions hn hv hc :=
    FieldValue.meets_ofNamed
      (fun _ _ => (Expression.meets_ofConditions_given hc).imp fun _ _ => trivial)
      (fun _ _ _ _ _ => trivial)
      (fun _ _ _ _ => value.meets_content (fun _ => .rule) fun f hf => by
        obtain ⟨rfl, hlong⟩ := value.limited_shown f hf
        exact hv.comesFrom hlong)
      fun f hf => hn.comesFrom (name.failsOnly_fieldName? f hf)

theorem Value.addsNothing_of_mem (hm : v ∈ given) : v.AddsNothing given :=
  fun _ hf => ⟨v, hm, hf⟩

theorem FieldValue.meets_new_given (name value : Value) :
    Meets (fun _ => True) (Error.ComesFrom [name, value]) (new name value) :=
  (readingInvariant_comesFrom [name, value]).new (Value.addsNothing_of_mem (by simp))
    (Value.addsNothing_of_mem (by simp))

theorem FieldValue.meets_ofValue_given (value : Value) :
    Meets (fun _ => True) (Error.ComesFrom [value]) (ofValue value) :=
  ((readingInvariant_comesFrom [value]).ofValue (Value.addsNothing_of_mem (by simp))).imp fun _ _ => trivial

theorem Expression.meets_new_given (operator conditions : Value) :
    Meets (fun _ => True) (Error.ComesFrom [operator, conditions]) (new operator conditions) := by
  unfold new
  split
  · have hread := (readingInvariant_comesFrom [operator, conditions]).reads conditions
      (Value.addsNothing_of_mem (by simp))
    exact meets_ofConditions_given hread.2
  · have htext : FailsOnly operator.FailsBy operator.asText := (Value.failsOnly_written operator).map _
    have hword : Meets (fun _ => True) (Error.ComesFrom [operator, conditions])
        (liftM operator.asText : Except Error String) :=
      meets_liftM (fun _ _ => trivial) fun f hf => .failure (by simp) (htext f hf)
    exact hword.bind fun _ _ _ => .rule rfl

/-! ## Keys in order -/

/-- Putting a key in order fails only in a comparison with another key. -/
theorem exists_less_of_insertSorted {vs : List Value} {f : Fault} (h : insertSorted v vs = .error f) :
    ∃ w ∈ vs, v.less w = .error f := by
  induction vs with
  | nil => cases h
  | cons w rest ih =>
    rw [insertSorted] at h
    rcases bind_eq_error_iff.1 h with hw | ⟨before, -, h⟩
    · exact ⟨w, List.mem_cons_self, hw⟩
    · cases before with
      | true => cases h
      | false =>
        rcases bind_eq_error_iff.1 h with hrest | ⟨sorted, -, h⟩
        · obtain ⟨u, hu, hless⟩ := ih hrest
          exact ⟨u, List.mem_cons_of_mem _ hu, hless⟩
        · cases h

theorem mem_of_insertSorted {vs sorted : List Value} (h : insertSorted v vs = .ok sorted) :
    ∀ u ∈ sorted, u = v ∨ u ∈ vs := by
  induction vs generalizing sorted with
  | nil =>
    obtain rfl : [v] = sorted := Except.ok.inj h
    exact fun u hu => .inl (List.mem_singleton.1 hu)
  | cons w rest ih =>
    rw [insertSorted] at h
    obtain ⟨before, -, h⟩ := bind_eq_ok_iff.1 h
    intro u hu
    cases before with
    | true =>
      obtain rfl : v :: w :: rest = sorted := Except.ok.inj h
      exact List.mem_cons.1 hu
    | false =>
      obtain ⟨inner, hinner, h⟩ := bind_eq_ok_iff.1 h
      obtain rfl : w :: inner = sorted := Except.ok.inj h
      rcases List.mem_cons.1 hu with rfl | hu
      · exact .inr List.mem_cons_self
      · exact (ih hinner u hu).imp_right (List.mem_cons_of_mem _)

/-- Sorting fails only if two of the values cannot be compared. -/
theorem exists_less_of_sortValues {vs : List Value} {f : Fault} (h : sortValues vs = .error f) :
    ∃ v ∈ vs, ∃ w ∈ vs, v.less w = .error f := by
  -- whatever is sorted already is some of the values
  have hsort : ∀ (left sorted : List Value), (∀ v ∈ sorted, v ∈ vs) → (∀ v ∈ left, v ∈ vs) →
      left.foldlM (fun sorted v => insertSorted v sorted) sorted = .error f →
      ∃ v ∈ vs, ∃ w ∈ vs, v.less w = .error f := by
    intro left
    induction left with
    | nil => exact fun _ _ _ h => by cases h
    | cons v left ih =>
      intro sorted hs hl h
      rw [List.foldlM_cons] at h
      rcases bind_eq_error_iff.1 h with hinsert | ⟨more, hmore, h⟩
      · obtain ⟨w, hw, hless⟩ := exists_less_of_insertSorted hinsert
        exact ⟨v, hl v List.mem_cons_self, w, hs w hw, hless⟩
      · refine ih more (fun u hu => ?_) (fun u hu => hl u (List.mem_cons_of_mem _ hu)) h
        rcases mem_of_insertSorted hmore u hu with rfl | hu
        · exact hl u List.mem_cons_self
        · exact hs u hu
  exact hsort vs [] (by simp) (fun _ hv => hv) h

namespace Interval

/-- Two keys of a mapping which name no bound cannot be compared. -/
def Unordered (v : Value) (f : Fault) : Prop :=
  ∃ entries, v = .mapping entries ∧ ∃ a ∈ entries, ∃ b ∈ entries,
    isDescriptorKey a.1 = false ∧ isDescriptorKey b.1 = false ∧ a.1.less b.1 = .error f

/-- An interval fails to be made by a broken rule, or while the keys for its refusal are sorted. -/
theorem meets_ofValue (v : Value) :
    Meets (fun _ => True) (fun e => e.breaksRule ∨ ∃ f, e = .fault f ∧ Unordered v f) (ofValue v) := by
  have hbreaks {r : Except Error Interval} (h : Breaks r) :
      Meets (fun _ => True) (fun e => e.breaksRule ∨ ∃ f, e = .fault f ∧ Unordered v f) r :=
    h.imp_error fun _ => .inl
  unfold ofValue
  split
  · trivial
  · unfold ofProgression
    split
    · exact hbreaks (breaks_ofBounds _ _)
    · exact .inl rfl
  · next entries =>
    unfold ofMapping
    dsimp only
    split
    · exact hbreaks (breaks_ofDescriptor _ _ _ _)
    · refine Meets.bind (meets_liftM (P := fun _ => True) (fun _ _ => trivial) fun f hf => ?_) fun _ _ _ => .inl rfl
      -- sorting fails at two keys without an order, both among those that name no bound
      obtain ⟨a, ha, b, hb, hless⟩ := exists_less_of_sortValues hf
      simp only [List.mem_filter, List.mem_map, Bool.not_eq_true'] at ha hb
      obtain ⟨⟨a, hma, rfl⟩, hka⟩ := ha
      obtain ⟨⟨b, hmb, rfl⟩, hkb⟩ := hb
      exact .inr ⟨f, rfl, entries, rfl, a, hma, b, hmb, hka, hkb, hless⟩
  · exact hbreaks (breaks_ofBounds _ _)
  · exact .inl rfl

end Interval

/-! ## Containment -/

/-- A list is no value to match. Its refusal shows it, which fails exactly if there is an integer of too many digits in
it. -/
theorem FieldValue.ofValue_list_eq_fault_iff {items : List Value} {f : Fault} :
    ofValue (.list items) = .error (.fault f) ↔ f = .digitLimit ∧ (Value.list items).FailsBy .digitLimit := by
  -- without a name a list comes to the refusal that shows it
  have hmade : ofValue (.list items) = (Value.list items).unusable.map fun v => some ⟨v, none⟩ := by
    have hblank : Value.null.fieldName? = .ok none := rfl
    have hlist : ∀ f, Value.list items ≠ .field f := fun _ h => by cases h
    change (ofNamed .null (.list items) []).map some = _
    rw [ofNamed_eq [] rfl hblank hlist]
    change Except.map _ (Except.map _ (Value.list items).unusable) = _
    cases (Value.list items).unusable <;> rfl
  rw [hmade, ← Value.shown_eq_error_iff, Value.unusable]
  cases (Value.list items).shown with
  | ok text =>
    constructor
    · intro h
      cases h
    · intro h
      cases h
  | error fault =>
    constructor
    · intro h
      cases h
      rfl
    · intro h
      cases h
      rfl

/-- Error containment of making intervals, fields and expressions of any values. What is made or refused for a rule is
all but three cases. An interval of a mapping fails while it sorts keys that name no bound and have no order. A field
or an expression fails for an integer of too many digits in what it is made of, or for a finished field there that
holds something without a query text, where these are shown or written: as in a list, which no field can hold, exactly
the integers. -/
theorem making_contained (operator name value : Value) :
    Meets (fun _ => True) (fun e => e.breaksRule ∨ ∃ f, e = .fault f ∧ Interval.Unordered value f)
      (Interval.ofValue value) ∧
    Meets (fun _ => True) (Error.ComesFrom [value]) (FieldValue.ofValue value) ∧
    Meets (fun _ => True) (Error.ComesFrom [name, value]) (FieldValue.new name value) ∧
    Meets (fun _ => True) (Error.ComesFrom [operator, value]) (Expression.new operator value) ∧
    ∀ items f, FieldValue.ofValue (.list items) = .error (.fault f) ↔
      f = .digitLimit ∧ (Value.list items).FailsBy .digitLimit :=
  ⟨Interval.meets_ofValue value, FieldValue.meets_ofValue_given value, FieldValue.meets_new_given name value,
    Expression.meets_new_given operator value, fun _ _ => FieldValue.ofValue_list_eq_fault_iff⟩

/-- One more than the greatest integer that can be written. -/
theorem Integer.not_isShort_pow : ¬IsShort (10 ^ digitLimit : Nat) := by
  intro hshort
  have hlt := (Text.length_digitsOfNat_le_iff (by decide)).1 hshort
  rw [Int.natAbs_natCast] at hlt
  exact lt_irrefl _ hlt

/-- Each of the cases: keys of two kinds, a long integer in a list, and a finished field of nothing as the operator. -/
theorem making_escapes :
    Interval.ofValue (.mapping [(.int 1, .int 0), (.text "x", .int 0)]) = .error (.fault .wrongKind) ∧
      FieldValue.ofValue (.list [.int (10 ^ Integer.digitLimit : Nat)]) = .error (.fault .digitLimit) ∧
      Expression.new (.field ⟨.null, none⟩) .null = .error (.fault .missingPart) := by
  refine ⟨eq_error_of_fault? (by decide +kernel), ?_, eq_error_of_fault? (by decide +kernel)⟩
  have hlong : (Value.int (10 ^ Integer.digitLimit : Nat)).FailsBy .digitLimit := .here (.int Integer.not_isShort_pow)
  exact FieldValue.ofValue_list_eq_fault_iff.2 ⟨rfl, .item (List.mem_singleton_self _) hlong⟩

end StructuredQuery
