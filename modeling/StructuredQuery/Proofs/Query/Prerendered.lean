import StructuredQuery.Proofs.Expression.Sorting
import StructuredQuery.Proofs.Query.Fragment

/-!
Parts of a query that are given as their own text. The text of an expression or an interval looks like one, so
it is taken over into a query as it is; and where an operator does not ask for a text, it may stand for the
part that it was made of.
-/

namespace StructuredQuery

open Text

/-- A nested expression or an interval with its text in a query. -/
inductive Value.RendersTo : Value → String → Prop
  | expression {e : Expression} {t : String} (h : e.render = .ok t) : RendersTo (.expression e) t
  | interval {r : Interval} {t : String} (h : r.render = .ok t) : RendersTo (.range r) t

/-- An entry of a condition list and what may stand in its place: itself, or its text if it is an expression or
an interval, or the pair with the text of its value, if the key makes it a named field. -/
inductive Value.Replaced (operator : Operator) : Value → Value → Prop
  | same (v : Value) : Replaced operator v v
  | entry {v : Value} {t : String} (h : v.RendersTo t) : Replaced operator v (.text t)
  | named {key v : Value} {s t : String} (hs : key.text? = some s) (hne : s ≠ "")
      (ho : Operator.ofText? s = none) (ha : ∀ name ∈ operator.accepted, OptionName.ofText? s ≠ some name)
      (h : v.RendersTo t) : Replaced operator (.tuple [key, v]) (.tuple [key, .text t])

/-! ## Texts of parts -/

theorem map_ofList_eq_ok_iff {r : Except Fault (List Char)} {t : String} :
    r.map String.ofList = .ok t ↔ r = .ok t.toList := by
  rw [map_eq_ok_iff]
  constructor
  · rintro ⟨cs, rfl, rfl⟩
    rw [String.toList_ofList]
  · intro h
    exact ⟨t.toList, h, String.ofList_toList⟩

/-- Whatever its bounds are, the text of an interval has a bracket at each end and a comma between them. -/
theorem Interval.isRangeText_of_written {r : Interval} {cs : List Char} (h : r.written = .ok cs) :
    isRangeText cs := by
  obtain ⟨lower, lowerInclusive, upper, upperInclusive⟩ := r
  rw [Interval.written_mk] at h
  obtain ⟨low, hlow, h⟩ := bind_eq_ok_iff.1 h
  obtain ⟨high, hhigh, h⟩ := bind_eq_ok_iff.1 h
  obtain rfl := Except.ok.inj h
  -- a missing bound leaves its bracket alone, any other is written between its bracket and the comma
  have hopening : ∃ c left, low = c :: left ∧ (c = '[' ∨ c = '{') := by
    split at hlow
    · exact ⟨'{', [], (Except.ok.inj hlow).symm, .inr rfl⟩
    · obtain ⟨text, -, rfl⟩ := map_eq_ok_iff.1 hlow
      refine ⟨_, text, rfl, ?_⟩
      cases lowerInclusive <;> simp
  have hclosing : ∃ d left, high = left ++ [d] ∧ (d = ']' ∨ d = '}') := by
    split at hhigh
    · exact ⟨'}', [], (Except.ok.inj hhigh).symm, .inr rfl⟩
    · obtain ⟨text, -, rfl⟩ := map_eq_ok_iff.1 hhigh
      refine ⟨_, text, rfl, ?_⟩
      cases upperInclusive <;> simp
  obtain ⟨c, left, rfl, hc⟩ := hopening
  obtain ⟨d, right, rfl, hd⟩ := hclosing
  have hends : c :: left ++ ',' :: (right ++ [d]) = (c :: left ++ ',' :: right) ++ [d] := by simp
  refine Query.isRangeText_of_comma hc hd ?_ (List.mem_append_right left List.mem_cons_self)
  change (c :: left ++ ',' :: (right ++ [d])).getLast? = some d
  rw [hends, List.getLast?_concat]

theorem Expression.isParenthesized_of_written {e : Expression} {cs : List Char} (h : e.written = .ok cs) :
    isParenthesized cs := by
  obtain ⟨body, rfl⟩ := exists_of_written h
  rw [isParenthesized, ← List.cons_append, List.getLast?_concat]
  rfl

namespace Value.RendersTo

variable {v : Value} {t : String}

/-- The text is what the part shows as the content of a field. -/
theorem writeContent_eq (h : v.RendersTo t) : writeContent v v.written = .ok t.toList := by
  cases h with
  | expression h =>
    rw [Value.written]
    exact map_ofList_eq_ok_iff.1 h
  | interval h =>
    rw [Value.written]
    exact map_ofList_eq_ok_iff.1 h

/-- A value that is replaced by its text has one that is taken over as it is. -/
theorem isOpaque (h : v.RendersTo t) : Text.isOpaque t.toList := by
  rw [Text.isOpaque, Bool.or_eq_true]
  cases h with
  | expression h => exact .inl (Expression.isParenthesized_of_written (map_ofList_eq_ok_iff.1 h))
  | interval h => exact .inr (Interval.isRangeText_of_written (map_ofList_eq_ok_iff.1 h))

/-- A named field shows the same with the text as with the part. -/
theorem written_eq (h : v.RendersTo t) (name : Option String) :
    FieldValue.written ⟨.text t, name⟩ = FieldValue.written ⟨v, name⟩ := by
  have htext : writeContent (.text t) (Value.written (.text t)) = .ok t.toList := by
    simp [writeContent, Value.isNumber, Value.text?, h.isOpaque]
  rw [FieldValue.written, FieldValue.written, h.writeContent_eq, htext]

end Value.RendersTo

/-- A value to match and what may stand in its place. -/
inductive Value.ReplacedAlone : Value → Value → Prop
  | same (v : Value) : ReplacedAlone v v
  | text {v : Value} {t : String} (h : v.RendersTo t) : ReplacedAlone v (.text t)

inductive FieldValue.Replaced : FieldValue → FieldValue → Prop
  | same (f : FieldValue) : Replaced f f
  | text {v : Value} {t : String} (h : v.RendersTo t) (name : Option String) : Replaced ⟨v, name⟩ ⟨.text t, name⟩

namespace FieldValue

/-- A replaced field is written as before. -/
theorem Replaced.written_eq {f g : FieldValue} (h : Replaced f g) : g.written = f.written := by
  cases h with
  | same => rfl
  | text h name => exact h.written_eq name

/-- A value to match becomes the field that it became, or the one that shows its text. -/
theorem exists_ofValue_of_replaced {v w : Value} {found : Option FieldValue} (h : v.ReplacedAlone w)
    (hv : ofValue v = .ok found) : ∃ found', ofValue w = .ok found' ∧ Option.Rel Replaced found found' := by
  cases h with
  | same =>
    refine ⟨found, hv, ?_⟩
    cases found with
    | none => exact .none
    | some f => exact .some (.same f)
  | @text t h =>
    have hmade : ofValue v = .ok (some ⟨v, none⟩) := by cases h <;> rfl
    obtain rfl := Except.ok.inj (hmade.symm.trans hv)
    exact ⟨some ⟨.text t, none⟩, rfl, .some (.text h none)⟩

/-- The value of a named pair keeps its text in a query, whatever its key is. -/
theorem exists_new_of_rendersTo {key v : Value} {t : String} {f : FieldValue} (ho : key.operator? = none)
    (h : v.RendersTo t) (hv : new key v = .ok f) : ∃ g, new key (.text t) = .ok g ∧ Replaced f g := by
  have hcontent : new key v = (key.fieldName? : Except Error _) >>= fun name => pure ⟨v, name⟩ := by
    rw [new, ofNamed, ho]
    cases h <;> rfl
  rw [hcontent] at hv
  obtain ⟨name, hname, hv⟩ := bind_eq_ok_iff.1 hv
  obtain rfl := Except.ok.inj hv
  refine ⟨⟨.text t, name⟩, ?_, .text h name⟩
  rw [new, ofNamed, ho]
  exact bind_eq_ok_iff.2 ⟨name, hname, rfl⟩

end FieldValue

/-! ## Condition lists with parts replaced -/

namespace Expression

inductive ReplacedPair : Value × Value → Value × Value → Prop
  | same (p : Value × Value) : ReplacedPair p p
  | text {key v : Value} {t : String} (ho : key.operator? = none) (h : v.RendersTo t) :
      ReplacedPair (key, v) (key, .text t)

/-- Two sorted lists, the second of which has texts in place of some values. -/
structure Sorted.Replaced (s s' : Sorted) : Prop where
  accepted : s'.accepted = s.accepted
  forOptions : s'.forOptions = s.forOptions
  values : List.Forall₂ Value.ReplacedAlone s.values s'.values
  named : List.Forall₂ ReplacedPair s.named s'.named

variable {operator : Operator}

/-- What is the same in both lists keeps them replaced by roles. -/
theorem Sorted.Replaced.add_self {s s' : Sorted} (h : s.Replaced s') (r : Role) :
    (s.add r).Replaced (s'.add r) := by
  obtain ⟨haccepted, hforOptions, hvalues, hnamed⟩ := h
  cases r with
  | nothing => exact ⟨haccepted, hforOptions, hvalues, hnamed⟩
  | accepted o => exact ⟨congrArg (o :: ·) haccepted, hforOptions, hvalues, hnamed⟩
  | refused o => exact ⟨haccepted, hforOptions, hvalues, hnamed⟩
  | forOption name value => exact ⟨haccepted, congrArg ((name, value) :: ·) hforOptions, hvalues, hnamed⟩
  | value v => exact ⟨haccepted, hforOptions, .cons (.same v) hvalues, hnamed⟩
  | named key value => exact ⟨haccepted, hforOptions, hvalues, .cons (.same _) hnamed⟩

/-- An interval or expression is a value to match. -/
theorem role_of_rendersTo {v : Value} {t : String} (h : v.RendersTo t) : v.role operator = .value v := by
  cases h <;> rfl

/-- A pair whose key names no option that is accepted is a named field. -/
theorem role_of_namedField {key : Value} {s : String} (hs : key.text? = some s) (hne : s ≠ "")
    (ha : ∀ name ∈ operator.accepted, OptionName.ofText? s ≠ some name) (v : Value) :
    (Value.tuple [key, v]).role operator = .named key v := by
  have hpair : (Value.tuple [key, v]).namedPair? = some (key, v) := by
    simp [Value.namedPair?, hs, hne]
  refine Value.role_of_named hpair (Operator.forOption?_eq_none_iff.2 fun name hn hname => ha name hn ?_)
  rwa [Value.optionName?, hs] at hname

/-- Replaced entries are sorted to the same places. -/
theorem replaced_sort {vs ws : List Value} (h : List.Forall₂ (Value.Replaced operator) vs ws) :
    (sort operator vs).Replaced (sort operator ws) := by
  induction h with
  | nil => exact ⟨rfl, rfl, .nil, .nil⟩
  | cons hfirst _ ih =>
    cases hfirst with
    | same => exact ih.add_self _
    | @entry v t h =>
      obtain ⟨haccepted, hforOptions, hvalues, hnamed⟩ := ih
      rw [sort, sort, role_of_rendersTo h]
      exact ⟨haccepted, hforOptions, .cons (.text h) hvalues, hnamed⟩
    | @named key v s t hs hne ho ha h =>
      obtain ⟨haccepted, hforOptions, hvalues, hnamed⟩ := ih
      have hoperator : key.operator? = none := by
        rw [Value.operator?, hs]
        exact ho
      rw [sort, sort, role_of_namedField hs hne ha, role_of_namedField hs hne ha]
      exact ⟨haccepted, hforOptions, hvalues, .cons (.text hoperator h) hnamed⟩

/-- Rows that are related member by member have results that are. -/
theorem exists_forall₂_of_related {α β γ δ : Type} {R : α → β → Prop} {S : α → γ → Prop} {S' : β → δ → Prop}
    {T : γ → δ → Prop} (hstep : ∀ a b c, R a b → S a c → ∃ d, S' b d ∧ T c d) {as : List α} {bs : List β}
    {cs : List γ} (h : List.Forall₂ R as bs) (hs : List.Forall₂ S as cs) :
    ∃ ds, List.Forall₂ S' bs ds ∧ List.Forall₂ T cs ds := by
  induction h generalizing cs with
  | nil =>
    cases hs
    exact ⟨[], .nil, .nil⟩
  | cons hab _ ih =>
    cases hs with
    | cons hac hs =>
      obtain ⟨d, hd, ht⟩ := hstep _ _ _ hab hac
      obtain ⟨ds, hds, hts⟩ := ih hs
      exact ⟨d :: ds, .cons hd hds, .cons ht hts⟩

/-- The fields of the second list are those of the first, with texts shown in place of some values. -/
theorem Sorted.Replaced.exists_fields {s s' : Sorted} (h : s.Replaced s') {fields : List FieldValue}
    (hf : s.Fields fields) : ∃ fields', s'.Fields fields' ∧ List.Forall₂ FieldValue.Replaced fields fields' := by
  obtain ⟨unnamed, named, hu, hn, rfl⟩ := hf
  have hvalue (v w : Value) (found : Option FieldValue) (hvw : v.ReplacedAlone w)
      (hv : FieldValue.ofValue v = .ok found) :
      ∃ found', FieldValue.ofValue w = .ok found' ∧ Option.Rel FieldValue.Replaced found found' :=
    FieldValue.exists_ofValue_of_replaced hvw hv
  obtain ⟨unnamed', hu', hunnamed⟩ := exists_forall₂_of_related hvalue h.values hu
  have hpair (p q : Value × Value) (f : FieldValue) (hpq : ReplacedPair p q)
      (hp : FieldValue.new p.1 p.2 = .ok f) : ∃ g, FieldValue.new q.1 q.2 = .ok g ∧ FieldValue.Replaced f g := by
    cases hpq with
    | same => exact ⟨f, hp, .same f⟩
    | text ho h => exact FieldValue.exists_new_of_rendersTo ho h hp
  obtain ⟨named', hn', hnamed⟩ := exists_forall₂_of_related hpair h.named hn
  refine ⟨unnamed'.filterMap id ++ named', ⟨unnamed', named', hu', hn', rfl⟩, ?_⟩
  exact List.rel_append (List.rel_filterMap (fun _ _ h => h) hunnamed) hnamed

/-- No operator that takes any kind of value tells a part from its text, nor does one that asks for an
interval. -/
theorem checkFields_of_replaced {fields fields' : List FieldValue}
    (ho : operator ∈ [Operator.and, .or, .not, .term, .range])
    (h : List.Forall₂ FieldValue.Replaced fields fields') (hc : checkFields operator fields = .ok ()) :
    checkFields operator fields' = .ok () := by
  cases h with
  | nil => exact hc
  | @cons f g fs gs hfirst hothers =>
    have hempty : gs.isEmpty = fs.isEmpty := by
      cases hothers <;> rfl
    unfold checkFields at hc ⊢
    dsimp only at hc ⊢
    rw [hempty]
    split at hc
    · cases hc
    · next hsingle =>
      rw [if_neg hsingle]
      cases operator with
      | and | or | not | term => rfl
      -- these ask for a text, and are not among the operators here
      | near | phrase | beginning => simp at ho
      | range =>
        cases hfirst with
        | same => exact hc
        | text h =>
          cases h with
          | expression h => cases hc
          | interval h =>
            have hrange := Interval.isRangeText_of_written (map_ofList_eq_ok_iff.1 h)
            simp [Value.text?, hrange]

theorem writtenFields_of_replaced {fields fields' : List FieldValue}
    (h : List.Forall₂ FieldValue.Replaced fields fields') : writtenFields fields' = writtenFields fields := by
  induction h with
  | nil => rfl
  | cons hfirst _ ih => rw [writtenFields, writtenFields, hfirst.written_eq, ih]

/-- Where an operator does not ask for a text, expressions and intervals may be given as their own texts, as
entries or as the values of named fields: an expression is made again, and it has the same text. The text of
every interval that has one looks like an interval. -/
theorem new_list_of_replaced :
    (∀ (o : Value) (operator : Operator) (vs ws : List Value) (e : Expression) (text : String),
      o.operator? = some operator → operator ∈ [Operator.and, .or, .not, .term, .range] →
      List.Forall₂ (Value.Replaced operator) vs ws → new o (.list vs) = .ok e → e.render = .ok text →
      ∃ e', new o (.list ws) = .ok e' ∧ e'.render = .ok text) ∧
    ∀ (r : Interval) (text : String), r.render = .ok text → isRangeText text.toList := by
  constructor
  · intro o operator vs ws e text ho hoperator hrow he htext
    -- the list is sorted alike, so options and fields are found alike, and the fields are written alike
    have hsorted := replaced_sort hrow
    obtain ⟨rfl, ⟨found, hfound, hoptions⟩, hfields, hcheck⟩ := (new_list_eq_ok_iff ho).1 he
    obtain ⟨fields', hfields', hrel⟩ := hsorted.exists_fields hfields
    refine ⟨⟨e.operator, e.options, fields'⟩, (new_list_eq_ok_iff ho).2 ⟨rfl, ⟨found, ?_, ?_⟩, hfields', ?_⟩, ?_⟩
    · rw [hsorted.forOptions]
      exact hfound
    · rw [hsorted.accepted]
      exact hoptions
    · exact checkFields_of_replaced hoperator hrel hcheck
    · obtain ⟨operator, options, fields⟩ := e
      rw [← htext, Expression.render, Expression.render, Expression.written, Expression.written,
        writtenFields_of_replaced hrel]
  · intro r text h
    exact Interval.isRangeText_of_written (map_ofList_eq_ok_iff.1 h)

/-- A nested expression and a named interval, whose bound holds a comma, a quote and brackets, given as their
own texts. -/
theorem new_list_of_replaced_brackets :
    let inner : Expression := ⟨.not, [], [⟨.text "x)", none⟩]⟩
    let r : Interval := ⟨.text "a],'(b", true, .null, false⟩
    let shown := "['a],\\'(b',\x7d"
    let vs : List Value := [.expression inner, .tuple [.text "title", .range r]]
    let e : Expression := ⟨.and, [], [⟨.expression inner, none⟩, ⟨.range r, some "title"⟩]⟩
    let text := "(and (not 'x)') title:['a],\\'(b',\x7d)"
    (Value.text "and").operator? = some .and ∧ Operator.and ∈ [Operator.and, .or, .not, .term, .range] ∧
      new (.text "and") (.list vs) = .ok e ∧ e.render = .ok text ∧ r.render = .ok shown ∧
      (∃ e', new (.text "and") (.list [.text "(not 'x)')", .tuple [.text "title", .text shown]]) = .ok e' ∧
        e'.render = .ok text) ∧
      isRangeText shown.toList := by
  intro inner r shown vs e text
  have ho : (Value.text "and").operator? = some .and := by decide
  have hnew : new (.text "and") (.list vs) = .ok e := rfl
  have htext : e.render = .ok text := by rfl
  have hinner : inner.render = .ok "(not 'x)')" := by rfl
  have hr : r.render = .ok shown := by rfl
  have hnamed : Value.Replaced .and (.tuple [.text "title", .range r]) (.tuple [.text "title", .text shown]) :=
    .named (s := "title") rfl (by decide) (by decide) (by decide) (.interval hr)
  have hrow : List.Forall₂ (Value.Replaced .and) vs
      [.text "(not 'x)')", .tuple [.text "title", .text shown]] :=
    .cons (.entry (.expression hinner)) (.cons hnamed .nil)
  have hmade := new_list_of_replaced.1 _ _ _ _ _ _ ho (by decide) hrow hnew htext
  exact ⟨ho, by decide, hnew, htext, hr, hmade, new_list_of_replaced.2 _ _ hr⟩

end Expression

end StructuredQuery
