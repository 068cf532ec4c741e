import StructuredQuery.Proofs.Document.Bounds

/-!
Bounds under the name of a field. An array of two scalars is made an interval with the field, and the table of the
two bounds when the document is read. Both give the same expressions if the bounds make an interval. If they make
none, only a value that is never looked at, that of an option, tells the two apart.
-/

namespace StructuredQuery.Document

/-- A place in the tables of a document: under a key of one of them, then under keys of tables among conditions. -/
structure Place where
  tablesBefore : List Value
  before : List (Value × Value)
  name : String
  after : List (Value × Value)
  tablesAfter : List Value
  outer : List Level
  last : Level

def Place.under (p : Place) (v : Value) : Value :=
  fillAll p.outer (p.last.fill v)

def Place.fill (p : Place) (v : Value) : List Value :=
  p.tablesBefore ++ .mapping (p.before ++ (.text p.name, p.under v) :: p.after) :: p.tablesAfter

def Place.InOption (p : Place) : Prop :=
  ∃ operator, Operator.ofText? p.name = some operator ∧ LeadsToOption operator (p.outer.map Level.name)

/-! ## Two spellings of an interval under a name -/

section

variable {lower upper : Value} {l : Level}

/-- Under the name of a field an array of two scalars is a pair of bounds. -/
theorem pair_bounds (hl : isScalar lower) (hu : isScalar upper) (ho : Operator.ofText? l.name = none) :
    pair (.text l.name) (.list [lower, upper]) = .ok [.tuple [.text l.name, .tuple [lower, upper]]] := by
  have hbounds : bounds? [lower, upper] = some (lower, upper) := by simp [bounds?, hl, hu]
  rw [pair_text, namedValue, ho]
  simp only [hbounds, Option.isSome_none, Bool.false_eq_true, if_false]
  rfl

/-- Under the name of a field the table of two bounds is an interval, or the document cannot be read. -/
theorem pair_boundsTable (lower upper : Value) (ho : Operator.ofText? l.name = none) :
    pair (.text l.name) (boundsTable lower upper) =
      (Interval.ofBounds lower upper).map fun r => [.tuple [.text l.name, .range r]] := by
  have hrange : isRangeTable [(.text "lower", lower), (.text "upper", upper)] = true := rfl
  rw [pair_text, boundsTable, namedValue, if_pos hrange, ofMapping_bounds, ho]
  cases Interval.ofBounds lower upper <;> rfl

/-- Bounds of an interval make the same field as the interval itself. -/
theorem ofNamed_bounds {name : String} {r : Interval} (hn : name ≠ "") (ho : Operator.ofText? name = none)
    (hr : Interval.ofBounds lower upper = .ok r) (conditions conditions' : List Condition) :
    FieldValue.ofNamed (.text name) (.tuple [lower, upper]) conditions =
      FieldValue.ofNamed (.text name) (.range r) conditions' := by
  have hoperator : (Value.text name).operator? = none := ho
  have hcontent : (Value.tuple [lower, upper]).content = (Value.range r).content := by
    simp only [Value.content, hr]
    rfl
  rw [FieldValue.ofNamed_eq _ hoperator (Value.fieldName?_text hn) (by simp),
    FieldValue.ofNamed_eq _ hoperator (Value.fieldName?_text hn) (by simp), hcontent]

/-- Bounds that make an interval give the same in both spellings. -/
theorem alike_of_ofBounds (hl : isScalar lower) (hu : isScalar upper) (ho : Operator.ofText? l.name = none)
    (hk : OptionName.ofText? l.name = none) {r : Interval} (hr : Interval.ofBounds lower upper = .ok r) :
    Alike (l.fill (.list [lower, upper])) (l.fill (boundsTable lower upper)) := by
  have harray := l.conditions_fill (.list [lower, upper])
  have htable := l.conditions_fill (boundsTable lower upper)
  have hpair := pair_boundsTable lower upper ho
  rw [hr] at hpair
  rw [pair_bounds hl hu ho] at harray
  rw [hpair] at htable
  constructor
  · rw [l.reads_iff, l.reads_iff, pair_bounds hl hu ho, hpair]
    simp [Except.map]
  · intro operator e
    rw [expression_bounds_iff harray, expression_bounds_iff htable]
    refine exists_congr fun bs => exists_congr fun as => and_congr_right fun _ => and_congr_right fun _ => ?_
    by_cases hn : l.name = ""
    · rw [hn]
      exact iff_of_false (ofConditions_empty_ne_ok rfl rfl) (ofConditions_empty_ne_ok rfl rfl)
    · rw [ofPair_of_ne_empty hn, ofPair_of_ne_empty hn, ofNamed_bounds hn ho hr,
        Expression.ofConditions_named_congr hk]

/-- Without an interval the array is refused when the field is made. -/
theorem expression_bounds_ne_ok (hl : isScalar lower) (hu : isScalar upper) (ho : Operator.ofText? l.name = none)
    (hk : OptionName.ofText? l.name = none) (hr : ∀ r, Interval.ofBounds lower upper ≠ .ok r) (operator : Operator)
    (e : Expression) : expression operator (l.fill (.list [lower, upper])) ≠ .ok e := by
  have harray := l.conditions_fill (.list [lower, upper])
  rw [pair_bounds hl hu ho] at harray
  intro h
  obtain ⟨bs, as, -, -, he⟩ := (expression_bounds_iff harray).1 h
  refine ofConditions_unusable_ne_ok ho (operator.takes_of_ofText? hk) rfl rfl (by simp) (fun x hx => ?_) he
  obtain ⟨r, hmade, -⟩ := map_eq_ok_iff.1 hx
  exact hr r hmade

/-- Without an interval the table is refused when it is read. -/
theorem conditions_boundsTable_ne_ok (ho : Operator.ofText? l.name = none)
    (hr : ∀ r, Interval.ofBounds lower upper ≠ .ok r) (vs : List Value) :
    conditions (l.fill (boundsTable lower upper)) ≠ .ok vs := by
  intro h
  obtain ⟨-, ⟨ms, hms⟩, -⟩ := (l.reads_iff _).1 ⟨vs, h⟩
  rw [pair_boundsTable lower upper ho] at hms
  obtain ⟨r, hmade, -⟩ := map_eq_ok_iff.1 hms
  exact hr r hmade

end

namespace Place

variable (p : Place) {data v v' : Value}

/-- If the tables at the place are alike, they give the same. -/
theorem queryExpression_iff (h : Alike (p.last.fill v) (p.last.fill v')) (e : Expression) :
    queryExpression p.name (p.under v) = .ok e ↔ queryExpression p.name (p.under v') = .ok e := by
  cases ho : Operator.ofText? p.name with
  | none => exact iff_of_false (queryExpression_ne_ok ho _) (queryExpression_ne_ok ho _)
  | some operator =>
    rw [queryExpression_operator ho, queryExpression_operator ho]
    exact (h.fillAll (p.last.isRow_fill v) (p.last.isRow_fill v') p.outer).expressions operator e

/-- If the table at the place cannot be read, the document builds nothing. -/
theorem build_ne_ok_of_conditions (hd : tables data = .ok (p.fill v))
    (h : ∀ vs, conditions (p.last.fill v) ≠ .ok vs) (es : List Expression) : build data ≠ .ok es :=
  Document.build_ne_ok_of_conditions (queries_middle hd) (conditions_fillAll_ne_ok (p.last.isRow_fill v) h p.outer) es

/-- If it gives no expression, the document builds nothing either, but for the values of options. -/
theorem build_ne_ok_of_expression (hd : tables data = .ok (p.fill v))
    (h : ∀ operator e, expression operator (p.last.fill v) ≠ .ok e) (hout : ¬p.InOption) (es : List Expression) :
    build data ≠ .ok es := by
  intro hes
  obtain ⟨_, _, _, e, _, -, -, -, he, -⟩ := (build_query_iff (queries_middle hd)).1 hes
  cases ho : Operator.ofText? p.name with
  | none => exact queryExpression_ne_ok ho _ he
  | some operator =>
    rw [queryExpression_operator ho] at he
    exact expression_fillAll_ne_ok (p.last.isRow_fill v) h p.outer (fun hl => hout ⟨operator, ho, hl⟩) e he

end Place

/-- Two documents have the same tables, but for one entry of a table among conditions: under a name that is neither
an operator nor an option, the one has an array of two scalars and the other the table of these bounds. They build
the same expressions, or both are refused, in three cases and no other: the two bounds make an interval, the table
is not within the value of an option, or nothing is built of the document with the array. -/
theorem build_named_bounds (p : Place) (lower upper : Value) (hl : isScalar lower) (hu : isScalar upper)
    (ho : Operator.ofText? p.last.name = none) (hk : OptionName.ofText? p.last.name = none) (data data' : Value)
    (hd : tables data = .ok (p.fill (.list [lower, upper])))
    (hd' : tables data' = .ok (p.fill (boundsTable lower upper))) :
    (∀ es, build data = .ok es ↔ build data' = .ok es) ↔
      (∃ r, Interval.ofBounds lower upper = .ok r) ∨ ¬p.InOption ∨ ∀ es, build data ≠ .ok es := by
  by_cases hr : ∃ r, Interval.ofBounds lower upper = .ok r
  · refine iff_of_true (fun es => ?_) (.inl hr)
    obtain ⟨r, hr⟩ := hr
    rw [build_query_iff (queries_middle hd), build_query_iff (queries_middle hd')]
    simp only [p.queryExpression_iff (alike_of_ofBounds hl hu ho hk hr)]
  · -- the table is refused wherever it stands, so the array must build nothing
    have hnone : ∀ r, Interval.ofBounds lower upper ≠ .ok r := fun r hmade => hr ⟨r, hmade⟩
    have htable := p.build_ne_ok_of_conditions hd' (conditions_boundsTable_ne_ok ho hnone)
    have hnever (h : ∀ es, build data ≠ .ok es) (es : List Expression) :
        build data = .ok es ↔ build data' = .ok es := iff_of_false (h es) (htable es)
    constructor
    · exact fun hsame => .inr (.inr fun es hes => htable es ((hsame es).1 hes))
    · rintro (hmade | hout | harray)
      · exact absurd hmade hr
      · exact hnever (p.build_ne_ok_of_expression hd (expression_bounds_ne_ok hl hu ho hk hnone) hout)
      · exact hnever harray

/-- The case of the years of a title in a nested expression. -/
theorem build_named_bounds_years :
    let p : Place := ⟨[], [], "and", [], [],
      [⟨.among [.text "star"] [], [], "not", [], .text "not", by simp, rfl⟩],
      ⟨.among [] [], [], "year", [], .text "year", by simp, rfl⟩⟩
    let data := fun entry => Value.mapping [(.text "and",
      .list [.text "star", .mapping [(.text "not", .list [.mapping [(.text "year", entry)]])]])]
    isScalar (.int 1990) ∧ isScalar (.int 2000) ∧
      Operator.ofText? p.last.name = none ∧ OptionName.ofText? p.last.name = none ∧
      tables (data (.list [.int 1990, .int 2000])) = .ok (p.fill (.list [.int 1990, .int 2000])) ∧
      tables (data (boundsTable (.int 1990) (.int 2000))) = .ok (p.fill (boundsTable (.int 1990) (.int 2000))) ∧
      (∀ es, build (data (.list [.int 1990, .int 2000])) = .ok es ↔
        build (data (boundsTable (.int 1990) (.int 2000))) = .ok es) ∧
      build (data (.list [.int 1990, .int 2000])) = .ok [⟨.and, [], [⟨.text "star", none⟩,
        ⟨.expression ⟨.not, [], [⟨.range ⟨.int 1990, true, .int 2000, true⟩, some "year"⟩]⟩, none⟩]⟩] := by
  intro p data
  have hsame := (build_named_bounds p (.int 1990) (.int 2000) rfl rfl rfl rfl (data (.list [.int 1990, .int 2000]))
    (data (boundsTable (.int 1990) (.int 2000))) rfl rfl).2 (.inl ⟨_, rfl⟩)
  exact ⟨rfl, rfl, rfl, rfl, rfl, rfl, hsame, rfl⟩

/-- In the value of an option a number and a text are passed over as an array, and refused as a table. -/
theorem build_bounds_in_option :
    let p : Place := ⟨[], [], "and", [], [],
      [⟨.among [.text "star"] [], [], "boost", [], .text "boost", by simp, rfl⟩,
        ⟨.alone, [], "not", [], .text "not", by simp, rfl⟩],
      ⟨.among [] [], [], "title", [], .text "title", by simp, rfl⟩⟩
    let data := fun entry => Value.mapping [(.text "and", .list [.text "star",
      .mapping [(.text "boost", .mapping [(.text "not", .list [.mapping [(.text "title", entry)]])])]])]
    Operator.ofText? p.last.name = none ∧ OptionName.ofText? p.last.name = none ∧
      tables (data (.list [.int 1, .text "x"])) = .ok (p.fill (.list [.int 1, .text "x"])) ∧
      tables (data (boundsTable (.int 1) (.text "x"))) = .ok (p.fill (boundsTable (.int 1) (.text "x"))) ∧
      build (data (.list [.int 1, .text "x"])) = .ok [⟨.and, [], [⟨.text "star", none⟩]⟩] ∧
      build (data (boundsTable (.int 1) (.text "x"))) = .error (.rangeType [.int 1, .text "x"]) ∧
      ¬ ∀ es, build (data (.list [.int 1, .text "x"])) = .ok es ↔
        build (data (boundsTable (.int 1) (.text "x"))) = .ok es := by
  intro p data
  have harray : build (data (.list [.int 1, .text "x"])) = .ok [⟨.and, [], [⟨.text "star", none⟩]⟩] := rfl
  have htable : build (data (boundsTable (.int 1) (.text "x"))) = .error (.rangeType [.int 1, .text "x"]) := rfl
  refine ⟨rfl, rfl, rfl, rfl, harray, htable, fun hsame => ?_⟩
  have hboth := (hsame _).1 harray
  rw [htable] at hboth
  cases hboth

end StructuredQuery.Document
