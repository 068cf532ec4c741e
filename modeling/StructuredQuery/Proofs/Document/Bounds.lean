import Mathlib.Data.List.Forall2
import StructuredQuery.Proofs.Document.Places

/-!
Bounds among the conditions of a document. An array of two scalars stands for the interval between them, as the
table of the two bounds does, unless its first item is a text that is not empty: then it is read as a named pair.
In the value of an option neither is looked at, but the table must be an interval for the document to be read.
-/

namespace StructuredQuery

namespace Document

def boundsTable (lower upper : Value) : Value :=
  .mapping [(.text "lower", lower), (.text "upper", upper)]

/-- A place among the conditions of a document: in an array that stands under a key of one of its tables, or there
under keys of tables among conditions. -/
structure ItemPlace where
  tablesBefore : List Value
  before : List (Value × Value)
  name : String
  after : List (Value × Value)
  tablesAfter : List Value
  levels : List Level
  itemsBefore : List Value
  itemsAfter : List Value

namespace ItemPlace

variable (p : ItemPlace)

def items (v : Value) : Value :=
  .list (p.itemsBefore ++ v :: p.itemsAfter)

def under (v : Value) : Value :=
  fillAll p.levels (p.items v)

def fill (v : Value) : List Value :=
  p.tablesBefore ++ .mapping (p.before ++ (.text p.name, p.under v) :: p.after) :: p.tablesAfter

def InOption : Prop :=
  ∃ operator, Operator.ofText? p.name = some operator ∧ LeadsToOption operator (p.levels.map Level.name)

end ItemPlace

/-! ## Two spellings of an interval -/

section

variable {lower upper : Value} {operator : Operator} {before after : Except Error (List Value)} {e : Expression}

/-- An array of two scalars is a pair among the conditions. -/
theorem conditionsOfItems_bounds (hl : isScalar lower) (hu : isScalar upper) :
    conditionsOfItems [.list [lower, upper]] = .ok [.tuple [lower, upper]] := by
  have hbounds : ofArray [lower, upper] = [.tuple [lower, upper]] := by
    simp [ofArray, bounds?, hl, hu]
  rw [conditionsOfItems_list, hbounds]
  rfl

/-- A table of two bounds describes the interval between them. -/
theorem ofMapping_bounds (lower upper : Value) :
    Interval.ofMapping [(.text "lower", lower), (.text "upper", upper)] = Interval.ofBounds lower upper := by
  rw [Interval.ofBounds_eq]
  rfl

/-- The table of two bounds is an interval among the conditions, or the document cannot be read. -/
theorem conditionsOfItems_boundsTable (lower upper : Value) :
    conditionsOfItems [boundsTable lower upper] =
      (Interval.ofBounds lower upper).map fun r => [.range r] := by
  have hrange : isRangeTable [(.text "lower", lower), (.text "upper", upper)] = true := by rfl
  rw [boundsTable, conditionsOfItems_mapping, conditionsOfItems, join_ok_nil, conditions, if_pos hrange,
    ofMapping_bounds]

/-- With the table an interval stands among the conditions. -/
theorem expression_boundsTable_iff {v : Value}
    (hv : conditions v = join before (join ((Interval.ofBounds lower upper).map fun r => [.range r]) after)) :
    expression operator v = .ok e ↔ ∃ bs as r, before = .ok bs ∧ after = .ok as ∧
      Interval.ofBounds lower upper = .ok r ∧
      Expression.ofConditions operator ((Value.list bs).conditions ++
        .positional (.ok (some ⟨.range r, none⟩)) :: (Value.list as).conditions) = .ok e := by
  rw [expression_middle_iff hv]
  constructor
  · rintro ⟨bs, ms, as, hb, hm, ha, he⟩
    obtain ⟨r, hr, rfl⟩ := map_eq_ok_iff.1 hm
    exact ⟨bs, as, r, hb, ha, hr, he⟩
  · rintro ⟨bs, as, r, hb, ha, hr, he⟩
    exact ⟨bs, [.range r], as, hb, map_eq_ok_iff.2 ⟨r, hr, rfl⟩, ha, he⟩

/-- With the array a pair stands among the conditions. -/
theorem expression_bounds_iff {v : Value}
    (hv : conditions v = join before (join (.ok [.tuple [lower, upper]]) after)) :
    expression operator v = .ok e ↔ ∃ bs as, before = .ok bs ∧ after = .ok as ∧
      Expression.ofConditions operator ((Value.list bs).conditions ++
        Condition.ofPair lower upper upper.reading :: (Value.list as).conditions) = .ok e := by
  have hentry : (Value.list [.tuple [lower, upper]]).conditions =
      [Condition.ofPair lower upper upper.reading] := by
    rw [Value.conditions_list, List.map_singleton, Value.reading_pair]
    rfl
  rw [expression_middle_iff hv]
  constructor
  · rintro ⟨bs, ms, as, hb, hm, ha, he⟩
    obtain rfl := Except.ok.inj hm
    rw [hentry] at he
    exact ⟨bs, as, hb, ha, he⟩
  · rintro ⟨bs, as, hb, ha, he⟩
    refine ⟨bs, _, as, hb, rfl, ha, ?_⟩
    rw [hentry]
    exact he

/-- A pair that is named gives no interval without a name. -/
theorem exists_ofPair_of_isPairName (h : isPairName lower) (reading : Reading) :
    ∃ s candidate, Condition.ofPair lower upper reading = .named s upper candidate ∧
      ∀ f, candidate = .ok f → f.isOpenInterval = false := by
  cases hs : lower.text? with
  | none => simp [isPairName, hs] at h
  | some s =>
    have hne : s.isEmpty = false := by simpa [isPairName, hs] using h
    have hname (n : Option String) (hn : lower.fieldName? = .ok n) : n.isNone = false := by
      have hblank : lower.isBlank = false := by
        cases lower <;> simp [Value.text?] at hs <;> simp [Value.isBlank, hs, hne]
      rw [Value.fieldName?, hblank, if_neg (by simp)] at hn
      obtain ⟨m, -, rfl⟩ := map_eq_ok_iff.1 hn
      rfl
    refine ⟨s, FieldValue.ofNamed lower upper reading.conditions, ?_, fun f hf => ?_⟩
    · simp only [Condition.ofPair, hs, hne, Bool.false_eq_true, if_false]
    · have hmeets : Meets (fun f : FieldValue => f.isOpenInterval = false) (fun _ => True)
          (FieldValue.ofNamed lower upper reading.conditions) := by
        refine FieldValue.meets_ofNamed ?_ ?_ ?_ fun _ _ => trivial
        · exact fun _ _ => meets_iff.2 ⟨fun _ _ => rfl, fun _ _ => trivial⟩
        · intro n f _ hn _
          simp [FieldValue.isOpenInterval, hname n hn]
        · intro n _ hn _
          refine meets_iff.2 ⟨fun v _ => ?_, fun _ _ => trivial⟩
          simp [FieldValue.isOpenInterval, hname n hn]
      exact hmeets.of_ok hf

variable (p : ItemPlace)

theorem conditions_items_bounds (hl : isScalar lower) (hu : isScalar upper) :
    conditions (p.items (.list [lower, upper])) =
      join (conditionsOfItems p.itemsBefore) (join (.ok [.tuple [lower, upper]]) (conditionsOfItems p.itemsAfter)) := by
  rw [ItemPlace.items, conditions_list_middle, conditionsOfItems_bounds hl hu]

theorem conditions_items_boundsTable (lower upper : Value) :
    conditions (p.items (boundsTable lower upper)) =
      join (conditionsOfItems p.itemsBefore)
        (join ((Interval.ofBounds lower upper).map fun r => [.range r]) (conditionsOfItems p.itemsAfter)) := by
  rw [ItemPlace.items, conditions_list_middle, conditionsOfItems_boundsTable]

/-- The array with the value in it is a condition list under any name. -/
theorem isRow_items {v : Value} (hv : isScalar v = false) : IsRow (p.items v) :=
  isRow_list hv _ _

/-- Bounds of an interval can be read in either spelling. -/
theorem reads_items_iff (hl : isScalar lower) (hu : isScalar upper) {r : Interval}
    (hr : Interval.ofBounds lower upper = .ok r) :
    (∃ vs, conditions (p.items (.list [lower, upper])) = .ok vs) ↔
      ∃ vs, conditions (p.items (boundsTable lower upper)) = .ok vs := by
  rw [conditions_items_bounds p hl hu, conditions_items_boundsTable, hr]
  simp [exists_join_iff, Except.map]

/-- The table of other scalars cannot be read. -/
theorem conditions_items_boundsTable_ne_ok (hr : ∀ r, Interval.ofBounds lower upper ≠ .ok r) (vs : List Value) :
    conditions (p.items (boundsTable lower upper)) ≠ .ok vs := by
  rw [conditions_items_boundsTable]
  intro h
  obtain ⟨_, _, -, hmiddle, -⟩ := join_eq_ok_iff.1 h
  obtain ⟨_, _, htable, -⟩ := join_eq_ok_iff.1 hmiddle
  obtain ⟨r, hmade, -⟩ := map_eq_ok_iff.1 htable
  exact hr r hmade

/-- If the pair is not named, both spellings give the same expression or none. -/
theorem expression_items_iff (hl : isScalar lower) (hu : isScalar upper) (hn : isPairName lower = false)
    (operator : Operator) (e : Expression) :
    expression operator (p.items (.list [lower, upper])) = .ok e ↔
      expression operator (p.items (boundsTable lower upper)) = .ok e := by
  rw [expression_bounds_iff (conditions_items_bounds p hl hu),
    expression_boundsTable_iff (conditions_items_boundsTable p lower upper), ofPair_of_not_isPairName hn]
  constructor
  · rintro ⟨bs, as, hb, ha, he⟩
    obtain ⟨found, hfound, he⟩ := Expression.ofConditions_positional_iff.1 he
    obtain ⟨r, hr, rfl⟩ := map_eq_ok_iff.1 hfound
    exact ⟨bs, as, r, hb, ha, hr, he⟩
  · rintro ⟨bs, as, r, hb, ha, hr, he⟩
    refine ⟨bs, as, hb, ha, ?_⟩
    rw [hr]
    exact he

/-- If the pair is named, the two spellings never give the same expression. -/
theorem apart_items (hl : isScalar lower) (hu : isScalar upper) (hn : isPairName lower)
    (operator : Operator) (e e' : Expression) (he : expression operator (p.items (.list [lower, upper])) = .ok e)
    (he' : expression operator (p.items (boundsTable lower upper)) = .ok e') : e.Apart e' := by
  obtain ⟨s, candidate, hpair, hcandidate⟩ := exists_ofPair_of_isPairName hn upper.reading
  obtain ⟨bs, as, hb, ha, he⟩ := (expression_bounds_iff (conditions_items_bounds p hl hu)).1 he
  obtain ⟨bs', as', r, hb', ha', -, he'⟩ :=
    (expression_boundsTable_iff (conditions_items_boundsTable p lower upper)).1 he'
  obtain rfl := Except.ok.inj (hb.symm.trans hb')
  obtain rfl := Except.ok.inj (ha.symm.trans ha')
  rw [hpair] at he
  exact Expression.apart_of_interval hcandidate he he'

end

/-! ## Two spellings of a document -/

namespace ItemPlace

variable (p : ItemPlace) {data data' : Value} {lower upper : Value}

/-- In the value of an option it is enough that the bounds make an interval. -/
theorem queryExpression_iff_within (hin : p.InOption) (hl : isScalar lower) (hu : isScalar upper) {r : Interval}
    (hr : Interval.ofBounds lower upper = .ok r) (e : Expression) :
    queryExpression p.name (p.under (.list [lower, upper])) = .ok e ↔
      queryExpression p.name (p.under (boundsTable lower upper)) = .ok e := by
  obtain ⟨operator, ho, hin⟩ := hin
  rw [queryExpression_operator ho, queryExpression_operator ho]
  exact expression_fillAll_iff_within (isRow_items p rfl) (isRow_items p rfl)
    (reads_items_iff p hl hu hr) hin

/-- Elsewhere it is enough that the pair is not named. -/
theorem queryExpression_iff_outside (hout : ¬p.InOption) (hl : isScalar lower) (hu : isScalar upper)
    (hn : isPairName lower = false) (e : Expression) :
    queryExpression p.name (p.under (.list [lower, upper])) = .ok e ↔
      queryExpression p.name (p.under (boundsTable lower upper)) = .ok e := by
  cases ho : Operator.ofText? p.name with
  | none => exact iff_of_false (queryExpression_ne_ok ho _) (queryExpression_ne_ok ho _)
  | some operator =>
    rw [queryExpression_operator ho, queryExpression_operator ho]
    exact expression_fillAll_iff_outside (isRow_items p rfl) (isRow_items p rfl)
      (expression_items_iff p hl hu hn) fun hin => hout ⟨operator, ho, hin⟩

/-- There a named pair gives another expression than the interval. -/
theorem queryExpression_apart (hout : ¬p.InOption) (hl : isScalar lower) (hu : isScalar upper)
    (hn : isPairName lower) {e e' : Expression}
    (he : queryExpression p.name (p.under (.list [lower, upper])) = .ok e)
    (he' : queryExpression p.name (p.under (boundsTable lower upper)) = .ok e') : e.Apart e' := by
  cases ho : Operator.ofText? p.name with
  | none => exact absurd he (queryExpression_ne_ok ho _)
  | some operator =>
    rw [queryExpression_operator ho] at he he'
    exact apart_fillAll (isRow_items p rfl) (isRow_items p rfl)
      (apart_items p hl hu hn) (fun hin => hout ⟨operator, ho, hin⟩) he he'

/-- What two such documents build differs in one place, where the expressions are apart. -/
theorem exists_apart (hout : ¬p.InOption) (hl : isScalar lower) (hu : isScalar upper) (hn : isPairName lower)
    (hd : tables data = .ok (p.fill (.list [lower, upper])))
    (hd' : tables data' = .ok (p.fill (boundsTable lower upper))) {es es' : List Expression}
    (he : build data = .ok es) (he' : build data' = .ok es') :
    ∃ first e e' last, es = first ++ e :: last ∧ es' = first ++ e' :: last ∧ e.Apart e' := by
  obtain ⟨bs, as, first, e, last, hb, ha, hfirst, hvalue, hlast, rfl⟩ := (build_query_iff (queries_middle hd)).1 he
  obtain ⟨bs', as', first', e', last', hb', ha', hfirst', hvalue', hlast', rfl⟩ :=
    (build_query_iff (queries_middle hd')).1 he'
  obtain rfl := Except.ok.inj (hb.symm.trans hb')
  obtain rfl := Except.ok.inj (ha.symm.trans ha')
  obtain rfl := Except.ok.inj (hfirst.symm.trans hfirst')
  obtain rfl := Except.ok.inj (hlast.symm.trans hlast')
  exact ⟨first, e, e', last, rfl, rfl, p.queryExpression_apart hout hl hu hn hvalue hvalue'⟩

/-- A document with the table of scalars that make no interval builds nothing. -/
theorem build_boundsTable_ne_ok (hr : ∀ r, Interval.ofBounds lower upper ≠ .ok r)
    (hd' : tables data' = .ok (p.fill (boundsTable lower upper))) (es : List Expression) : build data' ≠ .ok es :=
  build_ne_ok_of_conditions (queries_middle hd')
    (conditions_fillAll_ne_ok (isRow_items p rfl) (conditions_items_boundsTable_ne_ok p hr)
      p.levels) es

end ItemPlace

/-- In rows that are related one by one the members in the same place are. -/
theorem rel_of_forall₂_append_cons {α : Type} (R : α → α → Prop) {first last last' : List α} {a a' : α}
    (h : List.Forall₂ R (first ++ a :: last) (first ++ a' :: last')) : R a a' := by
  induction first with
  | nil => exact (List.forall₂_cons.1 h).1
  | cons _ _ ih => exact ih (List.forall₂_cons.1 h).2

/-- Two documents have the same tables, but for one item of an array of conditions: the one has an array of two
scalars there and the other the table of these bounds. They build the same expressions, or both are refused, in
three cases and no other: in the value of an option the two bounds make an interval, elsewhere the first one is not
a text that makes a named pair of the array, or neither of the documents builds anything. If it is such a text, then
elsewhere what the two build is never equal. -/
theorem build_respelled (p : ItemPlace) (lower upper : Value) (hl : isScalar lower) (hu : isScalar upper)
    (data data' : Value) (hd : tables data = .ok (p.fill (.list [lower, upper])))
    (hd' : tables data' = .ok (p.fill (boundsTable lower upper))) :
    ((∀ es, build data = .ok es ↔ build data' = .ok es) ↔
      (p.InOption ∧ ∃ r, Interval.ofBounds lower upper = .ok r) ∨ (¬p.InOption ∧ isPairName lower = false) ∨
        ∀ es, build data ≠ .ok es ∧ build data' ≠ .ok es) ∧
    (isPairName lower → ¬p.InOption → ∀ es es', build data = .ok es → build data' = .ok es' →
      ¬ List.Forall₂ (fun e e' => e.equal e' = .ok true) es es') := by
  refine ⟨⟨fun hsame => ?_, ?_⟩, fun hn hout es es' he he' hequal => ?_⟩
  · -- were anything built, both would build it
    by_cases hin : p.InOption
    · by_cases hr : ∃ r, Interval.ofBounds lower upper = .ok r
      · exact .inl ⟨hin, hr⟩
      · have htable := p.build_boundsTable_ne_ok (fun r hmade => hr ⟨r, hmade⟩) hd'
        exact .inr (.inr fun es => ⟨fun he => htable es ((hsame es).1 he), htable es⟩)
    · cases hn : isPairName lower with
      | false => exact .inr (.inl ⟨hin, rfl⟩)
      | true =>
        have hnever (es : List Expression) (he : build data = .ok es) (he' : build data' = .ok es) : False := by
          obtain ⟨first, e, e', last, rfl, hes, hapart⟩ := p.exists_apart hin hl hu hn hd hd' he he'
          have heq := (List.cons.inj (List.append_cancel_left hes)).1
          exact hapart.ne heq
        exact .inr (.inr fun es =>
          ⟨fun he => hnever es he ((hsame es).1 he), fun he' => hnever es ((hsame es).2 he') he'⟩)
  · rintro (⟨hin, r, hr⟩ | ⟨hout, hn⟩ | hnone) es
    · rw [build_query_iff (queries_middle hd), build_query_iff (queries_middle hd')]
      simp only [p.queryExpression_iff_within hin hl hu hr]
    · rw [build_query_iff (queries_middle hd), build_query_iff (queries_middle hd')]
      simp only [p.queryExpression_iff_outside hout hl hu hn]
    · exact ⟨fun he => absurd he (hnone es).1, fun he' => absurd he' (hnone es).2⟩
  · obtain ⟨first, e, e', last, rfl, rfl, hapart⟩ := p.exists_apart hout hl hu hn hd hd' he he'
    exact hapart.equal_ne (rel_of_forall₂_append_cons (fun e e' : Expression => e.equal e' = .ok true) hequal)

/-- The case of the array of two years in a nested expression, which is the interval between them. -/
theorem build_respelled_years :
    let p : ItemPlace := ⟨[], [], "and", [], [],
      [⟨.among [.text "star"] [], [], "not", [], .text "not", by simp, rfl⟩], [], []⟩
    let data := fun entry =>
      Value.mapping [(.text "and", .list [.text "star", .mapping [(.text "not", .list [entry])]])]
    isScalar (.int 1990) ∧ isScalar (.int 2000) ∧
      tables (data (.list [.int 1990, .int 2000])) = .ok (p.fill (.list [.int 1990, .int 2000])) ∧
      tables (data (boundsTable (.int 1990) (.int 2000))) = .ok (p.fill (boundsTable (.int 1990) (.int 2000))) ∧
      (∀ es, build (data (.list [.int 1990, .int 2000])) = .ok es ↔
        build (data (boundsTable (.int 1990) (.int 2000))) = .ok es) ∧
      build (data (.list [.int 1990, .int 2000])) = .ok [⟨.and, [], [⟨.text "star", none⟩,
        ⟨.expression ⟨.not, [], [⟨.range ⟨.int 1990, true, .int 2000, true⟩, none⟩]⟩, none⟩]⟩] := by
  intro p data
  have hout : ¬p.InOption := by
    rintro ⟨operator, -, hin⟩
    -- the only key on the way is that of an operator
    cases hin with
    | here _ hk => cases operator <;> cases hk
    | nested _ hin => cases hin
  have hsame := (build_respelled p (.int 1990) (.int 2000) rfl rfl (data (.list [.int 1990, .int 2000]))
    (data (boundsTable (.int 1990) (.int 2000))) rfl rfl).1.2 (.inr (.inl ⟨hout, rfl⟩))
  exact ⟨rfl, rfl, rfl, rfl, hsame, rfl⟩

/-- The array of a title and a word is read as a named pair, and the table of the two as an interval. -/
theorem build_title_star :
    let p : ItemPlace := ⟨[], [], "and", [], [], [], [], []⟩
    let data := fun entry => Value.mapping [(.text "and", .list [entry])]
    tables (data (.list [.text "title", .text "star"])) = .ok (p.fill (.list [.text "title", .text "star"])) ∧
    tables (data (boundsTable (.text "title") (.text "star"))) =
      .ok (p.fill (boundsTable (.text "title") (.text "star"))) ∧
    build (data (.list [.text "title", .text "star"])) =
      .ok [⟨.and, [], [⟨.text "star", some "title"⟩]⟩] ∧
    build (data (boundsTable (.text "title") (.text "star"))) =
      .ok [⟨.and, [], [⟨.range ⟨.text "title", true, .text "star", true⟩, none⟩]⟩] ∧
    ¬ ∀ es, build (data (.list [.text "title", .text "star"])) = .ok es ↔
      build (data (boundsTable (.text "title") (.text "star"))) = .ok es := by
  intro p data
  have harray : build (data (.list [.text "title", .text "star"])) =
      .ok [⟨.and, [], [⟨.text "star", some "title"⟩]⟩] := by rfl
  have htable : build (data (boundsTable (.text "title") (.text "star"))) =
      .ok [⟨.and, [], [⟨.range ⟨.text "title", true, .text "star", true⟩, none⟩]⟩] := by rfl
  refine ⟨rfl, rfl, harray, htable, fun hsame => ?_⟩
  have hboth := (hsame _).1 harray
  rw [htable] at hboth
  simp at hboth

end Document

end StructuredQuery
