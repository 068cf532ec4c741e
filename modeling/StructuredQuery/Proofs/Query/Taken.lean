import Mathlib.Data.List.Forall2
import StructuredQuery.Proofs.Query.Grammar
import StructuredQuery.Proofs.Query.Written

/-!
The parts of an expression as they are written, taken again. Between the operator and the closing bracket an
expression is a row of options and fields, each behind a space, and each is taken up to what comes behind it. From
its own options and fields as they are spelled the same expression is made again.
-/

namespace StructuredQuery

open Query Text

/-- An expression that the grammar can spell, as far as its own options and fields go. -/
structure Expression.Plain (e : Expression) : Prop where
  rules : checkFields e.operator e.fields = .ok ()
  options : ∀ o ∈ e.options, o.name ∈ e.operator.accepted ∧ o.Valid
  names : ∀ f ∈ e.fields, ∀ n, f.name = some n →
    Terminal.fieldName.pattern.Matches n.toList ∧ Operator.ofText? n = none
  values : ∀ f ∈ e.fields, f.value.Plain

namespace Query

def IsEnd (rest : List Char) : Prop := ∃ c left, rest = c :: left ∧ (c = ' ' ∨ c = ')')

theorem IsEnd.stops {rest : List Char} {p : Char → Bool} (h : IsEnd rest) (hspace : p ' ' = false)
    (hround : p ')' = false) : Stops p rest := by
  obtain ⟨c, left, rfl, rfl | rfl⟩ := h
  · exact stops_cons.2 hspace
  · exact stops_cons.2 hround

/-- Behind a part come a space and more parts, or the end of the expression. -/
theorem isEnd_flatMap (ws : List (List Char)) {rest : List Char} (h : IsEnd rest) :
    IsEnd (ws.flatMap (' ' :: ·) ++ rest) := by
  cases ws with
  | nil => exact h
  | cons => exact ⟨_, _, rfl, .inl rfl⟩

structure TakesTerm (w : List Char) (P : Term → Prop) : Prop where
  front : ∃ c left, w = c :: left ∧ frontOf c ≠ .name ∧ frontOf c ≠ .closing ∧ frontOf c ≠ .other
  takes : ∀ rest, IsEnd rest → ∃ term, term? (w ++ rest) = some (term, rest) ∧ P term

structure TakesItem (w : List Char) (P : Item → Prop) : Prop where
  front : ∃ c left, w = c :: left ∧ frontOf c ≠ .closing ∧ frontOf c ≠ .other
  takes : ∀ rest, IsEnd rest → ∃ item, item? (w ++ rest) = some (item, rest) ∧ P item

def TakesTree (w : List Char) (P : Tree → Prop) : Prop :=
  ∀ rest, ∃ operator items middle, opening? (w ++ rest) = some (operator, middle) ∧
    items? middle = some (items, rest) ∧ P (.node operator items)

abbrev ReadsTerm (w : List Char) (v : Value) : Prop :=
  TakesTerm w fun term => term.value = .ok v

abbrev ReadsItem (w : List Char) (v : Value) : Prop :=
  TakesItem w fun item => item.value = .ok v

abbrev ReadsTree (w : List Char) (e : Expression) : Prop :=
  TakesTree w fun tree => tree.value = .ok e

theorem TakesTerm.imp {w : List Char} {P Q : Term → Prop} (h : TakesTerm w P) (hpq : ∀ t, P t → Q t) :
    TakesTerm w Q := by
  refine ⟨h.front, fun rest hr => ?_⟩
  obtain ⟨term, ht, hp⟩ := h.takes rest hr
  exact ⟨term, ht, hpq term hp⟩

theorem TakesItem.imp {w : List Char} {P Q : Item → Prop} (h : TakesItem w P) (hpq : ∀ i, P i → Q i) :
    TakesItem w Q := by
  refine ⟨h.front, fun rest hr => ?_⟩
  obtain ⟨item, hi, hp⟩ := h.takes rest hr
  exact ⟨item, hi, hpq item hp⟩

/-- A scalar is all that a field holds. -/
theorem TakesScalar.term {w : List Char} {P : Scalar → Prop} (h : TakesScalar w P) :
    TakesTerm w fun term => ∃ s, term = .scalar s ∧ P s := by
  refine ⟨?_, fun rest hr => ?_⟩
  · obtain ⟨s, hs, -⟩ := h [] (stops_nil _)
    rw [List.append_nil] at hs
    obtain ⟨c, left, hcs, hc⟩ := exists_cons_of_scalar? hs
    exact ⟨c, left, hcs, by rcases hc with hc | hc <;> simp [hc]⟩
  · obtain ⟨s, hs, hp⟩ := h rest (hr.stops (by decide +kernel) (by decide +kernel))
    exact ⟨.scalar s, term?_of_flatTerm? (flatTerm?_of_scalar? hs), s, rfl, hp⟩

/-- A nested expression is all that a field holds. -/
theorem TakesTree.term {left : List Char} {P : Tree → Prop} (h : TakesTree ('(' :: left) P) :
    TakesTerm ('(' :: left) fun term => ∃ tree, term = .expression tree ∧ P tree := by
  refine ⟨⟨'(', left, rfl, by decide +kernel⟩, fun rest _ => ?_⟩
  obtain ⟨operator, items, middle, ho, hi, hp⟩ := h rest
  refine ⟨.expression (.node operator items), ?_, _, rfl, hp⟩
  rw [List.cons_append] at ho ⊢
  simp only [term?, flatTerm?_opening, ho, Option.bind_some, hi, Option.map_some]

theorem head?_of_front {c : Char} {left : List Char} (hname : frontOf c ≠ .name) (hother : frontOf c ≠ .other) :
    head? (c :: left) = some (.field none, c :: left) := by
  have hskip : skipSpaces (c :: left) = c :: left := skipSpaces_of_front hother
  have hhead := head?_eq_field_none (by rwa [frontAt_of_cons hskip])
  rwa [hskip] at hhead

/-- A name with a colon is taken off the front of what a field holds. -/
theorem head?_of_colon {name : List Char} {c : Char} {left : List Char}
    (hn : Terminal.fieldName.pattern.Matches name) (hother : frontOf c ≠ .other) :
    head? (name ++ ':' :: c :: left) = some (.field (some name), c :: left) := by
  obtain ⟨d, u, hd, hu, rfl⟩ := Terminal.matches_fieldName_iff.1 hn
  have hname : name? (d :: u ++ ':' :: c :: left) = some (d :: u, ':' :: c :: left) :=
    Terminal.name?_append hd hu (stops_cons.2 (by decide))
  have hcolon : skipSpaces (':' :: c :: left) = ':' :: c :: left :=
    dropWhile_of_stops (stops_cons.2 (by decide))
  have hskip : skipSpaces (c :: left) = c :: left := skipSpaces_of_front hother
  simp only [head?, hname, hcolon, hskip]

/-- The name of a field begins with a letter for names. -/
theorem exists_cons_of_matches {name rest : List Char} (hn : Terminal.fieldName.pattern.Matches name) :
    ∃ c left, name ++ rest = c :: left ∧ frontOf c = .name := by
  obtain ⟨c, u, hc, -, rfl⟩ := Terminal.matches_fieldName_iff.1 hn
  exact ⟨c, u ++ rest, rfl, by rw [frontOf, if_pos hc]⟩

/-- What a field holds is an item by itself. -/
theorem TakesTerm.item {w : List Char} {P : Term → Prop} (h : TakesTerm w P) :
    TakesItem w fun item => ∃ term, item = .field none term ∧ P term := by
  obtain ⟨c, left, rfl, hname, hclosing, hother⟩ := h.front
  refine ⟨⟨c, left, rfl, hclosing, hother⟩, fun rest hr => ?_⟩
  obtain ⟨term, ht, hp⟩ := h.takes rest hr
  exact ⟨.field none term, item?_of_field (head?_of_front hname hother) ht, term, rfl, hp⟩

/-- What a field holds is an item behind the name of the field. -/
theorem TakesTerm.named {w name : List Char} {P : Term → Prop} (h : TakesTerm w P)
    (hn : Terminal.fieldName.pattern.Matches name) :
    TakesItem (name ++ ':' :: w) fun item => ∃ term, item = .field (some name) term ∧ P term := by
  obtain ⟨c, left, rfl, -, -, hother⟩ := h.front
  refine ⟨?_, fun rest hr => ?_⟩
  · obtain ⟨d, left', hd, hfront⟩ := exists_cons_of_matches hn
    exact ⟨d, left', hd, by simp [hfront]⟩
  · obtain ⟨term, ht, hp⟩ := h.takes rest hr
    refine ⟨.field (some name) term, ?_, term, rfl, hp⟩
    rw [List.append_assoc, List.cons_append, List.cons_append]
    exact item?_of_field (head?_of_colon hn hother) ht

theorem ReadsTerm.item {w : List Char} {v : Value} (h : ReadsTerm w v) : ReadsItem w v := by
  refine (TakesTerm.item h).imp ?_
  rintro _ ⟨term, rfl, hv⟩
  rw [Item.value, hv]

/-- An option with a word is read back as it is. -/
theorem readsItem_written {o : OperatorOption} (h : o.Valid) : ReadsItem o.written (.option o) := by
  obtain ⟨name, _⟩ := o
  obtain ⟨word, rfl, hword⟩ := h
  obtain ⟨hne, hall⟩ : word.toList ≠ [] ∧ ∀ c ∈ word.toList, isWordChar c := by
    simpa [isWord] using hword
  have hwritten : OperatorOption.written ⟨name, some word⟩ = name.text.toList ++ '=' :: word.toList := rfl
  rw [hwritten]
  refine ⟨?_, fun rest hr => ?_⟩
  · cases name <;> exact ⟨_, _, rfl, by decide⟩
  · -- name, sign and word are taken one by one, each stopped by the character behind it
    have hrun := run?_append hne hall (hr.stops (by decide) (by decide))
    have hname : name? (name.text.toList ++ '=' :: (word.toList ++ rest)) =
        some (name.text.toList, '=' :: (word.toList ++ rest)) :=
      Terminal.name?_optionName name (stops_cons.2 (by decide))
    have hequals : skipSpaces ('=' :: (word.toList ++ rest)) = '=' :: (word.toList ++ rest) :=
      dropWhile_of_stops (stops_cons.2 (by decide))
    have hskip : skipSpaces (word.toList ++ rest) = word.toList ++ rest := by
      apply dropWhile_of_stops
      obtain ⟨c, left, hcs⟩ := List.exists_cons_of_ne_nil hne
      rw [hcs]
      apply stops_cons.2
      by_contra hs
      have hc := hall c (by simp [hcs])
      rw [isWordChar, isBlank_of_isSpace (by simpa using hs)] at hc
      exact absurd hc (by simp)
    have hknown : OptionName.ofText? (String.ofList name.text.toList) = some name := by
      rw [String.ofList_toList, OptionName.ofText?_text]
    refine ⟨.option name word.toList, item?_of_option ?_, ?_⟩
    · rw [List.append_assoc, List.cons_append]
      simp only [head?, hname, hequals, hskip, hknown, hrun, Option.bind_eq_bind, Option.bind_some,
        Option.pure_def]
    · have hw : (Value.text word).word? = .ok (some word) := by
        simp only [Value.word?, Value.text?, hword, if_true]
      rw [Item.value, String.ofList_toList, OperatorOption.new_optionName name (by simp), hw]
      rfl

/-- Of a row of items the first one is taken behind its space. -/
theorem items?_space {c : Char} {left : List Char} (hclosing : frontOf c ≠ .closing)
    (hother : frontOf c ≠ .other) :
    items? (' ' :: c :: left) = (item? (c :: left)).bind fun (item, rest) =>
      (items? rest).map fun (items, rest) => (item :: items, rest) := by
  have hskip : skipSpaces (' ' :: c :: left) = c :: left :=
    (List.dropWhile_cons_of_pos (by decide)).trans (skipSpaces_of_front hother)
  have hnone := closing?_eq_none_of_front (by rwa [frontAt_of_cons hskip])
  rw [items?_eq_item?, hnone, hskip]

/-- A row of items, each behind a space, is taken up to the bracket behind it. -/
theorem exists_items?_of_takesItem {α : Type} {P : α → Item → Prop} {ws : List (List Char)} {as : List α}
    (h : List.Forall₂ (fun w a => TakesItem w (P a)) ws as) (rest : List Char) :
    ∃ items, items? (ws.flatMap (' ' :: ·) ++ ')' :: rest) = some (items, rest) ∧
      List.Forall₂ P as items := by
  -- an item ends where it was written to end, as a space or the closing bracket stands behind it
  induction h with
  | nil =>
    refine ⟨[], ?_, .nil⟩
    rw [items?_eq_item?]
    rfl
  | @cons w a ws as hw _ ih =>
    obtain ⟨items, hi, hps⟩ := ih
    obtain ⟨c, left, rfl, hclosing, hother⟩ := hw.front
    obtain ⟨item, hitem, hp⟩ := hw.takes _ (isEnd_flatMap ws ⟨')', rest, rfl, .inr rfl⟩)
    refine ⟨item :: items, ?_, .cons hp hps⟩
    rw [List.flatMap_cons, List.append_assoc, List.cons_append, List.cons_append,
      items?_space hclosing hother, ← List.cons_append, hitem]
    simp only [Option.bind_some, hi, Option.map_some]

/-- A row of items that give some values gives the row of these. -/
theorem givesIf_itemValues {p : Prop} {vs : List Value} {items : List Item}
    (h : List.Forall₂ (fun v item => GivesIf p item.value v) vs items) : GivesIf p (itemValues items) vs := by
  induction h with
  | nil => exact rfl
  | cons hv _ ih =>
    rw [itemValues]
    exact hv.bind (ih.map _)

theorem itemValues_eq_ok {vs : List Value} {items : List Item}
    (h : List.Forall₂ (fun v item => item.value = .ok v) vs items) : itemValues items = .ok vs :=
  (givesIf_iff.1 (givesIf_itemValues (h.imp fun _ _ => givesIf_of_eq))).2 trivial

end Query

/-! ## What is written of a part is read back -/

/-- A scalar to match is written as a bound is, unless it is taken over as it is. -/
theorem Value.IsScalar.writeContent_eq {v : Value} (h : v.IsScalar)
    (ho : ∀ s, v.text? = some s → Text.isOpaque s.toList = false) :
    writeContent v v.written = writeBound v v.written := by
  cases h with
  | @text v s h =>
    rw [writeBound_text h]
    have hs := ho s h
    cases v <;> simp only [Value.text?, Option.some.injEq, reduceCtorEq] at h
    all_goals
      subst h
      simp [writeContent, Value.isNumber, Value.text?, hs]
  | int => simp only [writeContent, writeBound, Value.isNumber, if_true]
  | float h => simp [writeContent, writeBound, Value.isNumber, h]

/-- A field as a condition: without a name it is what it holds. -/
def FieldValue.condition (f : FieldValue) : Value :=
  match f.name with
  | none => f.value
  | some _ => .field f

/-- What is spelled is a value to match again. -/
theorem Value.Plain.content_spelled {v : Value} (h : v.Plain) : v.spelled.content = .ok v.spelled := by
  cases h with
  | scalar h =>
    cases h with
    | text h =>
      rw [Value.spelled_of_text? h]
      rfl
    | int => rfl
    | float h => simp [Value.spelled, Value.content, Value.text?, Value.isNumber, h]
  | interval => rfl
  | expression => rfl

theorem Value.Plain.spelled_ne_field {v : Value} (h : v.Plain) (f : FieldValue) : v.spelled ≠ .field f := by
  cases h with
  | scalar h =>
    cases h with
    | text h => simp [Value.spelled_of_text? h]
    | int | float => simp [Value.spelled]
  | interval | expression => simp [Value.spelled]

/-- What is spelled is read as one condition, a field without a name. -/
theorem Value.Plain.reading_spelled {v : Value} (h : v.Plain) :
    v.spelled.reading = .single (Expression.ofField ⟨v.spelled, none⟩) := by
  have hfield : FieldValue.ofUnnamed v.spelled = .ok ⟨v.spelled, none⟩ := by
    rw [FieldValue.ofUnnamed, FieldValue.ofNamed_eq [] rfl rfl h.spelled_ne_field, h.content_spelled]
    rfl
  have hreading : v.spelled.reading = .single (.positional ((FieldValue.ofUnnamed v.spelled).map some)) := by
    cases h with
    | scalar h =>
      cases h with
      | text h =>
        rw [Value.spelled_of_text? h]
        rfl
      | int | float => rfl
    | interval | expression => rfl
  rw [hreading, hfield]
  rfl

theorem ne_empty_of_matches_fieldName {name : String}
    (hn : Terminal.fieldName.pattern.Matches name.toList) : name ≠ "" := by
  rintro rfl
  exact absurd (Pattern.nullable_of_matches hn) (by decide)

/-- A field of a name that names no operator is made of the name and what it holds. -/
theorem FieldValue.new_text {v : Value} {name : String} (hn : name ≠ "") (ho : Operator.ofText? name = none)
    (hf : ∀ f, v ≠ .field f) (hc : v.content = .ok v) : FieldValue.new (.text name) v = .ok ⟨v, some name⟩ := by
  have hoperator : (Value.text name).operator? = none := ho
  rw [FieldValue.new, FieldValue.ofNamed_eq _ hoperator (Value.fieldName?_text hn) hf, hc]
  rfl

/-- The fields of an expression are written as a row of parts, each of which is taken as an item. -/
theorem exists_writtenFields {fields : List FieldValue} {P : FieldValue → Item → Prop}
    (h : ∀ f ∈ fields, ∃ w, f.written = .ok w ∧ TakesItem w (P f)) :
    ∃ ws, writtenFields fields = .ok ws ∧ List.Forall₂ (fun w f => TakesItem w (P f)) ws fields := by
  induction fields with
  | nil => exact ⟨[], rfl, .nil⟩
  | cons f rest ih =>
    obtain ⟨w, hw, hread⟩ := h f List.mem_cons_self
    obtain ⟨ws, hws, hreads⟩ := ih fun f hf => h f (List.mem_cons_of_mem _ hf)
    refine ⟨w :: ws, ?_, .cons hread hreads⟩
    rw [writtenFields, hw, hws]
    rfl

/-- Behind the first word each word that is not empty stands behind a space. -/
theorem joinWords_cons {w : List Char} (ws : List (List Char)) (hw : w ≠ []) :
    joinWords (w :: ws) = w ++ (ws.filter fun part => !part.isEmpty).flatMap (' ' :: ·) := by
  have hfirst : (w :: ws).filter (fun part => !part.isEmpty) = w :: ws.filter fun part => !part.isEmpty :=
    List.filter_cons_of_pos (by simpa using hw)
  rw [joinWords, hfirst]
  clear hfirst hw
  induction ws.filter fun part => !part.isEmpty generalizing w with
  | nil => simp
  | cons x xs ih =>
    rw [List.intercalate_cons_cons, ih, List.flatMap_cons, List.append_assoc]
    rfl

/-- No text of an item is empty, so none is left out. -/
theorem filter_of_takesItem {α : Type} {P : α → Item → Prop} {ws : List (List Char)} {as : List α}
    (h : List.Forall₂ (fun w a => TakesItem w (P a)) ws as) : (ws.filter fun part => !part.isEmpty) = ws := by
  have hboth : List.Forall₂ (fun w a => (!w.isEmpty) = true ∧ TakesItem w (P a)) ws as := by
    refine h.imp fun w a hread => ⟨?_, hread⟩
    obtain ⟨c, left, rfl, -⟩ := hread.front
    rfl
  exact List.filter_eq_self.2 ((List.forall₂_and_left ws as).1 hboth).1

/-- The operator of a printed expression is read. -/
theorem opening?_of_isEnd (operator : Operator) {rest : List Char} (h : IsEnd rest) :
    opening? ('(' :: (operator.text.toList ++ rest)) = some (operator.text.toList, rest) := by
  have hne : operator.text.toList ≠ [] := by cases operator <;> decide
  have hletters : ∀ c ∈ operator.text.toList, isOperatorChar c := by
    cases operator <;> exact List.all_eq_true.1 (by decide)
  have hskip : skipSpaces (operator.text.toList ++ rest) = operator.text.toList ++ rest := by
    cases operator <;> exact dropWhile_of_stops (stops_cons.2 (by decide))
  simp only [opening?, hskip]
  exact run?_append hne hletters (h.stops (by decide) (by decide))

/-- A row of items behind an operator is taken as an expression of them. -/
theorem takesTree_of_takesItem (operator : Operator) {α : Type} {P : α → Item → Prop} {ws : List (List Char)}
    {as : List α} (h : List.Forall₂ (fun w a => TakesItem w (P a)) ws as) :
    TakesTree ('(' :: (joinWords (operator.text.toList :: ws) ++ [')'])) fun tree =>
      ∃ items, tree = .node operator.text.toList items ∧ List.Forall₂ P as items := by
  intro rest
  obtain ⟨items, hi, hps⟩ := exists_items?_of_takesItem h rest
  have hne : operator.text.toList ≠ [] := by cases operator <;> decide
  refine ⟨operator.text.toList, items, _, ?_, hi, items, rfl, hps⟩
  rw [joinWords_cons _ hne, filter_of_takesItem h, List.cons_append, List.append_assoc, List.append_assoc,
    List.singleton_append]
  exact opening?_of_isEnd operator (isEnd_flatMap ws ⟨_, _, rfl, .inr rfl⟩)

theorem Query.TakesTree.imp {w : List Char} {P Q : Tree → Prop} (h : TakesTree w P) (hpq : ∀ t, P t → Q t) :
    TakesTree w Q := by
  intro rest
  obtain ⟨operator, items, middle, ho, hi, hp⟩ := h rest
  exact ⟨operator, items, middle, ho, hi, hpq _ hp⟩

/-- A row of items behind an operator is read as the expression that is made of them. -/
theorem readsTree_of_readsItem {operator : Operator} {ws : List (List Char)} {vs : List Value}
    {e : Expression} (h : List.Forall₂ ReadsItem ws vs)
    (he : Expression.new (.text operator.text) (.list vs) = .ok e) :
    ReadsTree ('(' :: (joinWords (operator.text.toList :: ws) ++ [')'])) e := by
  refine (takesTree_of_takesItem operator h).imp ?_
  rintro _ ⟨items, rfl, hvs⟩
  rw [Tree.value, itemValues_eq_ok hvs, String.ofList_toList]
  exact he

/-- The condition that a spelled field stands for is the field. -/
theorem FieldValue.entry_condition {f : FieldValue} (h : f.value.Plain) :
    f.spelled.condition.reading.entry = Expression.ofField f.spelled := by
  obtain ⟨v, name⟩ := f
  cases name with
  | none => exact congrArg Reading.entry h.reading_spelled
  | some n => rfl

/-- The conditions of finished parts are these parts. -/
theorem entries_of_parts {options : List OperatorOption} {fields : List FieldValue}
    (h : ∀ f ∈ fields, f.value.Plain) :
    (options.map Value.option ++ fields.map fun f => f.spelled.condition).map (·.reading.entry) =
      options.map .option ++ (fields.map FieldValue.spelled).map Expression.ofField := by
  rw [List.map_append, List.map_map, List.map_map, List.map_map]
  exact congrArg _ (List.map_congr_left fun f hf => FieldValue.entry_condition (h f hf))

/-- From its own parts as they are spelled an expression is made as it is spelled. -/
theorem Expression.Plain.new_spelled {e : Expression} (h : e.Plain) :
    Expression.new (.text e.operator.text)
      (.list (e.options.map .option ++ e.fields.map fun f => f.spelled.condition)) = .ok e.spelled := by
  obtain ⟨operator, options, fields⟩ := e
  have hoperator : (Value.text operator.text).operator? = some operator := Operator.ofText?_text operator
  have hrules : checkFields operator (fields.map FieldValue.spelled) = .ok () := by
    rw [checkFields_spelled]
    exact h.rules
  rw [Expression.new, hoperator, Value.conditions_list, entries_of_parts h.values, Expression.spelled,
    spelledFields_eq_map]
  exact ofConditions_parts (fun o ho => (h.options o ho).1) hrules

/-- The text of an expression stands in round brackets. -/
theorem Expression.exists_of_written {e : Expression} {w : List Char} (h : e.written = .ok w) :
    ∃ body, w = '(' :: (body ++ [')']) := by
  obtain ⟨operator, options, fields⟩ := e
  rw [Expression.written] at h
  obtain ⟨ws, -, hw⟩ := bind_eq_ok_iff.1 h
  exact ⟨_, (Except.ok.inj hw).symm⟩

theorem trim_bracketed (body : List Char) : trim ('(' :: (body ++ [')'])) = '(' :: (body ++ [')']) := by
  have hstart : ('(' :: (body ++ [')'])).dropWhile isBlank = '(' :: (body ++ [')']) :=
    List.dropWhile_cons_of_neg (by decide)
  rw [trim, hstart, trimEnd, ← List.cons_append, List.reverse_append, List.reverse_singleton,
    List.singleton_append, List.dropWhile_cons_of_neg (by decide), List.reverse_cons, List.reverse_reverse]

/-- Nothing is trimmed of the text of an expression. -/
theorem Expression.trim_of_written {e : Expression} {w : List Char} (h : e.written = .ok w) : trim w = w := by
  obtain ⟨body, rfl⟩ := exists_of_written h
  exact trim_bracketed body

theorem Expression.exists_of_render {e : Expression} {text : String} (h : e.render = .ok text) :
    ∃ w, e.written = .ok w ∧ text = String.ofList w := by
  obtain ⟨w, hw, hrender⟩ := map_eq_ok_iff.1 h
  exact ⟨w, hw, hrender.symm⟩

theorem Expression.ofText_of_tree {w : List Char} {tree : Tree} (ht : trim w = w)
    (h : Tree.ofText? w = some tree) : Expression.ofText (String.ofList w) = tree.value := by
  have hne : w.isEmpty = false := by
    cases w with
    | nil => exact absurd h (by simp [Tree.ofText?, opening?])
    | cons => rfl
  rw [Expression.ofText, String.toList_ofList]
  simp only [ht, hne, Bool.false_eq_true, if_false, h]

theorem Query.TakesTree.exists_ofText? {w : List Char} {P : Tree → Prop} (h : TakesTree w P) :
    ∃ tree, Tree.ofText? w = some tree ∧ P tree := by
  obtain ⟨operator, items, middle, ho, hi, hp⟩ := h []
  rw [List.append_nil] at ho
  refine ⟨.node operator items, ?_, hp⟩
  simp only [Tree.ofText?, ho, hi, Option.bind_eq_bind, Option.bind_some, List.isEmpty_nil, if_true]

/-- A text that reads as an expression is read as one by itself. -/
theorem Query.ReadsTree.ofText {w : List Char} {e : Expression} (h : ReadsTree w e) (ht : trim w = w) :
    Expression.ofText (String.ofList w) = .ok e := by
  obtain ⟨tree, htree, hv⟩ := TakesTree.exists_ofText? h
  exact (Expression.ofText_of_tree ht htree).trans hv

end StructuredQuery
