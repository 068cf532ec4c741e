import StructuredQuery.Proofs.Expression.Limits
import StructuredQuery.Proofs.Query.Taken

/-!
Options in query text. An option that is made of a name and a value has one word, so it is read back as it was
made and takes nothing from what stands behind it. Making it fails for integers of too many digits only, and for the
members of enumerations that stand for such.
-/

namespace StructuredQuery

open Query Text

/-! ## What makes no option -/

/-- Writing an integer fails exactly if it has too many digits. -/
theorem Integer.write_eq_error_iff {n : Int} {f : Fault} :
    write n = .error f ↔ f = .digitLimit ∧ ¬IsShort n := by
  have hlimited : Limited (¬IsShort n) (write n) := limited_write (Classical.em _)
  constructor
  · exact hlimited f
  · rintro ⟨rfl, hn⟩
    cases h : write n with
    | ok text => exact absurd (length_of_write h) hn
    | error f => rw [(hlimited f h).1]

namespace Value

/-- Writing a number fails exactly if it is an integer of too many digits. -/
theorem asText_eq_error_iff {v : Value} {f : Fault} (hv : v.isNumber) :
    v.asText = .error f ↔ f = .digitLimit ∧ ∃ n, v = .int n ∧ ¬Integer.IsShort n := by
  cases v with
  | int n => simp [asText_int, Integer.write_eq_error_iff]
  | float x => simp [asText_float]
  | decimal d => simp [asText_decimal]
  | _ => exact absurd hv (by simp [isNumber])

/-- Finding the word of a value fails only for an integer of too many digits, also as the value of a
member of an enumeration. -/
theorem word?_eq_error_iff {v : Value} {f : Fault} :
    v.word? = .error f ↔ f = .digitLimit ∧ ∃ n, v.underlying = .int n ∧ ¬Integer.IsShort n := by
  fun_induction word? v with
  | case1 b => simp [underlying]
  | case2 _ _ value ih => exact ih
  | case3 v _ hmember s hs =>
    have hint : ∀ n, v ≠ .int n := by
      rintro n rfl
      cases hs
    simp [underlying, hint]
  | case4 v _ hmember _ hn =>
    rw [underlying, ← asText_eq_error_iff hn]
    · cases v.asText <;> simp [Except.map]
    · exact hmember
  | case5 v _ hmember _ hn =>
    have hint : ∀ n, v ≠ .int n := by
      rintro n rfl
      exact hn rfl
    simp [underlying, hint]

end Value

/-- Making an option fails only for a known name and an integer of too many digits. -/
theorem OperatorOption.new_eq_error_iff {name value : Value} {f : Fault} :
    new name value = .error f ↔
      f = .digitLimit ∧ name.optionName?.isSome ∧ ∃ n, value.underlying = .int n ∧ ¬Integer.IsShort n := by
  unfold new
  split
  · next o =>
    have hname : (Value.option o).optionName? = none := rfl
    simp [hname]
  · split
    · next hnull =>
      obtain rfl : value = .null := by
        cases value <;> first | rfl | cases hnull
      simp [Value.underlying]
    · split
      · next hname => simp [hname]
      · next known hname =>
        have hword : (value.word? >>= fun word => pure (word.map fun w => OperatorOption.mk known (some w))) =
            .error f ↔ value.word? = .error f := by
          cases value.word? <;> simp [bind, Except.bind, pure, Except.pure]
        rw [hword, Value.word?_eq_error_iff, hname]
        simp

/-- A pair gives the option that its name and its value give. -/
theorem OperatorOption.ofPair_of_pair? {pair name value : Value} (h : pair? pair = some (name, value)) :
    ofPair pair = new name value := by
  unfold ofPair
  split
  · cases h
  · rw [h]

/-- A pair fails as its name and its value do. -/
theorem OperatorOption.ofPair_eq_error_iff {pair : Value} {f : Fault} :
    ofPair pair = .error f ↔ ∃ name value, pair? pair = some (name, value) ∧ new name value = .error f := by
  constructor
  · intro h
    unfold ofPair at h
    split at h
    · cases h
    · split at h
      · next hpair => exact ⟨_, _, hpair, h⟩
      · cases h
  · rintro ⟨name, value, hpair, h⟩
    rw [ofPair_of_pair? hpair]
    exact h

/-! ## One more option -/

/-- An option that the operator accepts adds nothing but itself to an expression. -/
theorem Expression.ofConditions_option {operator : Operator} {o : OperatorOption}
    (ho : o.name ∈ operator.accepted) (conditions : List Condition) :
    ofConditions operator (.option o :: conditions) =
      (ofConditions operator conditions).map fun e => { e with options := o :: e.options } := by
  have hvalue (name : OptionName) : namedOption (.option o :: conditions) name = namedOption conditions name := rfl
  have hoption : Condition.option? operator (.option o) = some o := by
    simp [Condition.option?, ho]
  have hoptions : optionsOf operator (.option o :: conditions) =
      (optionsOf operator conditions).map (o :: ·) := by
    unfold optionsOf
    rw [funext hvalue, List.filterMap_cons_some hoption]
    cases operator.accepted.mapM (namedOption conditions) <;> rfl
  have hfields : fieldsOf operator (.option o :: conditions) = fieldsOf operator conditions := rfl
  unfold ofConditions
  rw [hoptions, hfields]
  cases optionsOf operator conditions with
  | error f => rfl
  | ok options =>
    cases fieldsOf operator conditions with
    | error e => rfl
    | ok fields =>
      cases h : checkFields operator fields <;> simp [Except.map, bind, Except.bind, h] <;> rfl

/-- An item behind the operator is taken before those that stood there. -/
theorem Query.ReadsItem.exists_items? {w cs : List Char} {items : List Item} {rest : List Char} {v : Value}
    (hread : ReadsItem w v) (h : items? (' ' :: cs) = some (items, rest)) :
    ∃ item, item.value = .ok v ∧ items? (' ' :: (w ++ ' ' :: cs)) = some (item :: items, rest) := by
  obtain ⟨c, left, rfl, hclosing, hother⟩ := hread.front
  obtain ⟨item, hitem, hv⟩ := hread.takes (' ' :: cs) ⟨' ', cs, rfl, .inl rfl⟩
  refine ⟨item, hv, ?_⟩
  rw [List.cons_append, items?_space hclosing hother, ← List.cons_append, hitem]
  simp only [Option.bind_some, h, Option.map_some]

namespace Expression

/-- A query of an operator is read with what the items behind the operator give. -/
theorem ofText_operator_eq_ok_iff {operator : Operator} {cs : List Char} {e : Expression} :
    ofText (String.ofList ('(' :: (operator.text.toList ++ ' ' :: cs ++ [')']))) = .ok e ↔
      ∃ items vs, items? (' ' :: (cs ++ [')'])) = some (items, []) ∧ itemValues items = .ok vs ∧
        ofConditions operator (vs.map fun v => v.reading.entry) = .ok e := by
  have hopening : opening? ('(' :: (operator.text.toList ++ ' ' :: cs ++ [')'])) =
      some (operator.text.toList, ' ' :: (cs ++ [')'])) := by
    rw [List.append_assoc]
    exact opening?_of_isEnd operator ⟨' ', cs ++ [')'], rfl, .inl rfl⟩
  -- the tree of the query is the operator with the items, whatever these are
  have hvalue (items : List Item) : (Query.Tree.node operator.text.toList items).value = .ok e ↔
      ∃ vs, itemValues items = .ok vs ∧ ofConditions operator (vs.map fun v => v.reading.entry) = .ok e := by
    rw [Tree.value, bind_eq_ok_iff, String.ofList_toList]
    simp only [Expression.new, Value.operator?, Value.text?, Option.bind_some, Operator.ofText?_text,
      Value.conditions_list]
  have htrim := trim_bracketed (operator.text.toList ++ ' ' :: cs)
  constructor
  · intro h
    rw [ofText, String.toList_ofList, htrim] at h
    simp only [List.isEmpty_cons, Bool.false_eq_true, if_false] at h
    split at h
    · next tree htree =>
      simp only [Tree.ofText?, hopening, Option.bind_eq_bind, Option.bind_some, Option.bind_eq_some_iff,
        Prod.exists] at htree
      obtain ⟨items, rest, hitems, hrest⟩ := htree
      split at hrest
      · next hempty =>
        obtain rfl : Query.Tree.node operator.text.toList items = tree := by simpa using hrest
        obtain rfl : rest = [] := List.isEmpty_iff.1 hempty
        obtain ⟨vs, hvs, he⟩ := (hvalue items).1 h
        exact ⟨items, vs, hitems, hvs, he⟩
      · cases hrest
    · cases h
  · rintro ⟨items, vs, hitems, hvs, he⟩
    have htree : Tree.ofText? ('(' :: (operator.text.toList ++ ' ' :: cs ++ [')'])) =
        some (.node operator.text.toList items) := by
      simp only [Tree.ofText?, hopening, hitems, Option.bind_eq_bind, Option.bind_some, List.isEmpty_nil, if_true]
    rw [ofText_of_tree htrim htree]
    exact (hvalue items).2 ⟨vs, hvs, he⟩

/-- An option behind the operator that accepts it is read back, and all else as it is without the option. -/
theorem ofText_of_option {operator : Operator} {o : OperatorOption} {cs : List Char} {e : Expression}
    (hvalid : o.Valid) (ho : o.name ∈ operator.accepted)
    (h : ofText (String.ofList ('(' :: (operator.text.toList ++ ' ' :: cs ++ [')']))) = .ok e) :
    ofText (String.ofList ('(' :: (operator.text.toList ++ ' ' :: (o.written ++ ' ' :: cs) ++ [')']))) =
      .ok { e with options := o :: e.options } := by
  obtain ⟨items, vs, hitems, hvs, he⟩ := ofText_operator_eq_ok_iff.1 h
  obtain ⟨item, hitem, htaken⟩ := (readsItem_written hvalid).exists_items? hitems
  refine ofText_operator_eq_ok_iff.2 ⟨item :: items, .option o :: vs, ?_, ?_, ?_⟩
  · rw [List.append_assoc]
    exact htaken
  · rw [itemValues, hitem, hvs]
    rfl
  · have hentry : (Value.option o).reading.entry = .option o := rfl
    rw [List.map_cons, hentry, ofConditions_option ho, he]
    rfl

/-- Making an option, of a name and a value or of a pair of them, fails only for a known name and an integer of too
many digits, be it the value itself or that of a member of an enumeration. An option that is made so is read back
behind any operator that accepts it, and all else there is read as it is without the option; a finished option in the
place of the name is given back and has to have its word already. -/
theorem ofText_with_option (name value pair : Value) :
    (∀ f, OperatorOption.new name value = .error f ↔
      f = .digitLimit ∧ name.optionName?.isSome ∧ ∃ n, value.underlying = .int n ∧ ¬Integer.IsShort n) ∧
    (∀ f, OperatorOption.ofPair pair = .error f ↔
      ∃ key given, OperatorOption.pair? pair = some (key, given) ∧ OperatorOption.new key given = .error f) ∧
    ∀ o, (∀ given, name = .option given → given.Valid) →
      (OperatorOption.new name value = .ok (some o) ∨
        OperatorOption.pair? pair = some (name, value) ∧ OperatorOption.ofPair pair = .ok (some o)) →
      ∀ operator : Operator, o.name ∈ operator.accepted → ∀ field e,
        ofText ("(" ++ operator.text ++ " " ++ field ++ ")") = .ok e →
        ofText ("(" ++ operator.text ++ " " ++ String.ofList o.written ++ " " ++ field ++ ")") =
          .ok { e with options := o :: e.options } := by
  refine ⟨fun f => OperatorOption.new_eq_error_iff, fun f => OperatorOption.ofPair_eq_error_iff, ?_⟩
  intro o hname hmade operator ho field e h
  have hnew : OperatorOption.new name value = .ok (some o) := by
    rcases hmade with hnew | ⟨hpair, hmade⟩
    · exact hnew
    · exact (OperatorOption.ofPair_of_pair? hpair).symm.trans hmade
  have hvalid : o.Valid := by
    rcases OperatorOption.new_cases hnew with rfl | ⟨known, word, -, hw, rfl⟩
    · exact hname o rfl
    · exact ⟨word, rfl, Value.isWord_of_word? hw⟩
  have htext : "(" ++ operator.text ++ " " ++ field ++ ")" =
      String.ofList ('(' :: (operator.text.toList ++ ' ' :: field.toList ++ [')'])) := by
    apply String.toList_inj.1
    simp
  have htext' : "(" ++ operator.text ++ " " ++ String.ofList o.written ++ " " ++ field ++ ")" =
      String.ofList ('(' :: (operator.text.toList ++ ' ' :: (o.written ++ ' ' :: field.toList) ++ [')'])) := by
    apply String.toList_inj.1
    simp
  rw [htext] at h
  rw [htext']
  exact ofText_of_option hvalid ho h

/-- The case of `(and boost=2 title:'star')`, with the option made of a pair. -/
theorem ofText_with_option_boost :
    let pair : Value := .tuple [.optionName .boost, .int 2]
    let o : OperatorOption := ⟨.boost, some "2"⟩
    let e : Expression := ⟨.and, [], [⟨.text "star", some "title"⟩]⟩
    (∀ given, Value.optionName .boost = .option given → given.Valid) ∧
      OperatorOption.pair? pair = some (.optionName .boost, .int 2) ∧ OperatorOption.ofPair pair = .ok (some o) ∧
      o.name ∈ Operator.accepted .and ∧ ofText ("(" ++ Operator.text .and ++ " " ++ "title:'star'" ++ ")") = .ok e ∧
      ofText ("(" ++ Operator.text .and ++ " " ++ String.ofList o.written ++ " " ++ "title:'star'" ++ ")") =
        .ok { e with options := o :: e.options } := by
  intro pair o e
  have hname : ∀ given, Value.optionName .boost = .option given → given.Valid := by simp
  have hword : (Value.int 2).word? = .ok (some "2") := by
    have hwrite : Integer.write 2 = .ok "2" := Integer.write_of_length (by decide)
    rw [show (Value.int 2).word? = (Value.int 2).asText.map some from rfl, Value.asText_int, hwrite]
    rfl
  have hpair : OperatorOption.ofPair pair = .ok (some o) := by
    rw [OperatorOption.ofPair_of_pair? rfl, OperatorOption.new_optionName _ (by simp), hword]
    rfl
  have haccepted : o.name ∈ Operator.accepted .and := by decide
  have htree : Tree.ofText? "(and title:'star')".toList =
      some (.node "and".toList [.field (some "title".toList) (.scalar (.text "star".toList))]) := by
    cbv
  have htrim : trim "(and title:'star')".toList = "(and title:'star')".toList := by decide
  have hread : ofText ("(" ++ Operator.text .and ++ " " ++ "title:'star'" ++ ")") = .ok e := by
    change ofText (String.ofList "(and title:'star')".toList) = .ok e
    rw [ofText_of_tree htrim htree]
    rfl
  exact ⟨hname, rfl, hpair, haccepted, hread,
    (ofText_with_option _ _ pair).2.2 o hname (.inr ⟨rfl, hpair⟩) .and haccepted _ e hread⟩

/-- A boost of one digit too many fails: alone, as a pair, and as the value of a member of an enumeration. -/
theorem boost_of_long_integer :
    let boost : Value := .int (10 ^ Integer.digitLimit : Nat)
    OperatorOption.new (.text "boost") boost = .error .digitLimit ∧
      OperatorOption.ofPair (.tuple [.text "boost", boost]) = .error .digitLimit ∧
      OperatorOption.new (.text "boost") (.member "Weight" "MOST" boost) = .error .digitLimit := by
  intro boost
  have hlong : ¬Integer.IsShort (10 ^ Integer.digitLimit : Nat) := by
    intro hshort
    have hlt := (length_digitsOfNat_le_iff (by decide)).1 hshort
    rw [Int.natAbs_natCast] at hlt
    exact lt_irrefl _ hlt
  have hnew {value : Value} (hv : value.underlying = boost) :
      OperatorOption.new (.text "boost") value = .error .digitLimit :=
    OperatorOption.new_eq_error_iff.2 ⟨rfl, by decide, _, hv, hlong⟩
  exact ⟨hnew rfl, OperatorOption.ofPair_eq_error_iff.2 ⟨_, _, rfl, hnew rfl⟩, hnew rfl⟩

end Expression

end StructuredQuery
