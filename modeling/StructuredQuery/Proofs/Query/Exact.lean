import StructuredQuery.Proofs.Query.Evaluation
import StructuredQuery.Query.Meaning
import StructuredQuery.Query.Tree.Lemmas

/-!
The reader of query texts against the grammar. Whatever is read has a derivation with the same value, and
whatever has a derivation is read.
-/

namespace StructuredQuery.Query

open Text

theorem closing?_eq_none {cs : List Char} (h : ∀ left, cs ≠ ')' :: left) : closing? cs = none := by
  unfold closing?
  split
  · exact absurd rfl (h _)
  · rfl

theorem string?_eq_none {cs : List Char} (h : ∀ left, cs ≠ '\'' :: left) : string? cs = none := by
  unfold string?
  split
  · exact absurd rfl (h _)
  · rfl

theorem scalar?_of_string? {cs body rest : List Char} (h : string? cs = some (body, rest)) :
    scalar? cs = some (.text body, rest) := by
  simp only [scalar?, h]

/-- A number begins with a digit or a minus. -/
theorem exists_cons_of_number? {cs rest : List Char} {n : NumberText} (h : number? cs = some (n, rest)) :
    ∃ c left, cs = c :: left ∧ frontOf c = .number := by
  obtain ⟨text, -, hs⟩ := NumberText.spells_of_take? h
  rw [← List.append_assoc] at hs
  have hl := Terminal.longest_number_iff.2 ⟨n, h, hs⟩
  obtain ⟨c, left, hcs, hc⟩ := hl.exists_cons (Terminal.nullable_eq_false _)
  exact ⟨c, left, hcs, frontOf_of_starts hc (by decide)⟩

theorem scalar?_of_number? {cs rest : List Char} {n : NumberText} (h : number? cs = some (n, rest)) :
    scalar? cs = some (.number n, rest) := by
  -- strings are tried first, and no number begins with a quote
  have hs : string? cs = none := by
    refine string?_eq_none fun left hcs => ?_
    obtain ⟨c, left', hcs', hc⟩ := exists_cons_of_number? h
    rw [hcs] at hcs'
    rw [← (List.cons.inj hcs').1] at hc
    revert hc
    decide +kernel
  simp only [scalar?, hs, h, Option.map_some]

theorem exists_cons_of_scalar? {cs rest : List Char} {s : Scalar} (h : scalar? cs = some (s, rest)) :
    ∃ c left, cs = c :: left ∧ (frontOf c = .number ∨ frontOf c = .quote) := by
  unfold scalar? at h
  split at h
  · next hs =>
    unfold string? at hs
    split at hs
    · exact ⟨_, _, rfl, .inr (by decide +kernel)⟩
    · simp at hs
  · simp only [Option.map_eq_some_iff, Prod.exists, Prod.mk.injEq] at h
    obtain ⟨n, left, hn, -, -⟩ := h
    obtain ⟨c, left, hcs, hc⟩ := exists_cons_of_number? hn
    exact ⟨c, left, hcs, .inl hc⟩

/-- Other characters begin neither a number nor a string. -/
theorem scalar?_eq_none {c : Char} {left : List Char} (hn : frontOf c ≠ .number) (hq : frontOf c ≠ .quote) :
    scalar? (c :: left) = none := by
  cases h : scalar? (c :: left) with
  | none => rfl
  | some taken =>
    obtain ⟨d, left', hcs, hd⟩ := exists_cons_of_scalar? h
    rw [← (List.cons.inj hcs).1] at hd
    rcases hd with hd | hd
    · exact absurd hd hn
    · exact absurd hd hq

def term? (cs : List Char) : Option (Term × List Char) :=
  match flatTerm? cs with
  | some taken => some taken
  | none =>
    (opening? cs).bind fun (operator, rest) =>
      (items? rest).map fun (items, rest) => (.expression (.node operator items), rest)

def item? (cs : List Char) : Option (Item × List Char) :=
  (head? cs).bind fun
    | (.option name word, rest) => some (.option name word, rest)
    | (.field name, rest) => (term? rest).map fun (term, rest) => (.field name term, rest)

theorem item?_of_option {cs rest word : List Char} {name : OptionName}
    (h : head? cs = some (.option name word, rest)) : item? cs = some (.option name word, rest) := by
  rw [item?, h, Option.bind_some]

theorem item?_of_field {cs middle rest : List Char} {name : Option (List Char)} {term : Term}
    (h : head? cs = some (.field name, middle)) (ht : term? middle = some (term, rest)) :
    item? cs = some (.field name term, rest) := by
  simp only [item?, h, Option.bind_some, ht, Option.map_some]

/-- The items of an expression one after the other. -/
theorem items?_eq_item? (cs : List Char) :
    items? cs =
      match closing? (skipSpaces cs) with
      | some rest => some ([], rest)
      | none =>
        (item? (skipSpaces cs)).bind fun (item, rest) =>
          (items? rest).map fun (items, rest) => (item :: items, rest) := by
  rw [items?_eq]
  cases closing? (skipSpaces cs) with
  | some rest => rfl
  | none =>
    dsimp only [item?]
    -- the bracket that opens a nested expression is looked for in both, here as part of the item
    rcases head? (skipSpaces cs) with _ | ⟨name | name, rest⟩
    · rfl
    · rfl
    · dsimp only [Option.bind_some, term?]
      cases flatTerm? rest with
      | some taken => rfl
      | none =>
        rcases opening? rest with _ | ⟨operator, rest'⟩
        · rfl
        · dsimp only [Option.bind_some]
          rcases items? rest' with _ | ⟨nested, rest''⟩ <;> rfl

/-! ## What is read has a derivation -/

/-- The scalar that the reader takes is derived, with the same value. -/
theorem exists_derivesScalar {cs rest : List Char} {s : Scalar}
    (h : scalar? (skipSpaces cs) = some (s, rest)) :
    ∃ node, DerivesScalar cs node rest ∧ node.value = liftM s.value := by
  unfold scalar? at h
  split at h
  · next body left hs =>
    obtain ⟨rfl, rfl⟩ : .text body = s ∧ left = rest := by simpa using h
    have hl := Terminal.longest_string_iff.2 ⟨body, hs, rfl⟩
    refine ⟨_, .string (takes_of_longest hl), ?_⟩
    rw [ScalarNode.value, List.tail_cons, List.dropLast_concat]
    rfl
  · simp only [Option.map_eq_some_iff, Prod.exists, Prod.mk.injEq] at h
    obtain ⟨n, left, hn, rfl, rfl⟩ := h
    obtain ⟨text, -, hs⟩ := NumberText.spells_of_take? hn
    rw [← List.append_assoc] at hs
    have hl := Terminal.longest_number_iff.2 ⟨n, hn, hs⟩
    refine ⟨_, .number (takes_of_longest hl), ?_⟩
    simp only [ScalarNode.value, Terminal.number?_lexeme hn hs]
    rfl

/-- A bound that the reader takes is derived, whether it is there or not. -/
theorem exists_derivesBound {cs rest : List Char} {b : Option Scalar}
    (h : bound (skipSpaces cs) = (b, rest)) :
    ∃ node middle, DerivesBound cs node middle ∧ rest = skipSpaces middle ∧
      boundNodeValue node = liftM (boundValue b) := by
  unfold bound at h
  split at h
  · next s left hs =>
    obtain ⟨rfl, rfl⟩ := Prod.mk.inj h
    obtain ⟨node, hd, hv⟩ := exists_derivesScalar hs
    exact ⟨some node, left, .some hd, rfl, hv⟩
  · obtain ⟨rfl, rfl⟩ := Prod.mk.inj h
    exact ⟨none, cs, .none, rfl, rfl⟩

theorem takes_char {t : Terminal} {c : Char} (ht : t.pattern = .char c) {cs rest : List Char}
    (h : skipSpaces cs = c :: rest) : Takes t cs ⟨cs.takeWhile isSpace, [c]⟩ rest :=
  (takes_char_iff ht).2 ⟨rfl, h⟩

theorem takes_one {t : Terminal} {p : Char → Bool} (ht : t.pattern = .one p) {cs rest : List Char} {c : Char}
    (hc : p c) (h : skipSpaces cs = c :: rest) : Takes t cs ⟨cs.takeWhile isSpace, [c]⟩ rest :=
  (takes_one_iff ht).2 ⟨c, hc, rfl, h⟩

theorem exists_derivesBound_upper {cs rest : List Char} {upper : Option Scalar} {inclusive : Bool}
    (h : upperBound? (skipSpaces cs) = some (upper, inclusive, rest)) :
    ∃ comma afterComma node afterUpper closing, Takes .comma cs comma afterComma ∧
      DerivesBound afterComma node afterUpper ∧ Takes .rangeClose afterUpper closing rest ∧
      boundNodeValue node = liftM (boundValue upper) ∧ (inclusive ↔ closing.lexeme = [']']) := by
  unfold upperBound? at h
  split at h
  · next left hcs =>
    split at h <;> simp only [Option.some.injEq, Prod.mk.injEq, reduceCtorEq] at h
    · next hb =>
      obtain ⟨rfl, rfl, rfl⟩ := h
      obtain ⟨node, middle, hd, hm, hv⟩ := exists_derivesBound hb
      exact ⟨_, left, node, middle, _, takes_char rfl hcs, hd, takes_one rfl (by decide) hm.symm, hv, by simp⟩
    · next hb =>
      obtain ⟨rfl, rfl, rfl⟩ := h
      obtain ⟨node, middle, hd, hm, hv⟩ := exists_derivesBound hb
      exact ⟨_, left, node, middle, _, takes_char rfl hcs, hd, takes_one rfl (by decide) hm.symm, hv, by simp⟩
  · simp at h

/-- An interval that the reader takes is derived. -/
theorem exists_derivesTerm_interval {cs left rest : List Char} {c : Char} {term : Term}
    (hc : c = '[' ∨ c = '{') (hcs : skipSpaces cs = c :: left)
    (h : interval? (c = '[') left = some (term, rest)) :
    ∃ node, DerivesTerm cs node rest ∧ node.value = term.value := by
  rcases hb : bound (skipSpaces left) with ⟨lower, afterLower⟩
  simp only [interval?, hb, Option.map_eq_some_iff, Prod.exists, Prod.mk.injEq] at h
  obtain ⟨upper, inclusive, left', hu, rfl, rfl⟩ := h
  obtain ⟨lowerNode, middle, hl, rfl, hlow⟩ := exists_derivesBound hb
  obtain ⟨comma, afterComma, upperNode, afterUpper, closing, hcomma, hd, hclosing, hhigh, hinclusive⟩ :=
    exists_derivesBound_upper hu
  have ho := takes_one (t := .rangeOpen) rfl (by simpa using hc) hcs
  refine ⟨_, .range ho hl hcomma hd hclosing, ?_⟩
  rw [TermNode.value, Term.value, hlow, hhigh]
  refine bind_congr fun low => bind_congr fun high => ?_
  have hopening : ([c] = ['[']) ↔ decide (c = '[') = true := by simp
  simp only [intervalOf, hopening, ← hinclusive]
  cases Interval.ofDescriptor _ _ _ _ <;> rfl

/-- Whatever the reader takes that holds no expression is derived. -/
theorem exists_derivesTerm_flat {cs rest : List Char} {term : Term}
    (h : flatTerm? (skipSpaces cs) = some (term, rest)) :
    ∃ node, DerivesTerm cs node rest ∧ node.value = term.value := by
  unfold flatTerm? at h
  split at h
  · next hcs => exact exists_derivesTerm_interval (.inl rfl) hcs h
  · next hcs => exact exists_derivesTerm_interval (.inr rfl) hcs h
  · simp only [Option.map_eq_some_iff, Prod.exists, Prod.mk.injEq] at h
    obtain ⟨s, left, hs, rfl, rfl⟩ := h
    obtain ⟨node, hd, hv⟩ := exists_derivesScalar hs
    refine ⟨_, .scalar hd, ?_⟩
    rw [TermNode.value, Term.value]
    exact hv

/-- The reader takes the opening bracket and the operator as the grammar does. -/
theorem exists_takes_opening {cs operator rest : List Char}
    (h : opening? (skipSpaces cs) = some (operator, rest)) :
    ∃ opening middle word, Takes .leftRound cs opening middle ∧ Takes .operator middle word rest ∧
      word.lexeme = operator := by
  unfold opening? at h
  split at h
  · next left hcs =>
    have hw := Pattern.longest_plus_one_iff.2 h
    exact ⟨_, left, _, takes_char rfl hcs, takes_of_longest (t := .operator) hw, rfl⟩
  · simp at h

/-- An option is made of its name as a text as it is of the name itself. -/
theorem operatorOption_new_text (name : OptionName) (v : Value) :
    OperatorOption.new (.text name.text) v = OperatorOption.new (.optionName name) v := by
  simp only [OperatorOption.new, Value.optionName?, Value.text?]

/-- An option that the reader takes is derived. -/
theorem exists_derivesItem_option {cs word rest : List Char} {known : OptionName}
    (h : head? (skipSpaces cs) = some (.option known word, rest)) :
    ∃ item, DerivesItem cs item rest ∧ item.value = (Item.option known word).value := by
  unfold head? at h
  split at h
  · simp at h
  · next name left hn =>
    split at h
    · simp at h
    · next left' hleft =>
      simp only [Option.bind_eq_bind, Option.bind_eq_some_iff, Prod.exists] at h
      obtain ⟨known', hk, word', left'', hr, he⟩ := h
      obtain ⟨⟨rfl, rfl⟩, rfl⟩ : (known' = known ∧ word' = word) ∧ left'' = rest := by simpa using he
      have htext : name = known'.text.toList := by
        have := List.find?_some hk
        simp only [decide_eq_true_eq] at this
        rw [this, String.toList_ofList]
      -- the name is read as that of a field, and it is one of the words for options
      have hsplit := (Terminal.longest_fieldName_iff.2 hn).split
      have hname := takes_of_longest (t := .optionName)
        (Terminal.longest_optionName_iff.2 ⟨known', htext, hsplit⟩)
      have hword := takes_of_longest (t := .optionValue) (Pattern.longest_plus_one_iff.2 hr)
      refine ⟨_, .option hname (takes_char rfl hleft) hword, ?_⟩
      rw [ItemNode.value, Item.value, optionOf, Token.text, Token.text, htext, String.ofList_toList,
        operatorOption_new_text]
    · simp at h

/-- A field that the reader takes is derived once its value is. -/
theorem exists_derivesItem_field {cs rest : List Char} {name : Option (List Char)}
    (h : head? (skipSpaces cs) = some (.field name, rest)) :
    ∃ middle, rest = skipSpaces middle ∧ ∀ {node : TermNode} {term : Term} {left : List Char},
      DerivesTerm middle node left → node.value = term.value →
      ∃ item, DerivesItem cs item left ∧ item.value = (Item.field name term).value := by
  unfold head? at h
  split at h
  -- no name: what the field holds stands where the item begins
  · obtain ⟨rfl, rfl⟩ : none = name ∧ skipSpaces cs = rest := by simpa using h
    refine ⟨cs, rfl, fun hd hv => ⟨_, .bare hd, ?_⟩⟩
    rw [ItemNode.value, Item.value]
    exact hv
  · next word left hn =>
    split at h
    · next left' hleft =>
      obtain ⟨rfl, rfl⟩ : some word = name ∧ skipSpaces left' = rest := by simpa using h
      have hname := takes_of_longest (t := .fieldName) (Terminal.longest_fieldName_iff.2 hn)
      refine ⟨left', rfl, fun hd hv => ⟨_, .named hname (takes_char rfl hleft) hd, ?_⟩⟩
      rw [ItemNode.value, Item.value, hv]
      apply bind_congr
      intro v
      rw [Token.text]
      cases FieldValue.new _ v <;> rfl
    · next left' hleft =>
      simp only [Option.bind_eq_bind, Option.bind_eq_some_iff, Prod.exists] at h
      obtain ⟨known, -, word', left'', -, he⟩ := h
      simp at he
    · simp at h

/-- The reader takes the closing bracket as the grammar does. -/
theorem exists_takes_closing {cs rest : List Char} (h : closing? (skipSpaces cs) = some rest) :
    ∃ closing, Takes .rightRound cs closing rest := by
  unfold closing? at h
  split at h
  · next left hcs =>
    obtain rfl : left = rest := by simpa using h
    exact ⟨_, takes_char rfl hcs⟩
  · simp at h

/-- The rows of items that have derivations with the same values. -/
def HasDerivation (cs : List Char) (items : List Item) (rest : List Char) : Prop :=
  ∃ nodes middle closing, DerivesItems cs nodes middle ∧ Takes .rightRound middle closing rest ∧
    itemNodeValues nodes = itemValues items

theorem HasDerivation.cons {cs middle rest : List Char} {node : ItemNode} {item : Item} {items : List Item}
    (hd : DerivesItem cs node middle) (hv : node.value = item.value) (hr : HasDerivation middle items rest) :
    HasDerivation cs (item :: items) rest := by
  obtain ⟨nodes, last, closing, hn, hc, hvs⟩ := hr
  refine ⟨node :: nodes, last, closing, .cons hd hn, hc, ?_⟩
  rw [itemNodeValues, itemValues, hv, hvs]

/-- An expression is derived once its items are. -/
theorem exists_derivesExpr {cs operator middle rest : List Char} {items : List Item}
    (ho : opening? (skipSpaces cs) = some (operator, middle)) (hi : HasDerivation middle items rest) :
    ∃ e, DerivesExpr cs e rest ∧ e.value = (Tree.node operator items).value := by
  obtain ⟨opening, afterOpening, word, hopen, hword, rfl⟩ := exists_takes_opening ho
  obtain ⟨nodes, last, closing, hn, hc, hvs⟩ := hi
  refine ⟨_, .node hopen hword hn hc, ?_⟩
  rw [ExprNode.value, Tree.value, hvs, Token.text]

theorem TermNode.value_expr {e : ExprNode} {tree : Tree} (h : e.value = tree.value) :
    (TermNode.expr e).value = (Term.expression tree).value := by
  rw [TermNode.value, Term.value, h]
  cases tree.value <;> rfl

/-- The items that are read have derivations with the same values. -/
theorem hasDerivation_of_items? {cs rest : List Char} {items : List Item} (h : items? cs = some (items, rest)) :
    HasDerivation cs items rest := by
  -- the cases are those of the reader, the closing bracket, an option, and fields of both kinds; in the
  -- others it gives up
  fun_induction items? cs generalizing items rest with
  | case1 cs left hc =>
    obtain ⟨rfl, rfl⟩ : [] = items ∧ left = rest := by simpa using h
    obtain ⟨closing, hclosing⟩ := exists_takes_closing hc
    exact ⟨[], cs, closing, .nil, hclosing, rfl⟩
  | case3 cs hc known word left hh hl ih =>
    simp only [Option.map_eq_some_iff, Prod.exists, Prod.mk.injEq] at h
    obtain ⟨more, left', hi, rfl, rfl⟩ := h
    obtain ⟨node, hd, hv⟩ := exists_derivesItem_option hh
    exact (ih hi).cons hd hv
  | case5 cs hc name left hh term left' ht hl ih =>
    simp only [Option.map_eq_some_iff, Prod.exists, Prod.mk.injEq] at h
    obtain ⟨more, left'', hi, rfl, rfl⟩ := h
    obtain ⟨afterName, rfl, hfield⟩ := exists_derivesItem_field hh
    obtain ⟨term, hterm, hv⟩ := exists_derivesTerm_flat ht
    obtain ⟨node, hd, hv⟩ := hfield hterm hv
    exact (ih hi).cons hd hv
  | case9 cs hc name left hh ht operator left' ho hl nested left'' hn hl' ih ih' =>
    simp only [Option.map_eq_some_iff, Prod.exists, Prod.mk.injEq] at h
    obtain ⟨more, last, hi, rfl, rfl⟩ := h
    obtain ⟨afterName, rfl, hfield⟩ := exists_derivesItem_field hh
    obtain ⟨inner, hexpr, hv⟩ := exists_derivesExpr ho (ih hn)
    obtain ⟨node, hd, hv⟩ := hfield (.expr hexpr) (TermNode.value_expr hv)
    exact (ih' hi).cons hd hv
  | case2 | case4 | case6 | case7 | case8 | case10 | case11 => simp at h

/-- Whatever the reader takes for a field is derived. -/
theorem exists_derivesTerm {cs rest : List Char} {term : Term}
    (h : term? (skipSpaces cs) = some (term, rest)) :
    ∃ node, DerivesTerm cs node rest ∧ node.value = term.value := by
  unfold term? at h
  split at h
  · next taken ht =>
    obtain rfl := Option.some.inj h
    exact exists_derivesTerm_flat ht
  · simp only [Option.bind_eq_some_iff, Option.map_eq_some_iff, Prod.exists, Prod.mk.injEq] at h
    obtain ⟨operator, middle, ho, items, left, hi, rfl, rfl⟩ := h
    obtain ⟨e, he, hv⟩ := exists_derivesExpr ho (hasDerivation_of_items? hi)
    exact ⟨.expr e, .expr he, TermNode.value_expr hv⟩

/-! ## What has a derivation is read -/

/-- The other way round, the reader takes a scalar that is derived. -/
theorem DerivesScalar.exists_scalar? {cs rest : List Char} {node : ScalarNode}
    (h : DerivesScalar cs node rest) : ∃ s, scalar? (skipSpaces cs) = some (s, rest) := by
  cases h with
  | number h =>
    obtain ⟨n, hn, -⟩ := Terminal.longest_number_iff.1 h.longest
    exact ⟨_, scalar?_of_number? hn⟩
  | string h =>
    obtain ⟨body, hs, -⟩ := Terminal.longest_string_iff.1 h.longest
    exact ⟨_, scalar?_of_string? hs⟩

theorem Takes.scalar?_eq_none {t : Terminal} {cs rest : List Char} {token : Token} (h : Takes t cs token rest)
    (ho : t.front ≠ .other) (hn : t.front ≠ .number) (hq : t.front ≠ .quote) :
    scalar? (skipSpaces cs) = none := by
  obtain ⟨c, left, hcs, hc⟩ := h.exists_cons
  have hfront := frontOf_of_starts hc ho
  rw [hcs]
  exact Query.scalar?_eq_none (by rwa [hfront]) (by rwa [hfront])

/-- The reader takes a bound that is derived, in front of a terminal that is no scalar. -/
theorem DerivesBound.exists_bound {t : Terminal} {cs middle rest : List Char} {node : Option ScalarNode}
    {token : Token} (h : DerivesBound cs node middle) (ht : Takes t middle token rest)
    (ho : t.front ≠ .other) (hn : t.front ≠ .number) (hq : t.front ≠ .quote) :
    ∃ b, bound (skipSpaces cs) = (b, skipSpaces middle) := by
  cases h with
  | none => exact ⟨.none, by simp only [bound, ht.scalar?_eq_none ho hn hq]⟩
  | some hs =>
    obtain ⟨s, hs⟩ := hs.exists_scalar?
    exact ⟨.some s, by simp only [bound, hs]⟩

/-- The reader takes an interval that is derived. -/
theorem exists_interval? (lowerInclusive : Bool) {cs afterLower afterComma afterUpper rest : List Char}
    {comma closing : Token} {lower upper : Option ScalarNode} (hl : DerivesBound cs lower afterLower)
    (hc : Takes .comma afterLower comma afterComma) (hu : DerivesBound afterComma upper afterUpper)
    (he : Takes .rangeClose afterUpper closing rest) :
    ∃ term, interval? lowerInclusive cs = some (term, rest) := by
  obtain ⟨low, hlow⟩ := hl.exists_bound hc (by decide) (by decide) (by decide)
  obtain ⟨high, hhigh⟩ := hu.exists_bound he (by decide) (by decide) (by decide)
  obtain ⟨-, hcomma⟩ := (takes_char_iff rfl).1 hc
  obtain ⟨c, hbracket, -, hclosing⟩ := (takes_one_iff rfl).1 he
  rw [Bool.or_eq_true, decide_eq_true_eq, decide_eq_true_eq] at hbracket
  rw [hcomma] at hlow
  rw [hclosing] at hhigh
  simp only [interval?, hlow, upperBound?, hhigh]
  rcases hbracket with rfl | rfl <;> exact ⟨_, rfl⟩

theorem flatTerm?_of_scalar? {cs rest : List Char} {s : Scalar} (h : scalar? cs = some (s, rest)) :
    flatTerm? cs = some (.scalar s, rest) := by
  obtain ⟨c, left, rfl, hc⟩ := exists_cons_of_scalar? h
  unfold flatTerm?
  split
  · next he =>
    rw [(List.cons.inj he).1] at hc
    exact absurd hc (by decide +kernel)
  · next he =>
    rw [(List.cons.inj he).1] at hc
    exact absurd hc (by decide +kernel)
  · rw [h, Option.map_some]

theorem flatTerm?_opening (left : List Char) : flatTerm? ('(' :: left) = none := by
  have hs : scalar? ('(' :: left) = none := scalar?_eq_none (by decide +kernel) (by decide +kernel)
  simp [flatTerm?, hs]

theorem Takes.opening? {cs middle rest : List Char} {opening operator : Token}
    (ho : Takes .leftRound cs opening middle) (hw : Takes .operator middle operator rest) :
    opening? (skipSpaces cs) = some (operator.lexeme, rest) := by
  obtain ⟨-, hcs⟩ := (takes_char_iff rfl).1 ho
  rw [hcs, Query.opening?]
  exact Pattern.longest_plus_one_iff.1 hw.longest

theorem term?_of_flatTerm? {cs rest : List Char} {term : Term} (h : flatTerm? cs = some (term, rest)) :
    term? cs = some (term, rest) := by
  rw [term?, h]

theorem head?_eq_field_none {cs : List Char} (h : frontAt cs ≠ .name) :
    head? (skipSpaces cs) = some (.field none, skipSpaces cs) := by
  have hn : name? (skipSpaces cs) = none := by
    cases hcs : skipSpaces cs with
    | nil => rfl
    | cons c left =>
      rw [frontAt_of_cons hcs] at h
      have hc : ¬ isNameStart c := fun hc => h (by rw [frontOf, if_pos hc])
      rw [name?, if_neg hc]
  rw [head?, hn]

theorem closing?_eq_none_of_front {cs : List Char} (h : frontAt cs ≠ .closing) :
    closing? (skipSpaces cs) = none := by
  refine closing?_eq_none fun left hcs => h ?_
  rw [frontAt_of_cons hcs]
  decide +kernel

/-- A name with a colon behind it is the name of a field. -/
theorem head?_of_named {cs afterName afterColon : List Char} {name colon : Token}
    (hn : Takes .fieldName cs name afterName) (hc : Takes .colon afterName colon afterColon) :
    head? (skipSpaces cs) = some (.field (some name.lexeme), skipSpaces afterColon) := by
  obtain ⟨-, hcolon⟩ := (takes_char_iff rfl).1 hc
  simp only [head?, Terminal.longest_fieldName_iff.1 hn.longest, hcolon]

/-- A name with an equals sign and a word behind it is that of an option. -/
theorem exists_head?_of_option {cs afterName afterEquals rest : List Char} {name equals word : Token}
    (hn : Takes .optionName cs name afterName) (he : Takes .equals afterName equals afterEquals)
    (hw : Takes .optionValue afterEquals word rest) :
    ∃ known, head? (skipSpaces cs) = some (.option known word.lexeme, rest) := by
  obtain ⟨known, hlexeme, hcs⟩ := Terminal.longest_optionName_iff.1 hn.longest
  obtain ⟨-, hequals⟩ := (takes_char_iff rfl).1 he
  have hstop := stops_of_skipSpaces hequals (fun _ => not_isNameChar_of_isSpace) (by decide)
  have hknown : OptionName.ofText? (String.ofList known.text.toList) = some known := by
    rw [String.ofList_toList, OptionName.ofText?_text]
  have hword := Pattern.longest_plus_one_iff.1 hw.longest
  refine ⟨known, ?_⟩
  rw [hcs, hlexeme, head?, Terminal.name?_optionName known hstop]
  simp only [hequals, hknown, hword, Option.bind_eq_bind, Option.bind_some, Option.pure_def]

-- Along derivations. The reader looks ahead by one character only, and the front of what is derived next
-- says which way it takes.
mutual

/-- The reader takes what a field holds by its derivation. -/
theorem DerivesTerm.exists_term? : ∀ {cs rest : List Char} {node : TermNode}, DerivesTerm cs node rest →
    ∃ term, term? (skipSpaces cs) = some (term, rest)
  | _, _, _, .scalar h => by
    obtain ⟨s, hs⟩ := h.exists_scalar?
    exact ⟨_, term?_of_flatTerm? (flatTerm?_of_scalar? hs)⟩
  | _, _, _, .range ho hl hc hu he => by
    obtain ⟨c, hbracket, -, hcs⟩ := (takes_one_iff rfl).1 ho
    obtain ⟨term, ht⟩ := exists_interval? (c = '[') hl hc hu he
    refine ⟨term, term?_of_flatTerm? ?_⟩
    rw [Bool.or_eq_true, decide_eq_true_eq, decide_eq_true_eq] at hbracket
    rw [hcs]
    rcases hbracket with rfl | rfl <;> exact ht
  | _, _, _, .expr (@DerivesExpr.node _ _ _ _ _ _ operator _ _ ho hw hi hc) => by
    obtain ⟨items, hitems⟩ := DerivesItems.exists_items? hi hc
    obtain ⟨-, hcs⟩ := (takes_char_iff rfl).1 ho
    have hopen := ho.opening? hw
    refine ⟨.expression (.node operator.lexeme items), ?_⟩
    rw [hcs] at hopen ⊢
    simp only [term?, flatTerm?_opening, hopen, Option.bind_some, hitems, Option.map_some]

/-- The reader takes an item that is derived. -/
theorem DerivesItem.exists_item? : ∀ {cs rest : List Char} {node : ItemNode}, DerivesItem cs node rest →
    ∃ item, item? (skipSpaces cs) = some (item, rest)
  | _, _, _, .option hn he hw => by
    obtain ⟨known, hhead⟩ := exists_head?_of_option hn he hw
    exact ⟨_, item?_of_option hhead⟩
  | _, _, _, .named hn hc hv => by
    obtain ⟨term, hterm⟩ := DerivesTerm.exists_term? hv
    exact ⟨_, item?_of_field (head?_of_named hn hc) hterm⟩
  | _, _, _, .bare hv => by
    obtain ⟨term, hterm⟩ := DerivesTerm.exists_term? hv
    have hname := head?_eq_field_none (hv.frontAt ▸ (TermNode.front_ne _).1)
    exact ⟨_, item?_of_field hname hterm⟩

/-- The items of an expression are read up to the bracket that closes it. -/
theorem DerivesItems.exists_items? : ∀ {cs middle rest : List Char} {nodes : List ItemNode}
    {closing : Token}, DerivesItems cs nodes middle → Takes .rightRound middle closing rest →
    ∃ items, items? cs = some (items, rest)
  | _, _, _, _, _, .nil, hc => by
    obtain ⟨-, hcs⟩ := (takes_char_iff rfl).1 hc
    exact ⟨[], by rw [items?_eq_item?, hcs]; rfl⟩
  | _, _, _, _, _, @DerivesItems.cons _ _ _ node _ hi hr, hc => by
    obtain ⟨item, hitem⟩ := DerivesItem.exists_item? hi
    obtain ⟨items, hitems⟩ := DerivesItems.exists_items? hr hc
    have hclosing := closing?_eq_none_of_front (hi.frontAt ▸ node.front_ne_closing)
    refine ⟨item :: items, ?_⟩
    rw [items?_eq_item?, hclosing]
    simp only [hitem, Option.bind_some, hitems, Option.map_some]

end

end StructuredQuery.Query
