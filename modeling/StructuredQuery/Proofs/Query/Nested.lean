import StructuredQuery.Proofs.Query.Spacing

/-!
Fields named like operators. A value under the name of an operator is the nested expression of that operator and
the value. The two spellings have different derivations, but the items that they are stand for the same condition
or fail alike, and so does every query around them.
-/

namespace StructuredQuery

open Query Text

namespace Query

mutual

/-- The texts of an item in which one value under the name of an operator, its own or one at any depth in it, is
put into brackets with that operator. -/
inductive ItemNode.NestedText : ItemNode → List Char → Prop
  | here (o : Operator) {name colon : Token} {value : TermNode} (ho : name.lexeme = o.text.toList) :
      ItemNode.NestedText (.named name colon value)
        (name.spaces ++ '(' :: (name.lexeme ++ ' ' :: (textOf value.tokens ++ [')'])))
  | named {name colon : Token} {e : ExprNode} {text : List Char} (h : ExprNode.NestedText e text) :
      ItemNode.NestedText (.named name colon (.expr e)) (name.written ++ (colon.written ++ text))
  | bare {e : ExprNode} {text : List Char} (h : ExprNode.NestedText e text) :
      ItemNode.NestedText (.bare (.expr e)) text

/-- The texts of an expression in which one value under the name of an operator, at any depth, is put into brackets
with that operator. -/
inductive ExprNode.NestedText : ExprNode → List Char → Prop
  | node {opening operator closing : Token} {before after : List ItemNode} {item : ItemNode} {text : List Char}
      (h : ItemNode.NestedText item text) :
      ExprNode.NestedText (.node opening operator (before ++ item :: after) closing)
        (textOf (opening :: operator :: itemsTokens before) ++ (text ++ textOf (itemsTokens after ++ [closing])))

end

/-! ## The conditions of items -/

def ItemNode.entry (item : ItemNode) : Except Error Condition :=
  item.value.map fun v => v.reading.entry

theorem mapM_entry (items : List ItemNode) :
    items.mapM ItemNode.entry = (itemNodeValues items).map fun vs => vs.map fun v => v.reading.entry := by
  induction items with
  | nil => rfl
  | cons item rest ih =>
    rw [List.mapM_cons, ih, ItemNode.entry, itemNodeValues]
    cases item.value with
    | error e => rfl
    | ok v => cases itemNodeValues rest <;> rfl

/-- An expression depends on its items through their conditions alone. -/
theorem ExprNode.value_congr {opening operator closing : Token} {items items' : List ItemNode}
    (h : items'.mapM ItemNode.entry = items.mapM ItemNode.entry) :
    (ExprNode.node opening operator items' closing).value = (ExprNode.node opening operator items closing).value := by
  obtain ⟨make, hmake⟩ : ∃ make : List Condition → Except Error Expression, ∀ vs : List Value,
      Expression.new (.text operator.text) (.list vs) = make (vs.map fun v => v.reading.entry) := by
    cases hknown : (Value.text operator.text).operator? with
    | none =>
      exact ⟨fun _ => Expression.new (.text operator.text) .null, fun vs => by
        simp only [Expression.new, hknown]⟩
    | some known =>
      exact ⟨Expression.ofConditions known, fun vs => by rw [Expression.new, hknown, Value.conditions_list]⟩
  have hvalue (items : List ItemNode) :
      (ExprNode.node opening operator items closing).value = items.mapM ItemNode.entry >>= make := by
    rw [ExprNode.value, mapM_entry]
    cases itemNodeValues items with
    | error e => rfl
    | ok vs => exact hmake vs
  rw [hvalue, hvalue, h]

/-- A number is one condition. -/
theorem exists_reading_of_ofNumber {n : NumberText} {v : Value} (h : Value.ofNumber n = .ok v) :
    ∃ c, v.reading = .single c := by
  unfold Value.ofNumber at h
  split at h
  · obtain ⟨i, -, rfl⟩ := map_eq_ok_iff.1 h
    exact ⟨_, rfl⟩
  · obtain rfl := Except.ok.inj h
    exact ⟨_, rfl⟩

/-- What a field holds is read as one condition. -/
theorem TermNode.exists_reading {t : TermNode} {v : Value} (h : t.value = .ok v) : ∃ c, v.reading = .single c := by
  cases t with
  | scalar s =>
    rw [TermNode.value] at h
    cases s with
    | number token =>
      rw [ScalarNode.value] at h
      split at h
      · next n left hn =>
        -- the text of a number is written with digits, so its value is an integer or a float
        have hmeets : Meets (fun v => ∃ c, v.reading = .single c) (fun _ => True)
            (liftM (Value.ofNumber n) : Except Error Value) :=
          meets_liftM (fun v hv => exists_reading_of_ofNumber hv) fun _ _ => trivial
        exact hmeets.of_ok h
      · cases h
    | string token =>
      obtain rfl := Except.ok.inj h
      exact ⟨_, rfl⟩
  | range opening lower comma upper closing =>
    rw [TermNode.value] at h
    obtain ⟨low, -, h⟩ := bind_eq_ok_iff.1 h
    obtain ⟨high, -, h⟩ := bind_eq_ok_iff.1 h
    obtain ⟨r, -, rfl⟩ := map_eq_ok_iff.1 h
    exact ⟨_, rfl⟩
  | expr e =>
    rw [TermNode.value] at h
    obtain ⟨e, -, rfl⟩ := map_eq_ok_iff.1 h
    exact ⟨_, rfl⟩

/-- A value under the name of an operator is the condition that the nested expression of it is. -/
theorem ItemNode.entry_named {o : Operator} {name colon opening operator closing : Token} {value value' : TermNode}
    (hn : name.lexeme = o.text.toList) (ho : operator.lexeme = o.text.toList) (hv : value'.value = value.value) :
    (ItemNode.bare (.expr (.node opening operator [.bare value'] closing))).entry =
      (ItemNode.named name colon value).entry := by
  have hname : name.text = o.text := by rw [Token.text, hn, String.ofList_toList]
  have hoperator : operator.text = o.text := by rw [Token.text, ho, String.ofList_toList]
  have hknown : (Value.text o.text).operator? = some o := Operator.ofText?_text o
  rw [ItemNode.entry, ItemNode.entry, ItemNode.value, ItemNode.value, TermNode.value, ExprNode.value,
    itemNodeValues, itemNodeValues, ItemNode.value, hv, hname, hoperator]
  -- both conditions come from the expression of the operator with the value as its only condition
  cases h : value.value with
  | error e => rfl
  | ok v =>
    obtain ⟨c, hc⟩ := TermNode.exists_reading h
    have hnew : Expression.new (.text o.text) (.list [v]) = Expression.ofConditions o [c] := by
      rw [Expression.new, hknown, Value.conditions_list, List.map_singleton, hc]
      rfl
    have hfield : FieldValue.new (.text o.text) v =
        (Expression.ofConditions o [c] >>= fun e => .ok ⟨.expression e, none⟩) := by
      rw [FieldValue.new, FieldValue.ofNamed, hknown, Value.conditions, hc]
      rfl
    change ((Expression.new (.text o.text) (.list [v])).map Value.expression).map (fun v => v.reading.entry) =
      ((FieldValue.new (.text o.text) v).map Value.field).map fun v => v.reading.entry
    rw [hnew, hfield]
    cases Expression.ofConditions o [c] <;> rfl

/-! ## Derivations of the two spellings -/

/-- A row of items may be derived in two parts. -/
theorem derivesItems_append_iff {cs rest : List Char} {items more : List ItemNode} :
    DerivesItems cs (items ++ more) rest ↔
      ∃ middle, DerivesItems cs items middle ∧ DerivesItems middle more rest := by
  constructor
  · intro h
    induction items generalizing cs with
    | nil => exact ⟨cs, .nil, h⟩
    | cons item items ih =>
      cases h with
      | cons hi hr =>
        obtain ⟨middle, hitems, hmore⟩ := ih hr
        exact ⟨middle, .cons hi hitems, hmore⟩
  · rintro ⟨middle, hitems, hmore⟩
    induction items generalizing cs with
    | nil =>
      cases hitems
      exact hmore
    | cons item items ih =>
      cases hitems with
      | cons hi hr => exact .cons hi (ih hr)

/-- Whatever a field holds begins with a terminal. -/
theorem TermNode.exists_tokens (t : TermNode) : ∃ first more, t.tokens = first :: more := by
  cases t with
  | scalar s =>
    rw [TermNode.tokens]
    cases s <;> exact ⟨_, _, rfl⟩
  | range =>
    rw [TermNode.tokens]
    exact ⟨_, _, rfl⟩
  | expr e =>
    cases e
    rw [TermNode.tokens, ExprNode.tokens]
    exact ⟨_, _, rfl⟩

/-- A value may be set apart from what stands before it. -/
theorem DerivesTerm.exists_spaced {cs rest rest' : List Char} {t : TermNode} (h : DerivesTerm cs t rest)
    (hr : FollowsToMark rest rest') :
    ∃ t', DerivesTerm (' ' :: (textOf t.tokens ++ rest')) t' rest' ∧ t'.value = t.value := by
  obtain ⟨first, more, hfirst⟩ := t.exists_tokens
  have hself := h.respaced_self
  rw [hfirst] at hself
  obtain ⟨hspaces, hmore⟩ := List.forall₂_cons.1 hself
  have hspaced : List.Forall₂ Token.Respaced t.tokens (⟨' ' :: first.spaces, first.lexeme⟩ :: more) := by
    rw [hfirst]
    exact .cons ⟨rfl, List.forall_mem_cons.2 ⟨rfl, hspaces.spaces⟩, by simp⟩ hmore
  obtain ⟨t', h', hv, -⟩ := h.respaced hspaced hr
  rw [hfirst]
  exact ⟨t', h', hv⟩

/-- A value under the name of an operator is derived in brackets as well. -/
theorem DerivesItem.exists_nested {cs rest : List Char} {o : Operator} {name colon : Token} {value : TermNode}
    (ho : name.lexeme = o.text.toList) (h : DerivesItem cs (.named name colon value) rest) :
    ∃ item, DerivesItem (name.spaces ++ '(' :: (name.lexeme ++ ' ' :: (textOf value.tokens ++ ')' :: rest)))
      item rest ∧ item.entry = (ItemNode.named name colon value).entry := by
  cases h with
  | named hn _ hv =>
    obtain ⟨value', hv', hvalue⟩ := hv.exists_spaced (followsToMark_mark (c := ')') rfl rest rest)
    have hopening : Takes .leftRound (name.spaces ++ '(' :: (name.lexeme ++ ' ' :: (textOf value.tokens ++
        ')' :: rest))) ⟨name.spaces, ['(']⟩ (name.lexeme ++ ' ' :: (textOf value.tokens ++ ')' :: rest)) :=
      ⟨hn.1, _, rfl, Pattern.longest_one_iff.2 ⟨'(', rfl, rfl, rfl⟩⟩
    have hoperator := takes_of_longest (t := .operator) (Pattern.longest_plus_one_iff.2
      (opening?_of_isEnd o ⟨' ', textOf value.tokens ++ ')' :: rest, rfl, .inl rfl⟩))
    rw [← ho] at hoperator
    have hexpr := DerivesExpr.node hopening hoperator (.cons (.bare hv') .nil) (takes_char rfl rfl)
    exact ⟨_, .bare (.expr hexpr), ItemNode.entry_named ho ho hvalue⟩

-- Along the way to the item: what stands before it is derived anew, and what stands behind it is left as it is.
mutual

/-- An item in its nested form is derived, and stands for the same condition. -/
theorem ItemNode.NestedText.exists_derivesItem : ∀ {cs rest text : List Char} {item : ItemNode},
    ItemNode.NestedText item text → DerivesItem cs item rest →
    ∃ item', DerivesItem (text ++ rest) item' rest ∧ item'.entry = item.entry ∧ FollowsToMark cs (text ++ rest)
  | cs, rest, _, _, @ItemNode.NestedText.here o name colon value ho, h => by
    obtain ⟨item', h', hentry⟩ := h.exists_nested ho
    -- the first mark of the new text is its bracket, so up to it there are only the spaces of the old one
    have hbracket : FollowsToMark (name.lexeme ++ (colon.written ++ (textOf value.tokens ++ rest)))
        ('(' :: (name.lexeme ++ ' ' :: (textOf value.tokens ++ ')' :: rest))) := followsToMark_mark rfl _ _
    have hcs : cs = name.spaces ++ (name.lexeme ++ (colon.written ++ (textOf value.tokens ++ rest))) := by
      simpa [ItemNode.tokens, Token.written] using h.eq_textOf
    have htext : name.spaces ++ '(' :: (name.lexeme ++ ' ' :: (textOf value.tokens ++ [')'])) ++ rest =
        name.spaces ++ '(' :: (name.lexeme ++ ' ' :: (textOf value.tokens ++ ')' :: rest)) := by
      simp
    rw [htext, hcs]
    exact ⟨item', h', hentry, hbracket.append name.spaces⟩
  | _, rest, _, _, @ItemNode.NestedText.named name colon e text hnested, .named hn hc (.expr h) => by
    obtain ⟨e', h', hv, hf⟩ := ExprNode.NestedText.exists_derivesExpr hnested h
    obtain ⟨hc', hfc⟩ := hc.respaced hc.respaced_self hf
    obtain ⟨hn', hfn⟩ := hn.respaced hn.respaced_self hfc
    rw [List.append_assoc, List.append_assoc]
    refine ⟨.named name colon (.expr e'), .named hn' hc' (.expr h'), ?_, hfn⟩
    rw [ItemNode.entry, ItemNode.entry, ItemNode.value, ItemNode.value, TermNode.value, TermNode.value, hv]
  | _, _, _, _, .bare hnested, .bare (.expr h) => by
    obtain ⟨e', h', hv, hf⟩ := ExprNode.NestedText.exists_derivesExpr hnested h
    refine ⟨.bare (.expr e'), .bare (.expr h'), ?_, hf⟩
    rw [ItemNode.entry, ItemNode.entry, ItemNode.value, ItemNode.value, TermNode.value, TermNode.value, hv]

/-- With the item in brackets an expression is derived with the same value. -/
theorem ExprNode.NestedText.exists_derivesExpr : ∀ {cs rest text : List Char} {e : ExprNode},
    ExprNode.NestedText e text → DerivesExpr cs e rest →
    ∃ e', DerivesExpr (text ++ rest) e' rest ∧ e'.value = e.value ∧ FollowsToMark cs (text ++ rest)
  | _, rest, _, _, @ExprNode.NestedText.node opening operator closing before after item text hnested,
      .node ho hw hi hc => by
    obtain ⟨middle, hbefore, hitems⟩ := derivesItems_append_iff.1 hi
    cases hitems with
    | @cons _ left _ _ _ hitem hafter =>
      obtain ⟨item', hitem', hentry, hf⟩ := ItemNode.NestedText.exists_derivesItem hnested hitem
      obtain ⟨before', hbefore', hvs, hfb⟩ := DerivesItems.respaced hbefore hbefore.respaced_self hf
      obtain ⟨hw', hfw⟩ := hw.respaced hw.respaced_self hfb
      obtain ⟨ho', hfo⟩ := ho.respaced ho.respaced_self hfw
      have htext : textOf (opening :: operator :: itemsTokens before) ++
          (text ++ textOf (itemsTokens after ++ [closing])) ++ rest =
          opening.written ++ (operator.written ++ (textOf (itemsTokens before) ++ (text ++ left))) := by
        rw [hafter.eq_textOf, hc.eq_written]
        simp
      have hentries : (before' ++ item' :: after).mapM ItemNode.entry =
          (before ++ item :: after).mapM ItemNode.entry := by
        rw [List.mapM_append, List.mapM_append, List.mapM_cons, List.mapM_cons, mapM_entry before',
          mapM_entry before, hvs, hentry]
      rw [htext]
      refine ⟨.node opening operator (before' ++ item' :: after) closing, ?_, ?_, hfo⟩
      · exact .node ho' hw' (derivesItems_append_iff.2 ⟨_, hbefore', .cons hitem' hafter⟩) hc
      · exact ExprNode.value_congr hentries

end

/-- The text begins with the bracket that it began with. -/
theorem ExprNode.NestedText.stops {cs rest text : List Char} {e : ExprNode} (hn : ExprNode.NestedText e text)
    (h : DerivesExpr cs e rest) (hs : Stops isSpace cs) : Stops isSpace text := by
  cases hn with
  | node =>
    cases h with
    | node ho hw hi hc =>
      obtain ⟨rfl, -⟩ := (takes_char_iff rfl).1 ho
      have hnone : ([] ++ cs).takeWhile isSpace = [] := takeWhile_append_of_stops (by simp) hs
      rw [List.nil_append] at hnone
      rw [textOf_cons, Token.written, hnone]
      exact stops_cons.2 rfl

end Query

/-- Fields named like operators are nested expressions. If a text has a derivation in which some item, at any
depth, holds a value under the name of an operator, then the operator and the value may be put into brackets there
instead: what is read, or the error, stays the same. -/
theorem Expression.ofText_nested {text text' : String} {e : ExprNode} {nested before after : List Char}
    (h : Derivation (trim text.toList) e) (hn : ExprNode.NestedText e nested) (hb : ∀ c ∈ before, isBlank c)
    (ha : ∀ c ∈ after, isBlank c) (htext : text'.toList = before ++ nested ++ after) :
    trim text.toList = textOf e.tokens ∧ Expression.ofText text' = Expression.ofText text := by
  constructor
  · simpa using h.eq_textOf
  · have hstart : Stops isSpace (trim text.toList) := by
      rw [← skipSpaces_trim]
      exact stops_dropWhile isSpace _
    obtain ⟨e', h', hv, -⟩ := hn.exists_derivesExpr h
    rw [List.append_nil] at h'
    have htrim : trim text'.toList = nested := by
      rw [htext]
      exact Text.trim_append (h'.isParenthesized (hn.stops h hstart)) hb ha
    rw [← htrim] at h'
    rw [Expression.ofText_of_derivation h', Expression.ofText_of_derivation h, hv]

/-- The case of `(or plot:(and near:'a b' 'c'))`, which is read as `(or plot:(and (near 'a b') 'c'))` is. -/
theorem Expression.ofText_nested_near :
    ∃ e nested, Derivation (trim "(or plot:(and near:'a b' 'c'))".toList) e ∧ ExprNode.NestedText e nested ∧
      "\u00a0(or plot:(and (near 'a b') 'c'))\n".toList = ['\u00a0'] ++ nested ++ ['\n'] ∧
      Expression.ofText "\u00a0(or plot:(and (near 'a b') 'c'))\n" =
        Expression.ofText "(or plot:(and near:'a b' 'c'))" := by
  let near : ItemNode := .named ⟨[' '], "near".toList⟩ ⟨[], [':']⟩ (.scalar (.string ⟨[], "'a b'".toList⟩))
  let other : ItemNode := .bare (.scalar (.string ⟨[' '], "'c'".toList⟩))
  let inner : ExprNode := .node ⟨[], ['(']⟩ ⟨[], "and".toList⟩ ([] ++ near :: [other]) ⟨[], [')']⟩
  let plot : ItemNode := .named ⟨[' '], "plot".toList⟩ ⟨[], [':']⟩ (.expr inner)
  let e : ExprNode := .node ⟨[], ['(']⟩ ⟨[], "or".toList⟩ ([] ++ plot :: []) ⟨[], [')']⟩
  have hnear : DerivesItem " near:'a b' 'c'))".toList near " 'c'))".toList :=
    .named (takes_of_longest (Terminal.longest_fieldName_iff.2 rfl)) (takes_char rfl rfl)
      (.scalar (.string (takes_of_longest (Terminal.longest_string_iff.2 ⟨"a b".toList, rfl, rfl⟩))))
  have hother : DerivesItem " 'c'))".toList other "))".toList :=
    .bare (.scalar (.string (takes_of_longest (Terminal.longest_string_iff.2 ⟨"c".toList, rfl, rfl⟩))))
  have hinner : DerivesExpr "(and near:'a b' 'c'))".toList inner [')'] :=
    .node (takes_char rfl rfl) (takes_of_longest (Pattern.longest_plus_one_iff.2 rfl))
      (.cons hnear (.cons hother .nil)) (takes_char rfl rfl)
  have hplot : DerivesItem " plot:(and near:'a b' 'c'))".toList plot [')'] :=
    .named (takes_of_longest (Terminal.longest_fieldName_iff.2 rfl)) (takes_char rfl rfl) (.expr hinner)
  have h : Derivation (trim "(or plot:(and near:'a b' 'c'))".toList) e :=
    .node (takes_char rfl rfl) (takes_of_longest (Pattern.longest_plus_one_iff.2 rfl)) (.cons hplot .nil)
      (takes_char rfl rfl)
  obtain ⟨nested, hnested, htext⟩ : ∃ nested, ExprNode.NestedText e nested ∧
      "\u00a0(or plot:(and (near 'a b') 'c'))\n".toList = ['\u00a0'] ++ nested ++ ['\n'] :=
    ⟨_, .node (.named (.node (.here .near rfl))), rfl⟩
  have hbefore : ∀ c ∈ ['\u00a0'], isBlank c := List.forall_mem_singleton.2 (by decide)
  have hafter : ∀ c ∈ ['\n'], isBlank c := List.forall_mem_singleton.2 (by decide)
  exact ⟨e, nested, h, hnested, htext, (ofText_nested h hnested hbefore hafter htext).2⟩

end StructuredQuery
