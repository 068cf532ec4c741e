import StructuredQuery.Proofs.Query.Verbatim

/-!
Texts that stand for what they write. A text that is derived from an expression or an interval begins and
ends with a bracket, and that is enough for it to be taken over into a query as it is. There it is derived
again whatever comes behind it, so the query is read as if it had been made of the values of such texts.
-/

namespace StructuredQuery

open Query Text

namespace Query

/-! ## What is left of a text -/

/-- What a terminal leaves is the end of the text. -/
theorem Takes.suffix {t : Terminal} {cs rest : List Char} {token : Token} (h : Takes t cs token rest) :
    rest <:+ cs := by
  obtain ⟨-, left, rfl, hl⟩ := h
  rw [hl.split, ← List.append_assoc]
  exact List.suffix_append _ rest

/-- A scalar leaves the end of the text. -/
theorem DerivesScalar.suffix {cs rest : List Char} {s : ScalarNode} (h : DerivesScalar cs s rest) :
    rest <:+ cs := by
  cases h with
  | number h => exact h.suffix
  | string h => exact h.suffix

theorem DerivesBound.suffix {cs rest : List Char} {b : Option ScalarNode} (h : DerivesBound cs b rest) :
    rest <:+ cs := by
  cases h with
  | none => exact List.suffix_refl cs
  | some h => exact h.suffix

mutual

/-- What a field holds leaves the end of the text. -/
theorem DerivesTerm.suffix : ∀ {cs rest : List Char} {node : TermNode}, DerivesTerm cs node rest → rest <:+ cs
  | _, _, _, .scalar h => h.suffix
  | _, _, _, .range ho hl hc hu he =>
    he.suffix.trans (hu.suffix.trans (hc.suffix.trans (hl.suffix.trans ho.suffix)))
  | _, _, _, .expr h => DerivesExpr.suffix h

/-- An item leaves the end of the text. -/
theorem DerivesItem.suffix : ∀ {cs rest : List Char} {node : ItemNode}, DerivesItem cs node rest → rest <:+ cs
  | _, _, _, .option hn he hw => hw.suffix.trans (he.suffix.trans hn.suffix)
  | _, _, _, .named hn hc hv => (DerivesTerm.suffix hv).trans (hc.suffix.trans hn.suffix)
  | _, _, _, .bare hv => DerivesTerm.suffix hv

/-- A row of items leaves the end of the text. -/
theorem DerivesItems.suffix : ∀ {cs rest : List Char} {nodes : List ItemNode}, DerivesItems cs nodes rest →
    rest <:+ cs
  | _, _, _, .nil => List.suffix_refl _
  | _, _, _, .cons hi hr => (DerivesItems.suffix hr).trans (DerivesItem.suffix hi)

/-- An expression leaves the end of the text. -/
theorem DerivesExpr.suffix : ∀ {cs rest : List Char} {node : ExprNode}, DerivesExpr cs node rest → rest <:+ cs
  | _, _, _, .node ho hw hi hc =>
    hc.suffix.trans ((DerivesItems.suffix hi).trans (hw.suffix.trans ho.suffix))

end

theorem mem_of_takes_char {t : Terminal} {c : Char} (ht : t.pattern = .char c) {cs rest : List Char}
    {token : Token} (h : Takes t cs token rest) : c ∈ cs := by
  obtain ⟨-, hcs⟩ := (takes_char_iff ht).1 h
  have hs : skipSpaces cs <:+ cs := List.dropWhile_suffix _
  exact hs.subset (by simp [hcs])

/-! ## Derivations in a longer text -/

/-- A terminal is taken from a longer text if its longest match stays the same. -/
theorem Takes.append {t : Terminal} {cs rest : List Char} {token : Token} {more : List Char}
    (h : Takes t cs token rest)
    (hl : ∀ left, t.pattern.Longest left token.lexeme rest →
      t.pattern.Longest (left ++ more) token.lexeme (rest ++ more)) :
    Takes t (cs ++ more) token (rest ++ more) := by
  obtain ⟨hs, left, rfl, hleft⟩ := h
  exact ⟨hs, left ++ more, List.append_assoc .., hl left hleft⟩

/-- A terminal ends where it did if a character that it cannot hold stands behind it. -/
theorem Takes.append_of_mentions {t : Terminal} {cs rest : List Char} {token : Token} {c : Char}
    (h : Takes t cs token rest) (hc : c ∈ rest) (hm : t.pattern.mentions c = false) (more : List Char) :
    Takes t (cs ++ more) token (rest ++ more) :=
  h.append fun _ hl => hl.append_of_mentions hc hm more

/-- What delimits itself is taken whatever is added at the end. -/
theorem Takes.append_of_selfDelimiting {t : Terminal} {cs rest : List Char} {token : Token}
    (h : Takes t cs token rest) (ht : t.pattern.SelfDelimiting) (more : List Char) :
    Takes t (cs ++ more) token (rest ++ more) := by
  apply h.append
  intro left hl
  rw [hl.split, List.append_assoc]
  exact ht.longest hl.spelled (rest ++ more)

theorem Takes.append_one {t : Terminal} {p : Char → Bool} (ht : t.pattern = .one p) {cs rest : List Char}
    {token : Token} (h : Takes t cs token rest) (more : List Char) :
    Takes t (cs ++ more) token (rest ++ more) :=
  h.append_of_selfDelimiting (ht ▸ Pattern.one_selfDelimiting p) more

/-- A scalar is not lengthened if a character follows that no number holds. -/
theorem DerivesScalar.append {cs rest : List Char} {s : ScalarNode} {c : Char} (h : DerivesScalar cs s rest)
    (hc : c ∈ rest) (hm : Terminal.number.pattern.mentions c = false) (more : List Char) :
    DerivesScalar (cs ++ more) s (rest ++ more) := by
  cases h with
  | number h => exact .number (h.append_of_mentions hc hm more)
  | string h => exact .string (h.append_of_selfDelimiting Terminal.string_selfDelimiting more)

theorem DerivesBound.append {cs rest : List Char} {b : Option ScalarNode} {c : Char}
    (h : DerivesBound cs b rest) (hc : c ∈ rest) (hm : Terminal.number.pattern.mentions c = false)
    (more : List Char) : DerivesBound (cs ++ more) b (rest ++ more) := by
  cases h with
  | none => exact .none
  | some h => exact .some (h.append hc hm more)

/-- The comma ends the lower bound of an interval and the bracket that closes it the upper one. -/
theorem DerivesTerm.append_range {cs rest : List Char} {opening comma closing : Token}
    {lower upper : Option ScalarNode} (h : DerivesTerm cs (.range opening lower comma upper closing) rest)
    (more : List Char) :
    DerivesTerm (cs ++ more) (.range opening lower comma upper closing) (rest ++ more) := by
  cases h with
  | range ho hl hc hu he =>
    have hcomma := mem_of_takes_char rfl hc
    obtain ⟨c, hbracket, -, hclosing⟩ := (takes_one_iff rfl).1 he
    have hmem : c ∈ _ := (List.dropWhile_suffix isSpace).subset (hclosing ▸ List.mem_cons_self)
    have hm : Terminal.number.pattern.mentions c = false := by
      rw [Bool.or_eq_true, decide_eq_true_eq, decide_eq_true_eq] at hbracket
      rcases hbracket with rfl | rfl <;> decide +kernel
    exact .range (ho.append_one rfl more) (hl.append hcomma (by decide +kernel) more)
      (hc.append_one rfl more) (hu.append hmem hm more) (he.append_one rfl more)

-- What stands in an expression is ended by the round bracket behind it at the latest, which only a string
-- may hold.
mutual

/-- What is added behind the closing bracket changes nothing of what a field holds. -/
theorem DerivesTerm.append : ∀ {cs rest : List Char} {node : TermNode}, DerivesTerm cs node rest → ')' ∈ rest →
    ∀ more, DerivesTerm (cs ++ more) node (rest ++ more)
  | _, _, _, .scalar h, hround, more => .scalar (h.append hround (by decide +kernel) more)
  | _, _, _, .range ho hl hc hu he, _, more => (DerivesTerm.range ho hl hc hu he).append_range more
  | _, _, _, .expr h, _, more => .expr (DerivesExpr.append h more)

/-- What is added behind the closing bracket changes nothing of an item. -/
theorem DerivesItem.append : ∀ {cs rest : List Char} {node : ItemNode}, DerivesItem cs node rest → ')' ∈ rest →
    ∀ more, DerivesItem (cs ++ more) node (rest ++ more)
  | _, _, _, .option hn he hw, hround, more =>
    have hword := hw.suffix.subset hround
    .option (hn.append_of_mentions (he.suffix.subset hword) (by decide +kernel) more)
      (he.append_one rfl more) (hw.append_of_mentions hround (by decide +kernel) more)
  | _, _, _, .named hn hc hv, hround, more =>
    have hvalue := (DerivesTerm.suffix hv).subset hround
    .named (hn.append_of_mentions (hc.suffix.subset hvalue) (by decide +kernel) more)
      (hc.append_one rfl more) (DerivesTerm.append hv hround more)
  | _, _, _, .bare hv, hround, more => .bare (DerivesTerm.append hv hround more)

/-- What is added behind the closing bracket changes nothing of a row of items. -/
theorem DerivesItems.append : ∀ {cs rest : List Char} {nodes : List ItemNode}, DerivesItems cs nodes rest →
    ')' ∈ rest → ∀ more, DerivesItems (cs ++ more) nodes (rest ++ more)
  | _, _, _, .nil, _, _ => .nil
  | _, _, _, .cons hi hr, hround, more =>
    .cons (DerivesItem.append hi ((DerivesItems.suffix hr).subset hround) more)
      (DerivesItems.append hr hround more)

/-- Whatever is added behind an expression, it is derived as before. -/
theorem DerivesExpr.append : ∀ {cs rest : List Char} {node : ExprNode}, DerivesExpr cs node rest →
    ∀ more, DerivesExpr (cs ++ more) node (rest ++ more)
  | _, _, _, .node ho hw hi hc, more =>
    have hround := mem_of_takes_char rfl hc
    .node (ho.append_one rfl more)
      (hw.append_of_mentions ((DerivesItems.suffix hi).subset hround) (by decide +kernel) more)
      (DerivesItems.append hi hround more) (hc.append_one rfl more)

end

/-- What is derived is read, with the value of its derivation. -/
theorem DerivesTerm.exists_term?_value {cs rest : List Char} {node : TermNode} (h : DerivesTerm cs node rest) :
    ∃ term, term? (skipSpaces cs) = some (term, rest) ∧ term.value = node.value := by
  obtain ⟨term, ht⟩ := h.exists_term?
  obtain ⟨node', hd, hv⟩ := exists_derivesTerm ht
  obtain ⟨rfl, -⟩ := h.unique hd
  exact ⟨term, ht, hv.symm⟩

/-! ## Fragments -/

/-- A text that is derived as a whole from an expression or an interval, with no space in front of it, and
the value that it has. What is derived ends with a bracket, so there is no space behind it either. -/
inductive Fragment (t : List Char) : Value → Prop
  | expression {node : ExprNode} {e : Expression} (hs : Stops isSpace t) (h : Derivation t node)
      (hv : node.value = .ok e) : Fragment t (.expression e)
  | interval {opening comma closing : Token} {lower upper : Option ScalarNode} {v : Value}
      (hs : Stops isSpace t) (h : DerivesTerm t (.range opening lower comma upper closing) [])
      (hv : (TermNode.range opening lower comma upper closing).value = .ok v) : Fragment t v

/-- The last terminal of a text is its last character. -/
theorem exists_of_takes_last {t : Terminal} {p : Char → Bool} (ht : t.pattern = .one p) {cs middle : List Char}
    {token : Token} (hs : middle <:+ cs) (h : Takes t middle token []) : ∃ c, p c ∧ cs.getLast? = some c := by
  obtain ⟨c, hc, -, hcs⟩ := (takes_one_iff ht).1 h
  have hskip : skipSpaces middle <:+ middle := List.dropWhile_suffix _
  rw [hcs] at hskip
  obtain ⟨before, rfl⟩ := hskip.trans hs
  exact ⟨c, hc, List.getLast?_concat⟩

/-- The first terminal of a text without spaces before it is its first character. -/
theorem exists_of_takes_first {t : Terminal} {p : Char → Bool} (ht : t.pattern = .one p) {cs rest : List Char}
    {token : Token} (hs : Stops isSpace cs) (h : Takes t cs token rest) :
    ∃ c, p c ∧ cs = c :: rest := by
  obtain ⟨c, hc, -, hcs⟩ := (takes_one_iff ht).1 h
  rw [skipSpaces, dropWhile_of_stops hs] at hcs
  exact ⟨c, hc, hcs⟩

/-- A text that begins and ends with brackets and holds a comma looks like an interval. -/
theorem isRangeText_of_comma {c d : Char} {left : List Char} (hc : c = '[' ∨ c = '{') (hd : d = ']' ∨ d = '}')
    (hlast : (c :: left).getLast? = some d) (hcomma : ',' ∈ left) : isRangeText (c :: left) := by
  have hne : c ≠ ',' := by rcases hc with rfl | rfl <;> decide
  have hsplit : left.takeWhile (· ≠ ',') ++ left.dropWhile (· ≠ ',') = left := List.takeWhile_append_dropWhile
  have hstop := stops_dropWhile (· ≠ ',') left
  unfold isRangeText
  rw [List.takeWhile_cons_of_pos (by simpa using hne), List.dropWhile_cons_of_pos (by simpa using hne)]
  cases hdrop : left.dropWhile (· ≠ ',') with
  | nil =>
    -- nothing is left only if there is no comma
    rw [hdrop, List.append_nil] at hsplit
    have hall := List.all_eq_true.1 (List.all_takeWhile (p := (· ≠ ',')) (l := left)) ',' (by rwa [hsplit])
    simp at hall
  | cons comma high =>
    rw [hdrop] at hsplit hstop
    have hends : high.getLast? = some d := by
      rw [← hsplit, ← List.cons_append, List.getLast?_append_cons] at hlast
      cases high with
      | nil =>
        obtain rfl : comma = d := by simpa using hlast
        have hcomma := stops_cons.1 hstop
        rcases hd with rfl | rfl <;> simp at hcomma
      | cons => rwa [List.getLast?_cons_cons] at hlast
    rcases hc with rfl | rfl <;> rcases hd with rfl | rfl <;> simp [hends]

/-- A derived interval looks like one. -/
theorem DerivesTerm.isRangeText {t : List Char} {opening comma closing : Token}
    {lower upper : Option ScalarNode} (hs : Stops isSpace t)
    (h : DerivesTerm t (.range opening lower comma upper closing) []) : isRangeText t := by
  cases h with
  | range ho hl hc hu he =>
    have hcomma := hl.suffix.subset (mem_of_takes_char rfl hc)
    have hclosing := hu.suffix.trans (hc.suffix.trans (hl.suffix.trans ho.suffix))
    obtain ⟨d, hd, hlast⟩ := exists_of_takes_last rfl hclosing he
    obtain ⟨c, hc, rfl⟩ := exists_of_takes_first rfl hs ho
    exact isRangeText_of_comma (by simpa using hc) (by simpa using hd) hlast hcomma

/-- A derived expression is enclosed in round brackets. -/
theorem DerivesExpr.isParenthesized {t : List Char} {node : ExprNode} (hs : Stops isSpace t)
    (h : DerivesExpr t node []) : isParenthesized t := by
  cases h with
  | node ho hw hi hc =>
    have hsuffix := (DerivesItems.suffix hi).trans (hw.suffix.trans ho.suffix)
    obtain ⟨d, hd, hlast⟩ := exists_of_takes_last rfl hsuffix hc
    obtain ⟨c, hc, rfl⟩ := exists_of_takes_first rfl hs ho
    obtain rfl : c = '(' := by simpa using hc
    obtain rfl : d = ')' := by simpa using hd
    simp [Text.isParenthesized, hlast]

/-- The text of a fragment is taken over as it is. -/
theorem Fragment.isOpaque {t : List Char} {v : Value} (h : Fragment t v) : isOpaque t := by
  rw [Text.isOpaque, Bool.or_eq_true]
  cases h with
  | expression hs h => exact .inl (DerivesExpr.isParenthesized hs h)
  | interval hs h => exact .inr (h.isRangeText hs)

/-- A fragment is derived again in front of anything else. -/
theorem Fragment.exists_derivesTerm {t : List Char} {v : Value} (h : Fragment t v) :
    ∃ node, node.value = .ok v ∧ ∀ more, DerivesTerm (t ++ more) node more := by
  cases h with
  | @expression node e _ h hv =>
    refine ⟨.expr node, ?_, fun more => .expr (DerivesExpr.append h more)⟩
    rw [TermNode.value, hv]
    rfl
  | interval _ h hv => exact ⟨_, hv, h.append_range⟩

/-- Where a fragment stands it is read as its value. -/
theorem Fragment.exists_term? {t : List Char} {v : Value} (h : Fragment t v) (rest : List Char) :
    ∃ term, term? (t ++ rest) = some (term, rest) ∧ term.value = .ok v := by
  obtain ⟨c, left, rfl, hc⟩ := exists_opener_of_isOpaque h.isOpaque
  obtain ⟨node, hv, hd⟩ := h.exists_derivesTerm
  obtain ⟨term, ht, hvalue⟩ := (hd rest).exists_term?_value
  obtain ⟨-, -, hother⟩ := hc.front
  rw [List.cons_append, skipSpaces_of_front hother] at ht
  exact ⟨term, ht, hvalue.trans hv⟩

/-- The text of a fragment reads as its value. -/
theorem Fragment.readsTerm {t : List Char} {v : Value} (h : Fragment t v) : ReadsTerm t v := by
  obtain ⟨c, left, rfl, hc⟩ := exists_opener_of_isOpaque h.isOpaque
  exact ⟨⟨c, left, rfl, hc.front⟩, fun rest _ => h.exists_term? rest⟩

theorem Fragment.isStructured {t : List Char} {v : Value} (h : Fragment t v) : v.IsStructured := by
  obtain ⟨c, left, rfl, hc⟩ := exists_opener_of_isOpaque h.isOpaque
  obtain ⟨term, ht, hv⟩ := h.exists_term? []
  exact structured_of_term? hc ht hv

end Query

/-! ## Expressions of fragments -/

/-- The rules of an operator are obeyed by fragments if their values obey them: no value is a text, and where
intervals are asked for a text may stand that looks like one. -/
theorem Expression.checkFields_of_fragment {operator : Operator} {ts : List String} {vs : List Value}
    (ht : List.Forall₂ (fun t v => Fragment t.toList v) ts vs)
    (h : checkFields operator (vs.map fun v => ⟨v, none⟩) = .ok ()) :
    checkFields operator (ts.map fun t => ⟨.text t, none⟩) = .ok () := by
  cases ht with
  | nil => exact h
  | @cons t v ts vs hfirst hothers =>
    have hempty : (ts.map fun t => (⟨.text t, none⟩ : FieldValue)).isEmpty =
        (vs.map fun v => (⟨v, none⟩ : FieldValue)).isEmpty := by
      cases hothers <;> rfl
    have hnone : v.text? = none := by
      rcases hfirst.isStructured with ⟨r, rfl⟩ | ⟨e, rfl⟩ <;> rfl
    rw [List.map_cons] at h ⊢
    unfold checkFields at h ⊢
    dsimp only at h ⊢
    rw [hempty]
    split at h
    · cases h
    · next hsingle =>
      rw [if_neg hsingle]
      cases operator with
      | and | or | not | term => rfl
      -- these ask for a text, which no fragment has for its value
      | near | phrase | beginning =>
        rw [hnone] at h
        cases h
      | range =>
        cases hfirst with
        | expression => cases h
        | interval hs hd => simp [Value.text?, hd.isRangeText hs]

/-- Texts that are taken over are written without quotes or escapes. -/
theorem writtenFields_of_isOpaque {ts : List String} (h : ∀ t ∈ ts, isOpaque t.toList) :
    writtenFields (ts.map fun t => ⟨.text t, none⟩) = .ok (ts.map String.toList) := by
  induction ts with
  | nil => rfl
  | cons t ts ih =>
    have ht : FieldValue.written ⟨.text t, none⟩ = .ok t.toList := by
      simp [FieldValue.written, writeContent, Value.isNumber, Value.text?, h t List.mem_cons_self, Except.map,
        writeNamed]
    rw [List.map_cons, writtenFields, ht, ih fun t ht => h t (List.mem_cons_of_mem _ ht)]
    rfl

/-- Fragments are matched as their values are. -/
theorem Value.conditions_of_fragment {ts : List String} {vs : List Value}
    (ht : List.Forall₂ (fun t v => Fragment t.toList v) ts vs) :
    (Value.list vs).conditions = (vs.map fun v => ⟨v, none⟩).map Expression.ofField := by
  rw [Value.conditions_list, List.map_map]
  induction ht with
  | nil => rfl
  | cons hfirst _ ih =>
    rw [List.map_cons, List.map_cons, ih]
    rcases hfirst.isStructured with ⟨r, rfl⟩ | ⟨e, rfl⟩ <;> rfl

/-- A query of fragments is read as the expression of their values. -/
theorem Expression.ofText_of_fragments {operator : Value} {ts : List String} {vs : List Value} {e : Expression}
    (ht : List.Forall₂ (fun t v => Fragment t.toList v) ts vs)
    (he : Expression.new operator (.list vs) = .ok e) :
    ∃ q text, Expression.new operator (.list (ts.map .text)) = .ok q ∧ q.render = .ok text ∧
      Expression.ofText text = .ok e ∧ e.equal e = .ok true := by
  cases ho : operator.operator? with
  | none =>
    simp only [Expression.new, ho] at he
    cases hname : operator.asText <;> rw [hname] at he <;> cases he
  | some known =>
    have hvalues : Expression.new (.text known.text) (.list vs) = .ok e := by
      rw [Expression.new, ho] at he
      rw [Expression.new, Value.operator?, Value.text?, Option.bind_some, Operator.ofText?_text]
      exact he
    have htexts : (Value.list (ts.map .text)).conditions =
        (ts.map fun t => ⟨.text t, none⟩).map Expression.ofField := by
      rw [Value.conditions_list, List.map_map, List.map_map]
      rfl
    rw [Expression.new, ho, Value.conditions_of_fragment ht] at he
    have hnone : ∀ o ∈ ([] : List OperatorOption), o.name ∈ known.accepted := by simp
    obtain ⟨hrules, -⟩ := ofConditions_parts_eq_ok hnone he
    have hopaque : ∀ t ∈ ts, isOpaque t.toList :=
      ((List.forall₂_and_left ts vs).1 (ht.imp fun _ _ h => ⟨h.isOpaque, h⟩)).1
    have hwritten : Expression.written ⟨known, [], ts.map fun t => ⟨.text t, none⟩⟩ =
        .ok ('(' :: (joinWords (known.text.toList :: ts.map String.toList) ++ [')'])) := by
      rw [Expression.written, writtenFields_of_isOpaque hopaque]
      rfl
    have hreads : List.Forall₂ ReadsItem (ts.map String.toList) vs :=
      List.forall₂_map_left_iff.2 (ht.imp fun _ _ h => h.readsTerm.item)
    -- the query is the row of the fragments, each of which is read with its value
    have hread := (readsTree_of_readsItem hreads hvalues).ofText (trim_bracketed _)
    refine ⟨⟨known, [], ts.map fun t => ⟨.text t, none⟩⟩, _, ?_, ?_, hread,
      (readable_of_ofText hread).equal_self⟩
    · rw [Expression.new, ho, htexts]
      exact ofConditions_parts hnone (checkFields_of_fragment ht hrules)
    · rw [Expression.render, hwritten]
      rfl

/-- The case of an interval whose bound holds its own brackets and commas, and of an expression whose text
holds a bracket that it does not end with. -/
theorem Expression.ofText_of_fragments_brackets :
    let interval := "[ 'a],b' , \x7d"
    let expression := "( not 'x)' )"
    let e : Expression := ⟨.or, [], [⟨.range ⟨.text "a],b", true, .null, false⟩, none⟩,
      ⟨.expression ⟨.not, [], [⟨.text "x)", none⟩]⟩, none⟩]⟩
    ∃ vs, List.Forall₂ (fun t v => Fragment t.toList v) [interval, expression] vs ∧
      Expression.new (.text "or") (.list vs) = .ok e ∧
      ∃ q text, Expression.new (.text "or") (.list ([interval, expression].map .text)) = .ok q ∧
        q.render = .ok text ∧ Expression.ofText text = .ok e ∧ e.equal e = .ok true := by
  intro interval expression e
  have hstart : Stops isSpace interval.toList ∧ Stops isSpace expression.toList := by
    have hsquare : interval.toList = '[' :: " 'a],b' , \x7d".toList := by decide
    have hround : expression.toList = '(' :: " not 'x)' )".toList := by decide
    rw [hsquare, hround]
    exact ⟨stops_cons.2 rfl, stops_cons.2 rfl⟩
  have hinterval : Fragment interval.toList (.range ⟨.text "a],b", true, .null, false⟩) := by
    have hterm : term? (skipSpaces "[ 'a],b' , \x7d".toList) =
        some (.range true (some (.text "a],b".toList)) none false, []) := by
      cbv
    obtain ⟨node, hd, hv⟩ := exists_derivesTerm hterm
    have hfront : node.front = .interval := hd.frontAt.symm.trans (by decide +kernel)
    cases node with
    | scalar s => rcases s.front_cases with hs | hs <;> simp [TermNode.front, hs] at hfront
    | expr => simp [TermNode.front] at hfront
    | range => exact .interval hstart.1 hd (hv.trans rfl)
  have hexpression : Fragment expression.toList (.expression ⟨.not, [], [⟨.text "x)", none⟩]⟩) := by
    have htree : Tree.ofText? "( not 'x)' )".toList =
        some (.node "not".toList [.field none (.scalar (.text "x)".toList))]) := by
      cbv
    obtain ⟨node, hd, hv⟩ := exists_derivation (by decide) htree
    exact .expression hstart.2 hd (hv.trans rfl)
  have hnew : Expression.new (.text "or") (.list [.range ⟨.text "a],b", true, .null, false⟩,
      .expression ⟨.not, [], [⟨.text "x)", none⟩]⟩]) = .ok e := by
    rfl
  have hrow : List.Forall₂ (fun t v => Fragment t.toList v) [interval, expression] [_, _] :=
    .cons hinterval (.cons hexpression .nil)
  exact ⟨_, hrow, hnew, ofText_of_fragments hrow hnew⟩

end StructuredQuery
