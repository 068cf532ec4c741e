import StructuredQuery.Proofs.Query.Lexing

/-!
Derivations of query texts. A derivation is a tree of the grammar with the terminals of the text at its
leaves. What may stand at a place of a text is told apart by the first character there, and an option from
a named field by what follows its name; so a text has at most one derivation.
-/

namespace StructuredQuery.Query

open Text

inductive ScalarNode
  | number (token : Token)
  | string (token : Token)

mutual

/-- `_value`: a number or string, an interval with bounds that may be missing, or an expression. -/
inductive TermNode
  | scalar (s : ScalarNode)
  | range (opening : Token) (lower : Option ScalarNode) (comma : Token) (upper : Option ScalarNode)
      (closing : Token)
  | expr (e : ExprNode)

inductive ItemNode
  | option (name equals word : Token)
  | named (name colon : Token) (value : TermNode)
  | bare (value : TermNode)

inductive ExprNode
  | node (opening operator : Token) (items : List ItemNode) (closing : Token)

end

/-- The front of a text is derived from a number or string, and the second text is left. -/
inductive DerivesScalar (cs : List Char) : ScalarNode → List Char → Prop
  | number {token : Token} {rest : List Char} (h : Takes .number cs token rest) :
      DerivesScalar cs (.number token) rest
  | string {token : Token} {rest : List Char} (h : Takes .string cs token rest) :
      DerivesScalar cs (.string token) rest

inductive DerivesBound (cs : List Char) : Option ScalarNode → List Char → Prop
  | none : DerivesBound cs none cs
  | some {s : ScalarNode} {rest : List Char} (h : DerivesScalar cs s rest) : DerivesBound cs (some s) rest

mutual

inductive DerivesTerm : List Char → TermNode → List Char → Prop
  | scalar {cs rest : List Char} {s : ScalarNode} (h : DerivesScalar cs s rest) :
      DerivesTerm cs (.scalar s) rest
  | range {cs afterOpening afterLower afterComma afterUpper rest : List Char}
      {opening comma closing : Token} {lower upper : Option ScalarNode}
      (ho : Takes .rangeOpen cs opening afterOpening) (hl : DerivesBound afterOpening lower afterLower)
      (hc : Takes .comma afterLower comma afterComma) (hu : DerivesBound afterComma upper afterUpper)
      (he : Takes .rangeClose afterUpper closing rest) :
      DerivesTerm cs (.range opening lower comma upper closing) rest
  | expr {cs rest : List Char} {e : ExprNode} (h : DerivesExpr cs e rest) : DerivesTerm cs (.expr e) rest

inductive DerivesItem : List Char → ItemNode → List Char → Prop
  | option {cs afterName afterEquals rest : List Char} {name equals word : Token}
      (hn : Takes .optionName cs name afterName) (he : Takes .equals afterName equals afterEquals)
      (hw : Takes .optionValue afterEquals word rest) : DerivesItem cs (.option name equals word) rest
  | named {cs afterName afterColon rest : List Char} {name colon : Token} {value : TermNode}
      (hn : Takes .fieldName cs name afterName) (hc : Takes .colon afterName colon afterColon)
      (hv : DerivesTerm afterColon value rest) : DerivesItem cs (.named name colon value) rest
  | bare {cs rest : List Char} {value : TermNode} (hv : DerivesTerm cs value rest) :
      DerivesItem cs (.bare value) rest

inductive DerivesItems : List Char → List ItemNode → List Char → Prop
  | nil {cs : List Char} : DerivesItems cs [] cs
  | cons {cs middle rest : List Char} {item : ItemNode} {items : List ItemNode}
      (hi : DerivesItem cs item middle) (hr : DerivesItems middle items rest) :
      DerivesItems cs (item :: items) rest

inductive DerivesExpr : List Char → ExprNode → List Char → Prop
  | node {cs afterOpening afterOperator afterItems rest : List Char} {opening operator closing : Token}
      {items : List ItemNode} (ho : Takes .leftRound cs opening afterOpening)
      (hw : Takes .operator afterOpening operator afterOperator)
      (hi : DerivesItems afterOperator items afterItems) (hc : Takes .rightRound afterItems closing rest) :
      DerivesExpr cs (.node opening operator items closing) rest

end

def Derivation (text : List Char) (e : ExprNode) : Prop :=
  DerivesExpr text e []

/-- What the first character after the spaces tells about a place of a text. -/
inductive Front
  | name
  | number
  | quote
  | interval
  | intervalEnd
  | comma
  | opening
  | closing
  | other
deriving DecidableEq

/-- The front of a terminal; only the names of options and fields have one in common. -/
def Terminal.front : Terminal → Front
  | .optionName => .name
  | .fieldName => .name
  | .number => .number
  | .string => .quote
  | .rangeOpen => .interval
  | .rangeClose => .intervalEnd
  | .comma => .comma
  | .leftRound => .opening
  | .rightRound => .closing
  | _ => .other

def frontOf (c : Char) : Front :=
  if isNameStart c then .name
  else if c = '-' ∨ isDecimalDigit c then .number
  else if c = '\'' then .quote
  else if c = '[' ∨ c = '{' then .interval
  else if c = ']' ∨ c = '}' then .intervalEnd
  else if c = ',' then .comma
  else if c = '(' then .opening
  else if c = ')' then .closing
  else .other

def frontAt (cs : List Char) : Front :=
  match skipSpaces cs with
  | [] => .other
  | c :: _ => frontOf c

theorem frontAt_of_cons {cs left : List Char} {c : Char} (h : skipSpaces cs = c :: left) :
    frontAt cs = frontOf c := by
  rw [frontAt, h]

theorem isDecimalDigit_of_isNameStart {c : Char} (h : isNameStart c) : isDecimalDigit c = false := by
  have hc : c.toNat < 128 := by
    simp only [isNameStart, Bool.or_eq_true, Bool.and_eq_true, decide_eq_true_eq] at h
    rcases h with (⟨-, h⟩ | ⟨-, h⟩) | rfl
    · exact Nat.lt_of_le_of_lt (UInt32.le_iff_toNat_le.1 h) (by decide)
    · exact Nat.lt_of_le_of_lt (UInt32.le_iff_toNat_le.1 h) (by decide)
    · decide
  exact of_ascii (p := fun c => isNameStart c → isDecimalDigit c = false) (by decide +kernel) hc h

/-- The first character of a terminal tells which kinds it may be of. -/
theorem frontOf_of_starts {t : Terminal} {c : Char} (h : t.pattern.starts c) (ht : t.front ≠ .other) :
    frontOf c = t.front := by
  cases t with
  | number =>
    rw [Terminal.starts_number, Bool.or_eq_true, decide_eq_true_eq] at h
    -- names are told apart first, and no number begins like one
    have hn : isNameStart c = false := by
      by_contra hn
      rw [Bool.not_eq_false] at hn
      rcases h with rfl | hd
      · exact absurd hn (by decide)
      · rw [isDecimalDigit_of_isNameStart hn] at hd
        exact absurd hd (by decide)
    rw [frontOf, if_neg (by simp [hn]), if_pos h]
    rfl
  | fieldName =>
    have hn : isNameStart c := by
      simpa [Terminal.pattern, Pattern.starts, Pattern.nullable] using h
    rw [frontOf, if_pos hn]
    rfl
  | optionName =>
    have hn : c = 'b' ∨ c = 'd' ∨ c = 'f' := by
      simpa [Terminal.pattern, Pattern.word, Pattern.char, Pattern.starts, Pattern.nullable] using h
    rcases hn with rfl | rfl | rfl <;> rfl
  | string =>
    rw [Terminal.starts_string, decide_eq_true_eq] at h
    subst h
    decide +kernel
  | rangeOpen | rangeClose =>
    simp only [Terminal.pattern, Pattern.starts, Bool.or_eq_true, decide_eq_true_eq] at h
    rcases h with rfl | rfl <;> decide +kernel
  | comma | leftRound | rightRound =>
    simp only [Terminal.pattern, Pattern.char, Pattern.starts, decide_eq_true_eq] at h
    subst h
    decide +kernel
  | equals | colon | operator | optionValue => exact absurd rfl ht

/-- The terminal at a place is told by the first character after the spaces. -/
theorem Takes.frontAt {t : Terminal} {cs rest : List Char} {token : Token} (h : Takes t cs token rest)
    (ht : t.front ≠ .other) : frontAt cs = t.front := by
  obtain ⟨c, left, hcs, hc⟩ := h.exists_cons
  rw [frontAt_of_cons hcs]
  exact frontOf_of_starts hc ht

def ScalarNode.front : ScalarNode → Front
  | .number _ => .number
  | .string _ => .quote

def TermNode.front : TermNode → Front
  | .scalar s => s.front
  | .range .. => .interval
  | .expr _ => .opening

theorem DerivesScalar.frontAt {cs rest : List Char} {s : ScalarNode} (h : DerivesScalar cs s rest) :
    frontAt cs = s.front := by
  cases h with
  | number h => exact h.frontAt (by decide)
  | string h => exact h.frontAt (by decide)

/-- The first character after the spaces tells what a field holds. -/
theorem DerivesTerm.frontAt {cs rest : List Char} {t : TermNode} (h : DerivesTerm cs t rest) :
    frontAt cs = t.front := by
  cases h with
  | scalar h => exact h.frontAt
  | range ho => exact ho.frontAt (by decide)
  | expr h =>
    cases h with
    | node ho => exact ho.frontAt (by decide)

theorem ScalarNode.front_cases (s : ScalarNode) : s.front = .number ∨ s.front = .quote := by
  cases s
  · exact .inl rfl
  · exact .inr rfl

/-- What a field holds begins neither like a name nor with the bracket that ends an expression. -/
theorem TermNode.front_ne (t : TermNode) : t.front ≠ .name ∧ t.front ≠ .closing := by
  cases t with
  | scalar s => rcases s.front_cases with h | h <;> simp [TermNode.front, h]
  | range => simp [TermNode.front]
  | expr => simp [TermNode.front]

def ItemNode.front : ItemNode → Front
  | .option .. => .name
  | .named .. => .name
  | .bare value => value.front

/-- The first character after the spaces tells an item. -/
theorem DerivesItem.frontAt {cs rest : List Char} {i : ItemNode} (h : DerivesItem cs i rest) :
    frontAt cs = i.front := by
  cases h with
  | option hn => exact hn.frontAt (by decide)
  | named hn => exact hn.frontAt (by decide)
  | bare hv => exact hv.frontAt

/-- No item begins with the bracket that closes an expression. -/
theorem ItemNode.front_ne_closing (i : ItemNode) : i.front ≠ .closing := by
  cases i with
  | option => simp [ItemNode.front]
  | named => simp [ItemNode.front]
  | bare value => exact value.front_ne.2

/-- A number or string at a place is derived in one way. -/
theorem DerivesScalar.unique {cs rest rest' : List Char} {s s' : ScalarNode}
    (h : DerivesScalar cs s rest) (h' : DerivesScalar cs s' rest') : s = s' ∧ rest = rest' := by
  have hfront : s.front = s'.front := h.frontAt.symm.trans h'.frontAt
  cases h with
  | number h =>
    cases h' with
    | number h' =>
      obtain ⟨rfl, hr⟩ := h.unique h'
      exact ⟨rfl, hr⟩
    | string => exact absurd hfront (by simp [ScalarNode.front])
  | string h =>
    cases h' with
    | number => exact absurd hfront (by simp [ScalarNode.front])
    | string h' =>
      obtain ⟨rfl, hr⟩ := h.unique h'
      exact ⟨rfl, hr⟩

/-- A bound is there or not as the terminal behind it stands later or at once. -/
theorem DerivesBound.unique {t : Terminal} {cs middle middle' rest rest' : List Char}
    {token token' : Token} {b b' : Option ScalarNode} (h : DerivesBound cs b middle)
    (ht : Takes t middle token rest) (h' : DerivesBound cs b' middle') (ht' : Takes t middle' token' rest')
    (ho : t.front ≠ .other) (hn : t.front ≠ .number) (hq : t.front ≠ .quote) :
    b = b' ∧ middle = middle' := by
  -- what stands behind a bound does not begin like one, so a bound is not taken where it stands
  have hdiffer {s : ScalarNode} {left left' : List Char} {last : Token} (hs : DerivesScalar cs s left)
      (ht : Takes t cs last left') : False := by
    have hfront := hs.frontAt.symm.trans (ht.frontAt ho)
    rcases s.front_cases with hf | hf
    · exact hn (hfront.symm.trans hf)
    · exact hq (hfront.symm.trans hf)
  cases h with
  | none =>
    cases h' with
    | none => exact ⟨rfl, rfl⟩
    | some hs => exact (hdiffer hs ht).elim
  | some hs =>
    cases h' with
    | none => exact (hdiffer hs ht').elim
    | some hs' =>
      obtain ⟨rfl, hr⟩ := hs.unique hs'
      exact ⟨rfl, hr⟩

/-- An option and a named field do not begin alike: its name would have to be as long as the option's, and
then be followed by an equals sign and a colon at once. -/
theorem not_option_and_named {cs afterOption afterEquals afterName afterColon : List Char}
    {option equals name colon : Token} (ho : Takes .optionName cs option afterOption)
    (he : Takes .equals afterOption equals afterEquals) (hn : Takes .fieldName cs name afterName)
    (hc : Takes .colon afterName colon afterColon) : False := by
  obtain ⟨known, hlexeme, hcs⟩ := Terminal.longest_optionName_iff.1 ho.longest
  obtain ⟨-, hequals⟩ := (takes_char_iff rfl).1 he
  obtain ⟨-, hcolon⟩ := (takes_char_iff rfl).1 hc
  have hname := Terminal.longest_fieldName_iff.1 hn.longest
  -- the equals sign ends the name of the option for either reading
  have hstop := stops_of_skipSpaces hequals (fun _ => not_isNameChar_of_isSpace) (by decide)
  rw [hcs, hlexeme, Terminal.name?_optionName known hstop, Option.some.injEq, Prod.mk.injEq] at hname
  rw [hname.2, hcolon] at hequals
  exact absurd (List.cons.inj hequals).1 (by decide)

-- Each part determines what is left of the text, which is where the next part begins.
mutual

/-- What a field holds is derived in one way. -/
theorem DerivesTerm.unique : ∀ {t t' : TermNode} {cs rest rest' : List Char}, DerivesTerm cs t rest →
    DerivesTerm cs t' rest' → t = t' ∧ rest = rest'
  | t, t', _, _, _, h, h' => by
    have hfront : t.front = t'.front := h.frontAt.symm.trans h'.frontAt
    -- the character in front tells the kinds apart, so only the same kind is left on both sides
    cases h with
    | scalar hs =>
      rename_i s
      cases h' with
      | scalar hs' =>
        obtain ⟨rfl, hr⟩ := hs.unique hs'
        exact ⟨rfl, hr⟩
      | range => rcases s.front_cases with hf | hf <;> simp [TermNode.front, hf] at hfront
      | expr => rcases s.front_cases with hf | hf <;> simp [TermNode.front, hf] at hfront
    | range ho hl hc hu he =>
      cases h' with
      | scalar =>
        rename_i s _
        rcases s.front_cases with hf | hf <;> simp [TermNode.front, hf] at hfront
      | range ho' hl' hc' hu' he' =>
        obtain ⟨rfl, rfl⟩ := ho.unique ho'
        obtain ⟨rfl, rfl⟩ := hl.unique hc hl' hc' (by decide) (by decide) (by decide)
        obtain ⟨rfl, rfl⟩ := hc.unique hc'
        obtain ⟨rfl, rfl⟩ := hu.unique he hu' he' (by decide) (by decide) (by decide)
        obtain ⟨rfl, rfl⟩ := he.unique he'
        exact ⟨rfl, rfl⟩
      | expr => simp [TermNode.front] at hfront
    | expr he =>
      cases h' with
      | scalar =>
        rename_i s _
        rcases s.front_cases with hf | hf <;> simp [TermNode.front, hf] at hfront
      | range => simp [TermNode.front] at hfront
      | expr he' =>
        obtain ⟨rfl, hr⟩ := DerivesExpr.unique he he'
        exact ⟨rfl, hr⟩

/-- An item at a place is derived in one way. -/
theorem DerivesItem.unique : ∀ {i i' : ItemNode} {cs rest rest' : List Char}, DerivesItem cs i rest →
    DerivesItem cs i' rest' → i = i' ∧ rest = rest'
  -- options and named fields begin alike; what stands behind the name tells them apart
  | _, _, _, _, _, .option hn he hw, h' => by
    cases h' with
    | option hn' he' hw' =>
      obtain ⟨rfl, rfl⟩ := hn.unique hn'
      obtain ⟨rfl, rfl⟩ := he.unique he'
      obtain ⟨rfl, rfl⟩ := hw.unique hw'
      exact ⟨rfl, rfl⟩
    | named hn' hc' => exact (not_option_and_named hn he hn' hc').elim
    | bare hv' =>
      have hfront := (hn.frontAt (by decide)).symm.trans hv'.frontAt
      exact absurd hfront.symm (TermNode.front_ne _).1
  | _, _, _, _, _, .named hn hc hv, h' => by
    cases h' with
    | option hn' he' => exact (not_option_and_named hn' he' hn hc).elim
    | named hn' hc' hv' =>
      obtain ⟨rfl, rfl⟩ := hn.unique hn'
      obtain ⟨rfl, rfl⟩ := hc.unique hc'
      obtain ⟨rfl, rfl⟩ := DerivesTerm.unique hv hv'
      exact ⟨rfl, rfl⟩
    | bare hv' =>
      have hfront := (hn.frontAt (by decide)).symm.trans hv'.frontAt
      exact absurd hfront.symm (TermNode.front_ne _).1
  | _, _, _, _, _, .bare hv, h' => by
    cases h' with
    | option hn' =>
      have hfront := (hn'.frontAt (by decide)).symm.trans hv.frontAt
      exact absurd hfront.symm (TermNode.front_ne _).1
    | named hn' =>
      have hfront := (hn'.frontAt (by decide)).symm.trans hv.frontAt
      exact absurd hfront.symm (TermNode.front_ne _).1
    | bare hv' =>
      obtain ⟨rfl, rfl⟩ := DerivesTerm.unique hv hv'
      exact ⟨rfl, rfl⟩

/-- A row of items is derived in one way, up to the bracket behind it. -/
theorem DerivesItems.unique : ∀ {is is' : List ItemNode} {cs middle middle' rest rest' : List Char}
    {closing closing' : Token}, DerivesItems cs is middle → Takes .rightRound middle closing rest →
    DerivesItems cs is' middle' → Takes .rightRound middle' closing' rest' → is = is' ∧ middle = middle'
  | _, _, _, _, _, _, _, _, _, .nil, ht, h', _ => by
    cases h' with
    | nil => exact ⟨rfl, rfl⟩
    | cons hi' =>
      have hfront := (ht.frontAt (by decide)).symm.trans hi'.frontAt
      exact absurd hfront.symm (ItemNode.front_ne_closing _)
  | _, _, _, _, _, _, _, _, _, .cons hi hr, ht, h', ht' => by
    cases h' with
    | nil =>
      have hfront := (ht'.frontAt (by decide)).symm.trans hi.frontAt
      exact absurd hfront.symm (ItemNode.front_ne_closing _)
    | cons hi' hr' =>
      obtain ⟨rfl, rfl⟩ := DerivesItem.unique hi hi'
      obtain ⟨rfl, rfl⟩ := DerivesItems.unique hr ht hr' ht'
      exact ⟨rfl, rfl⟩

/-- An expression at a place is derived in one way. -/
theorem DerivesExpr.unique : ∀ {e e' : ExprNode} {cs rest rest' : List Char}, DerivesExpr cs e rest →
    DerivesExpr cs e' rest' → e = e' ∧ rest = rest'
  | _, _, _, _, _, .node ho hw hi hc, h' => by
    cases h' with
    | node ho' hw' hi' hc' =>
      obtain ⟨rfl, rfl⟩ := ho.unique ho'
      obtain ⟨rfl, rfl⟩ := hw.unique hw'
      obtain ⟨rfl, rfl⟩ := DerivesItems.unique hi hc hi' hc'
      obtain ⟨rfl, rfl⟩ := hc.unique hc'
      exact ⟨rfl, rfl⟩

end

end StructuredQuery.Query
