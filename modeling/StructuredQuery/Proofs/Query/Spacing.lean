import StructuredQuery.Proofs.Query.Fragment

/-!
Spaces between the terminals of a query text. A terminal of several characters holds neither a space nor a round
bracket unless it is a string, so where it ends is decided before the first of these behind it; a string ends with
its quote. Terminals may therefore be set apart, and the spaces between them changed, without a change of what the
text stands for.
-/

namespace StructuredQuery

open Query Text

/-- A row that is paired with two rows in one falls into what is paired with either. -/
theorem exists_of_forall₂_append {α β : Type} {R : α → β → Prop} {as bs : List α} {cs : List β}
    (h : List.Forall₂ R (as ++ bs) cs) :
    ∃ ds es, List.Forall₂ R as ds ∧ List.Forall₂ R bs es ∧ cs = ds ++ es := by
  induction as generalizing cs with
  | nil => exact ⟨[], cs, .nil, h, rfl⟩
  | cons a as ih =>
    obtain ⟨c, cs, hc, hcs, rfl⟩ := List.forall₂_cons_left_iff.1 h
    obtain ⟨ds, es, hds, hes, rfl⟩ := ih hcs
    exact ⟨c :: ds, es, .cons hc hds, hes, rfl⟩

namespace Query

def Token.written (token : Token) : List Char := token.spaces ++ token.lexeme

def textOf (tokens : List Token) : List Char := tokens.flatMap Token.written

@[simp] theorem textOf_nil : textOf [] = [] := rfl

@[simp] theorem textOf_cons (token : Token) (tokens : List Token) :
    textOf (token :: tokens) = token.written ++ textOf tokens := rfl

@[simp] theorem textOf_append (tokens more : List Token) :
    textOf (tokens ++ more) = textOf tokens ++ textOf more :=
  List.flatMap_append

/-- The same terminal with other spaces before it. Spaces may be put where there were none, but where there
were some, some have to stay. -/
structure Token.Respaced (token token' : Token) : Prop where
  lexeme : token'.lexeme = token.lexeme
  spaces : ∀ c ∈ token'.spaces, isSpace c
  parted : token.spaces ≠ [] → token'.spaces ≠ []

theorem Token.Respaced.text {token token' : Token} (h : token.Respaced token') : token'.text = token.text := by
  rw [Token.text, Token.text, h.lexeme]

/-! ## The terminals of a derivation -/

def ScalarNode.tokens : ScalarNode → List Token
  | .number token => [token]
  | .string token => [token]

def boundTokens : Option ScalarNode → List Token
  | some s => s.tokens
  | none => []

mutual

def TermNode.tokens : TermNode → List Token
  | .scalar s => s.tokens
  | .range opening lower comma upper closing =>
    opening :: (boundTokens lower ++ comma :: (boundTokens upper ++ [closing]))
  | .expr e => e.tokens

def ItemNode.tokens : ItemNode → List Token
  | .option name equals word => [name, equals, word]
  | .named name colon value => name :: colon :: value.tokens
  | .bare value => value.tokens

def itemsTokens : List ItemNode → List Token
  | [] => []
  | item :: rest => item.tokens ++ itemsTokens rest

def ExprNode.tokens : ExprNode → List Token
  | .node opening operator items closing => opening :: operator :: (itemsTokens items ++ [closing])

end

/-- A terminal stands in the text with its spaces before it. -/
theorem Takes.eq_written {t : Terminal} {cs rest : List Char} {token : Token} (h : Takes t cs token rest) :
    cs = token.written ++ rest := by
  obtain ⟨-, left, rfl, hl⟩ := h
  rw [Token.written, List.append_assoc, ← hl.split]

/-- The front of a text is made of the terminals of its derivation. -/
theorem DerivesScalar.eq_textOf {cs rest : List Char} {s : ScalarNode} (h : DerivesScalar cs s rest) :
    cs = textOf s.tokens ++ rest := by
  cases h with
  | number h | string h => simpa [ScalarNode.tokens] using h.eq_written

theorem DerivesBound.eq_textOf {cs rest : List Char} {b : Option ScalarNode} (h : DerivesBound cs b rest) :
    cs = textOf (boundTokens b) ++ rest := by
  cases h with
  | none => rfl
  | some h => exact h.eq_textOf

mutual

/-- What a field holds stands in the text as its terminals. -/
theorem DerivesTerm.eq_textOf : ∀ {cs rest : List Char} {t : TermNode}, DerivesTerm cs t rest →
    cs = textOf t.tokens ++ rest
  | _, _, _, .scalar h => by
    rw [TermNode.tokens]
    exact h.eq_textOf
  | _, _, _, .range ho hl hc hu he => by
    rw [ho.eq_written, hl.eq_textOf, hc.eq_written, hu.eq_textOf, he.eq_written]
    simp [TermNode.tokens]
  | _, _, _, .expr h => by
    rw [TermNode.tokens]
    exact DerivesExpr.eq_textOf h

/-- An item stands in the text as its terminals. -/
theorem DerivesItem.eq_textOf : ∀ {cs rest : List Char} {i : ItemNode}, DerivesItem cs i rest →
    cs = textOf i.tokens ++ rest
  | _, _, _, .option hn he hw => by
    rw [hn.eq_written, he.eq_written, hw.eq_written]
    simp [ItemNode.tokens]
  | _, _, _, .named hn hc hv => by
    rw [hn.eq_written, hc.eq_written, DerivesTerm.eq_textOf hv]
    simp [ItemNode.tokens]
  | _, _, _, .bare hv => by
    rw [ItemNode.tokens]
    exact DerivesTerm.eq_textOf hv

/-- A row of items stands in the text as their terminals. -/
theorem DerivesItems.eq_textOf : ∀ {cs rest : List Char} {items : List ItemNode}, DerivesItems cs items rest →
    cs = textOf (itemsTokens items) ++ rest
  | _, _, _, .nil => rfl
  | _, _, _, .cons hi hr => by
    rw [DerivesItem.eq_textOf hi, DerivesItems.eq_textOf hr]
    simp [itemsTokens]

/-- The terminals of a derivation make up the text that is derived. -/
theorem DerivesExpr.eq_textOf : ∀ {cs rest : List Char} {e : ExprNode}, DerivesExpr cs e rest →
    cs = textOf e.tokens ++ rest
  | _, _, _, .node ho hw hi hc => by
    rw [ho.eq_written, hw.eq_written, DerivesItems.eq_textOf hi, hc.eq_written]
    simp [ExprNode.tokens]

end

/-! ## Where a terminal ends -/

def isMark (c : Char) : Bool := isSpace c || c = '(' || c = ')'

theorem isMark_of_isSpace {c : Char} (h : isSpace c) : isMark c := by
  simp [isMark, h]

/-- Up to its first mark the second text is the front of the first one. -/
def FollowsToMark (cs cs' : List Char) : Prop :=
  cs'.takeWhile (fun c => !isMark c) <+: cs

/-- A row without marks at the front of the second text stands at the front of the first one. -/
theorem FollowsToMark.of_prefix {cs cs' d left : List Char} (h : FollowsToMark cs cs')
    (hd : ∀ c ∈ d, isMark c = false) (hcs' : cs' = d ++ left) : d <+: cs := by
  refine List.IsPrefix.trans ?_ h
  rw [hcs', List.takeWhile_append_of_pos fun c hc => by simp [hd c hc]]
  exact List.prefix_append d _

/-- A text that begins with a mark follows every text up to there. -/
theorem followsToMark_mark {c : Char} (hc : isMark c) (cs left : List Char) : FollowsToMark cs (c :: left) := by
  rw [FollowsToMark, List.takeWhile_cons_of_neg (by simp [hc])]
  exact List.nil_prefix

/-- The same characters in front change nothing. -/
theorem FollowsToMark.append {cs cs' : List Char} (h : FollowsToMark cs cs') (front : List Char) :
    FollowsToMark (front ++ cs) (front ++ cs') := by
  rw [FollowsToMark, List.takeWhile_append]
  split
  · exact (List.prefix_append_right_inj front).2 h
  · exact (List.takeWhile_prefix _).trans (List.prefix_append front cs)

/-- Before two texts of which one follows the other, the same terminal may have other spaces before it. -/
theorem Token.Respaced.followsToMark {token token' : Token} {rest rest' : List Char}
    (h : token.Respaced token') (hr : FollowsToMark rest rest') :
    FollowsToMark (token.written ++ rest) (token'.written ++ rest') := by
  rw [Token.written, Token.written, List.append_assoc, List.append_assoc]
  cases hs : token'.spaces with
  | nil =>
    -- there were no spaces either, so both texts go on with the terminal itself
    have hnone : token.spaces = [] := by
      by_contra hne
      exact h.parted hne hs
    rw [hnone, h.lexeme, List.nil_append, List.nil_append]
    exact hr.append token.lexeme
  | cons c left =>
    -- nothing stands before the first space, so there is nothing to agree on
    have hc : isSpace c := h.spaces c (by simp [hs])
    exact followsToMark_mark (isMark_of_isSpace hc) _ _

/-- The longest match of a pattern whose matches hold no mark depends on the text up to its first mark. -/
theorem Pattern.Longest.followsToMark {a : Pattern} {lexeme rest rest' : List Char}
    (h : a.Longest (lexeme ++ rest) lexeme rest) (hm : ∀ c, isMark c → a.mentions c = false)
    (hr : FollowsToMark rest rest') : a.Longest (lexeme ++ rest') lexeme rest' := by
  refine ⟨rfl, h.spelled, fun other left hsplit hmatches => ?_⟩
  rcases List.append_eq_append_iff.1 hsplit with ⟨d, rfl, hd⟩ | ⟨d, rfl, -⟩
  · -- what a longer match would add holds no mark, so it stands in the first text as well
    have hmarks : ∀ c ∈ d, isMark c = false := by
      intro c hc
      by_contra hs
      rw [Bool.not_eq_false] at hs
      have hmentions := mentions_of_matches hmatches (List.mem_append_right lexeme hc)
      rw [hm c hs] at hmentions
      exact absurd hmentions (by decide)
    obtain ⟨left', hrest⟩ := hr.of_prefix hmarks hd
    exact h.longest (lexeme ++ d) left' (by rw [List.append_assoc, hrest]) hmatches
  · simp

/-- No terminal but strings and brackets may hold a mark. -/
theorem Terminal.mentions_mark {t : Terminal} (hs : t ≠ .string) (hl : t ≠ .leftRound) (hr : t ≠ .rightRound)
    {c : Char} (hc : isMark c) : t.pattern.mentions c = false := by
  simp only [isMark, isSpace, Bool.or_eq_true, decide_eq_true_eq] at hc
  cases t with
  | string => exact absurd rfl hs
  | leftRound => exact absurd rfl hl
  | rightRound => exact absurd rfl hr
  | _ => rcases hc with (((((rfl | rfl) | rfl) | rfl) | rfl) | rfl) | rfl <;> decide +kernel

/-- The longest match of a terminal depends on the text up to its first mark. -/
theorem Terminal.longest_followsToMark {t : Terminal} {lexeme rest rest' : List Char}
    (h : t.pattern.Longest (lexeme ++ rest) lexeme rest) (hr : FollowsToMark rest rest') :
    t.pattern.Longest (lexeme ++ rest') lexeme rest' := by
  -- the three terminals that may hold a mark end with their own last character
  by_cases hstring : t = .string
  · subst hstring
    exact string_selfDelimiting.longest h.spelled rest'
  by_cases hleft : t = .leftRound
  · subst hleft
    exact (Pattern.one_selfDelimiting _).longest h.spelled rest'
  by_cases hright : t = .rightRound
  · subst hright
    exact (Pattern.one_selfDelimiting _).longest h.spelled rest'
  exact h.followsToMark (fun c hc => mentions_mark hstring hleft hright hc) hr

/-- A terminal is taken behind other spaces if the same comes behind it up to the next mark. -/
theorem Takes.respaced {t : Terminal} {cs rest rest' : List Char} {token token' : Token}
    (h : Takes t cs token rest) (ht : token.Respaced token') (hr : FollowsToMark rest rest') :
    Takes t (token'.written ++ rest') token' rest' ∧ FollowsToMark cs (token'.written ++ rest') := by
  constructor
  · obtain ⟨-, left, -, hl⟩ := h
    have hsplit := hl.split
    subst hsplit
    refine ⟨ht.spaces, token'.lexeme ++ rest', List.append_assoc .., ?_⟩
    rw [ht.lexeme]
    exact Terminal.longest_followsToMark hl hr
  · rw [h.eq_written]
    exact ht.followsToMark hr

/-! ## Derivations of a text with other spaces -/

theorem DerivesScalar.respaced {cs rest rest' : List Char} {s : ScalarNode} {tokens' : List Token}
    (h : DerivesScalar cs s rest) (ht : List.Forall₂ Token.Respaced s.tokens tokens')
    (hr : FollowsToMark rest rest') :
    ∃ s', DerivesScalar (textOf tokens' ++ rest') s' rest' ∧ s'.value = s.value ∧
      FollowsToMark cs (textOf tokens' ++ rest') := by
  cases h with
  | number h =>
    obtain ⟨token', _, htoken, hnil, rfl⟩ := List.forall₂_cons_left_iff.1 ht
    obtain rfl := List.forall₂_nil_left_iff.1 hnil
    obtain ⟨h', hf⟩ := h.respaced htoken hr
    refine ⟨.number token', .number (by simpa using h'), ?_, by simpa using hf⟩
    rw [ScalarNode.value, ScalarNode.value, htoken.lexeme]
  | string h =>
    obtain ⟨token', _, htoken, hnil, rfl⟩ := List.forall₂_cons_left_iff.1 ht
    obtain rfl := List.forall₂_nil_left_iff.1 hnil
    obtain ⟨h', hf⟩ := h.respaced htoken hr
    refine ⟨.string token', .string (by simpa using h'), ?_, by simpa using hf⟩
    rw [ScalarNode.value, ScalarNode.value, htoken.lexeme]

theorem DerivesBound.respaced {cs rest rest' : List Char} {b : Option ScalarNode} {tokens' : List Token}
    (h : DerivesBound cs b rest) (ht : List.Forall₂ Token.Respaced (boundTokens b) tokens')
    (hr : FollowsToMark rest rest') :
    ∃ b', DerivesBound (textOf tokens' ++ rest') b' rest' ∧ boundNodeValue b' = boundNodeValue b ∧
      FollowsToMark cs (textOf tokens' ++ rest') := by
  cases h with
  | none =>
    obtain rfl := List.forall₂_nil_left_iff.1 ht
    exact ⟨Option.none, .none, rfl, hr⟩
  | some h =>
    obtain ⟨s', h', hv, hf⟩ := h.respaced ht hr
    exact ⟨Option.some s', .some h', hv, hf⟩

/-- Spaces before the brackets do not change an interval. -/
theorem intervalOf_respaced {opening opening' closing closing' : Token} (ho : opening.Respaced opening')
    (hc : closing.Respaced closing') : intervalOf opening' closing' = intervalOf opening closing := by
  funext bounds
  rw [intervalOf, intervalOf, ho.lexeme, hc.lexeme]

/-- Spaces before the name or the word do not change an option. -/
theorem optionOf_respaced {name name' word word' : Token} (hn : name.Respaced name')
    (hw : word.Respaced word') : optionOf name' word' = optionOf name word := by
  rw [optionOf, optionOf, hn.text, hw.text]

-- Each part is derived anew from its end to its front: what stands behind it decides where it ends.
mutual

/-- A respaced text derives what a field holds, with the same value. -/
theorem DerivesTerm.respaced : ∀ {cs rest rest' : List Char} {t : TermNode} {tokens' : List Token},
    DerivesTerm cs t rest → List.Forall₂ Token.Respaced t.tokens tokens' → FollowsToMark rest rest' →
    ∃ t', DerivesTerm (textOf tokens' ++ rest') t' rest' ∧ t'.value = t.value ∧
      FollowsToMark cs (textOf tokens' ++ rest')
  | _, _, _, .scalar s, _, .scalar h, ht, hr => by
    rw [TermNode.tokens] at ht
    obtain ⟨s', h', hv, hf⟩ := h.respaced ht hr
    exact ⟨.scalar s', .scalar h', by rw [TermNode.value, TermNode.value, hv], hf⟩
  | _, _, rest', .range opening lower comma upper closing, _, .range ho hl hc hu he, ht, hr => by
    rw [TermNode.tokens] at ht
    obtain ⟨opening', _, hopening, h₁, rfl⟩ := List.forall₂_cons_left_iff.1 ht
    obtain ⟨lower', _, hlower, h₂, rfl⟩ := exists_of_forall₂_append h₁
    obtain ⟨comma', _, hcomma, h₃, rfl⟩ := List.forall₂_cons_left_iff.1 h₂
    obtain ⟨upper', _, hupper, h₄, rfl⟩ := exists_of_forall₂_append h₃
    obtain ⟨closing', _, hclosing, h₅, rfl⟩ := List.forall₂_cons_left_iff.1 h₄
    obtain rfl := List.forall₂_nil_left_iff.1 h₅
    -- from the bracket that closes to the one that opens
    obtain ⟨he', hfe⟩ := he.respaced hclosing hr
    obtain ⟨u, hu', huv, hfu⟩ := hu.respaced hupper hfe
    obtain ⟨hc', hfc⟩ := hc.respaced hcomma hfu
    obtain ⟨l, hl', hlv, hfl⟩ := hl.respaced hlower hfc
    obtain ⟨ho', hfo⟩ := ho.respaced hopening hfl
    have htext : textOf (opening' :: (lower' ++ comma' :: (upper' ++ [closing']))) ++ rest' =
        opening'.written ++ (textOf lower' ++ (comma'.written ++ (textOf upper' ++
          (closing'.written ++ rest')))) := by
      simp
    rw [htext]
    refine ⟨.range opening' l comma' u closing', .range ho' hl' hc' hu' he', ?_, hfo⟩
    rw [TermNode.value, TermNode.value, hlv, huv, intervalOf_respaced hopening hclosing]
  | _, _, _, .expr e, _, .expr h, ht, hr => by
    rw [TermNode.tokens] at ht
    obtain ⟨e', h', hv, hf⟩ := DerivesExpr.respaced h ht hr
    exact ⟨.expr e', .expr h', by rw [TermNode.value, TermNode.value, hv], hf⟩

/-- A respaced text derives an item with the same value. -/
theorem DerivesItem.respaced : ∀ {cs rest rest' : List Char} {i : ItemNode} {tokens' : List Token},
    DerivesItem cs i rest → List.Forall₂ Token.Respaced i.tokens tokens' → FollowsToMark rest rest' →
    ∃ i', DerivesItem (textOf tokens' ++ rest') i' rest' ∧ i'.value = i.value ∧
      FollowsToMark cs (textOf tokens' ++ rest')
  | _, _, rest', .option name equals word, _, .option hn he hw, ht, hr => by
    rw [ItemNode.tokens] at ht
    obtain ⟨name', _, hname, h₁, rfl⟩ := List.forall₂_cons_left_iff.1 ht
    obtain ⟨equals', _, hequals, h₂, rfl⟩ := List.forall₂_cons_left_iff.1 h₁
    obtain ⟨word', _, hword, h₃, rfl⟩ := List.forall₂_cons_left_iff.1 h₂
    obtain rfl := List.forall₂_nil_left_iff.1 h₃
    -- from the last terminal to the first: each is taken anew in front of what follows it
    obtain ⟨hw', hfw⟩ := hw.respaced hword hr
    obtain ⟨he', hfe⟩ := he.respaced hequals hfw
    obtain ⟨hn', hfn⟩ := hn.respaced hname hfe
    have htext : textOf [name', equals', word'] ++ rest' =
        name'.written ++ (equals'.written ++ (word'.written ++ rest')) := by
      simp
    rw [htext]
    refine ⟨.option name' equals' word', .option hn' he' hw', ?_, hfn⟩
    rw [ItemNode.value, ItemNode.value, optionOf_respaced hname hword]
  | _, _, rest', .named name colon value, _, .named hn hc hv, ht, hr => by
    rw [ItemNode.tokens] at ht
    obtain ⟨name', _, hname, h₁, rfl⟩ := List.forall₂_cons_left_iff.1 ht
    obtain ⟨colon', value', hcolon, h₂, rfl⟩ := List.forall₂_cons_left_iff.1 h₁
    obtain ⟨v, hv', hvalue, hfv⟩ := DerivesTerm.respaced hv h₂ hr
    obtain ⟨hc', hfc⟩ := hc.respaced hcolon hfv
    obtain ⟨hn', hfn⟩ := hn.respaced hname hfc
    have htext : textOf (name' :: colon' :: value') ++ rest' =
        name'.written ++ (colon'.written ++ (textOf value' ++ rest')) := by
      simp
    rw [htext]
    refine ⟨.named name' colon' v, .named hn' hc' hv', ?_, hfn⟩
    rw [ItemNode.value, ItemNode.value, hvalue, hname.text]
  | _, _, _, .bare value, _, .bare hv, ht, hr => by
    rw [ItemNode.tokens] at ht
    obtain ⟨v, hv', hvalue, hf⟩ := DerivesTerm.respaced hv ht hr
    exact ⟨.bare v, .bare hv', by rw [ItemNode.value, ItemNode.value, hvalue], hf⟩

/-- A respaced text derives a row of items with the same values. -/
theorem DerivesItems.respaced : ∀ {cs rest rest' : List Char} {items : List ItemNode} {tokens' : List Token},
    DerivesItems cs items rest → List.Forall₂ Token.Respaced (itemsTokens items) tokens' →
    FollowsToMark rest rest' →
    ∃ items', DerivesItems (textOf tokens' ++ rest') items' rest' ∧
      itemNodeValues items' = itemNodeValues items ∧ FollowsToMark cs (textOf tokens' ++ rest')
  | _, _, _, [], _, .nil, ht, hr => by
    rw [itemsTokens] at ht
    obtain rfl := List.forall₂_nil_left_iff.1 ht
    exact ⟨[], .nil, rfl, hr⟩
  | _, _, rest', item :: items, _, .cons hi hi', ht, hr => by
    rw [itemsTokens] at ht
    obtain ⟨front, back, hfront, hback, rfl⟩ := exists_of_forall₂_append ht
    obtain ⟨items', hitems, hvs, hfs⟩ := DerivesItems.respaced hi' hback hr
    obtain ⟨item', hitem, hv, hf⟩ := DerivesItem.respaced hi hfront hfs
    rw [textOf_append, List.append_assoc]
    refine ⟨item' :: items', .cons hitem hitems, ?_, hf⟩
    rw [itemNodeValues, itemNodeValues, hv, hvs]

/-- An expression is derived with the same value when its terminals have other spaces before them, and what
stands behind it follows what stood there up to its first mark. -/
theorem DerivesExpr.respaced : ∀ {cs rest rest' : List Char} {e : ExprNode} {tokens' : List Token},
    DerivesExpr cs e rest → List.Forall₂ Token.Respaced e.tokens tokens' → FollowsToMark rest rest' →
    ∃ e', DerivesExpr (textOf tokens' ++ rest') e' rest' ∧ e'.value = e.value ∧
      FollowsToMark cs (textOf tokens' ++ rest')
  | _, _, rest', .node opening operator items closing, _, .node ho hw hi hc, ht, hr => by
    rw [ExprNode.tokens] at ht
    obtain ⟨opening', _, hopening, h₁, rfl⟩ := List.forall₂_cons_left_iff.1 ht
    obtain ⟨operator', _, hoperator, h₂, rfl⟩ := List.forall₂_cons_left_iff.1 h₁
    obtain ⟨middle, _, hmiddle, h₃, rfl⟩ := exists_of_forall₂_append h₂
    obtain ⟨closing', _, hclosing, h₄, rfl⟩ := List.forall₂_cons_left_iff.1 h₃
    obtain rfl := List.forall₂_nil_left_iff.1 h₄
    obtain ⟨hc', hfc⟩ := hc.respaced hclosing hr
    obtain ⟨items', hi', hvs, hfi⟩ := DerivesItems.respaced hi hmiddle hfc
    obtain ⟨hw', hfw⟩ := hw.respaced hoperator hfi
    obtain ⟨ho', hfo⟩ := ho.respaced hopening hfw
    have htext : textOf (opening' :: operator' :: (middle ++ [closing'])) ++ rest' =
        opening'.written ++ (operator'.written ++ (textOf middle ++ (closing'.written ++ rest'))) := by
      simp
    rw [htext]
    refine ⟨.node opening' operator' items' closing', .node ho' hw' hi' hc', ?_, hfo⟩
    rw [ExprNode.value, ExprNode.value, hvs, hoperator.text]

end

theorem Takes.respaced_self {t : Terminal} {cs rest : List Char} {token : Token} (h : Takes t cs token rest) :
    token.Respaced token := ⟨rfl, h.1, id⟩

theorem DerivesScalar.respaced_self {cs rest : List Char} {s : ScalarNode} (h : DerivesScalar cs s rest) :
    List.Forall₂ Token.Respaced s.tokens s.tokens := by
  cases h with
  | number h | string h => exact .cons h.respaced_self .nil

theorem DerivesBound.respaced_self {cs rest : List Char} {b : Option ScalarNode} (h : DerivesBound cs b rest) :
    List.Forall₂ Token.Respaced (boundTokens b) (boundTokens b) := by
  cases h with
  | none => exact .nil
  | some h => exact h.respaced_self

mutual

theorem DerivesTerm.respaced_self : ∀ {cs rest : List Char} {t : TermNode}, DerivesTerm cs t rest →
    List.Forall₂ Token.Respaced t.tokens t.tokens
  | _, _, _, .scalar h => by
    rw [TermNode.tokens]
    exact h.respaced_self
  | _, _, _, .range ho hl hc hu he => by
    rw [TermNode.tokens]
    exact .cons ho.respaced_self (List.rel_append hl.respaced_self
      (.cons hc.respaced_self (List.rel_append hu.respaced_self (.cons he.respaced_self .nil))))
  | _, _, _, .expr h => by
    rw [TermNode.tokens]
    exact DerivesExpr.respaced_self h

theorem DerivesItem.respaced_self : ∀ {cs rest : List Char} {i : ItemNode}, DerivesItem cs i rest →
    List.Forall₂ Token.Respaced i.tokens i.tokens
  | _, _, _, .option hn he hw => by
    rw [ItemNode.tokens]
    exact .cons hn.respaced_self (.cons he.respaced_self (.cons hw.respaced_self .nil))
  | _, _, _, .named hn hc hv => by
    rw [ItemNode.tokens]
    exact .cons hn.respaced_self (.cons hc.respaced_self (DerivesTerm.respaced_self hv))
  | _, _, _, .bare hv => by
    rw [ItemNode.tokens]
    exact DerivesTerm.respaced_self hv

theorem DerivesItems.respaced_self : ∀ {cs rest : List Char} {items : List ItemNode},
    DerivesItems cs items rest → List.Forall₂ Token.Respaced (itemsTokens items) (itemsTokens items)
  | _, _, _, .nil => .nil
  | _, _, _, .cons hi hr => by
    rw [itemsTokens]
    exact List.rel_append (DerivesItem.respaced_self hi) (DerivesItems.respaced_self hr)

/-- The spaces before the terminals of a derivation may stay as they are. -/
theorem DerivesExpr.respaced_self : ∀ {cs rest : List Char} {e : ExprNode}, DerivesExpr cs e rest →
    List.Forall₂ Token.Respaced e.tokens e.tokens
  | _, _, _, .node ho hw hi hc => by
    rw [ExprNode.tokens]
    exact .cons ho.respaced_self (.cons hw.respaced_self
      (List.rel_append (DerivesItems.respaced_self hi) (.cons hc.respaced_self .nil)))

end

/-- Spaces before an expression may be dropped. -/
theorem DerivesExpr.of_skipSpaces {cs rest : List Char} {e : ExprNode} (h : DerivesExpr cs e rest) :
    ∃ e', DerivesExpr (skipSpaces cs) e' rest ∧ e'.value = e.value := by
  cases h with
  | node ho hw hi hc =>
    have hskip : skipSpaces (skipSpaces cs) = skipSpaces cs :=
      dropWhile_of_stops (stops_dropWhile isSpace cs)
    have hl := ho.longest
    rw [← hskip] at hl
    exact ⟨_, .node (takes_of_longest hl) hw hi hc, by rw [ExprNode.value, ExprNode.value]⟩

end Query

/-- Blanks around a text in round brackets are all that is trimmed. -/
theorem Text.trim_append {before cs after : List Char} (h : isParenthesized cs)
    (hb : ∀ c ∈ before, isBlank c) (ha : ∀ c ∈ after, isBlank c) : trim (before ++ cs ++ after) = cs := by
  rw [isParenthesized, Bool.and_eq_true, beq_iff_eq, beq_iff_eq] at h
  obtain ⟨hfirst, hlast⟩ := h
  have hstart : Stops isBlank (cs ++ after) := by
    intro c hc
    rw [List.head?_append, hfirst] at hc
    obtain rfl : '(' = c := Option.some.inj hc
    decide
  have hend : Stops isBlank cs.reverse := by
    intro c hc
    rw [List.head?_reverse, hlast] at hc
    obtain rfl : ')' = c := Option.some.inj hc
    decide
  have hreverse : ∀ c ∈ after.reverse, isBlank c := fun c hc => ha c (List.mem_reverse.1 hc)
  rw [trim, List.append_assoc, dropWhile_append_of_stops hb hstart, trimEnd, List.reverse_append,
    dropWhile_append_of_stops hreverse hend, List.reverse_reverse]

/-- White space does not matter between terminals. If a text has a derivation, its terminals may be set apart
by spaces, the spaces between them may be changed, and blanks may be put around the whole: what is read, or
the error, stays the same. -/
theorem Expression.ofText_respaced {text text' : String} {e : ExprNode} {tokens' : List Token}
    {before after : List Char} (h : Derivation (trim text.toList) e)
    (ht : List.Forall₂ Token.Respaced e.tokens tokens') (hb : ∀ c ∈ before, isBlank c)
    (ha : ∀ c ∈ after, isBlank c) (htext : text'.toList = before ++ textOf tokens' ++ after) :
    trim text.toList = textOf e.tokens ∧ Expression.ofText text' = Expression.ofText text := by
  constructor
  · simpa using h.eq_textOf
  · obtain ⟨e₁, h₁, hv₁, -⟩ := h.respaced ht (List.prefix_refl _ : FollowsToMark [] [])
    rw [List.append_nil] at h₁
    obtain ⟨e₂, h₂, hv₂⟩ := h₁.of_skipSpaces
    -- spaces before the first terminal are blanks around the text
    have hspaces : (textOf tokens').takeWhile isSpace ++ skipSpaces (textOf tokens') = textOf tokens' :=
      List.takeWhile_append_dropWhile
    have hbefore : ∀ c ∈ before ++ (textOf tokens').takeWhile isSpace, isBlank c := by
      intro c hc
      rcases List.mem_append.1 hc with hc | hc
      · exact hb c hc
      · exact isBlank_of_isSpace (List.all_eq_true.1 List.all_takeWhile c hc)
    have hround : isParenthesized (skipSpaces (textOf tokens')) :=
      h₂.isParenthesized (stops_dropWhile isSpace (textOf tokens'))
    have htrim : trim text'.toList = skipSpaces (textOf tokens') := by
      calc trim text'.toList = trim (before ++ textOf tokens' ++ after) := by rw [htext]
        _ = trim (before ++ (textOf tokens').takeWhile isSpace ++ skipSpaces (textOf tokens') ++ after) := by
          rw [List.append_assoc before _ (skipSpaces _), hspaces]
        _ = skipSpaces (textOf tokens') := Text.trim_append hround hbefore ha
    rw [← htrim] at h₂
    rw [Expression.ofText_of_derivation h₂, Expression.ofText_of_derivation h, hv₂, hv₁]

/-- The case of a text without any space between its terminals. The space in the string stays one. -/
theorem Expression.ofText_respaced_touching :
    ∃ (e : ExprNode) (tokens' : List Token), Derivation (trim "(andX:'y z')".toList) e ∧
      List.Forall₂ Token.Respaced e.tokens tokens' ∧
      "\u00a0( and\nX\t :'y z'\r)\u3000".toList = ['\u00a0'] ++ textOf tokens' ++ ['\u3000'] ∧
      Expression.ofText "\u00a0( and\nX\t :'y z'\r)\u3000" = Expression.ofText "(andX:'y z')" := by
  let e : ExprNode := .node ⟨[], ['(']⟩ ⟨[], "and".toList⟩
    [.named ⟨[], ['X']⟩ ⟨[], [':']⟩ (.scalar (.string ⟨[], "'y z'".toList⟩))] ⟨[], [')']⟩
  let tokens' : List Token := [⟨[], ['(']⟩, ⟨[' '], "and".toList⟩, ⟨['\n'], ['X']⟩, ⟨['\t', ' '], [':']⟩,
    ⟨[], "'y z'".toList⟩, ⟨['\r'], [')']⟩]
  have hname : DerivesItem "X:'y z')".toList
      (.named ⟨[], ['X']⟩ ⟨[], [':']⟩ (.scalar (.string ⟨[], "'y z'".toList⟩))) [')'] :=
    .named (takes_of_longest (Terminal.longest_fieldName_iff.2 rfl)) (takes_char rfl rfl)
      (.scalar (.string (takes_of_longest (Terminal.longest_string_iff.2 ⟨"y z".toList, rfl, rfl⟩))))
  have h : Derivation (trim "(andX:'y z')".toList) e :=
    .node (takes_char rfl rfl) (takes_of_longest (Pattern.longest_plus_one_iff.2 rfl))
      (.cons hname .nil) (takes_char rfl rfl)
  have ht : List.Forall₂ Token.Respaced e.tokens tokens' := by
    refine .cons ?_ (.cons ?_ (.cons ?_ (.cons ?_ (.cons ?_ (.cons ?_ .nil))))) <;>
      exact ⟨rfl, List.all_eq_true.1 (by decide), by decide⟩
  have htext : "\u00a0( and\nX\t :'y z'\r)\u3000".toList = ['\u00a0'] ++ textOf tokens' ++ ['\u3000'] := rfl
  have hbefore : ∀ c ∈ ['\u00a0'], isBlank c := List.forall_mem_singleton.2 (by decide)
  have hafter : ∀ c ∈ ['\u3000'], isBlank c := List.forall_mem_singleton.2 (by decide)
  exact ⟨e, tokens', h, ht, htext, (Expression.ofText_respaced h ht hbefore hafter htext).2⟩

end StructuredQuery
