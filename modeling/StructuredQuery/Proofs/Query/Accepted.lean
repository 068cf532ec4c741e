import StructuredQuery.Proofs.Expression.Reading
import StructuredQuery.Proofs.Expression.Validity
import StructuredQuery.Proofs.Query.RoundTrip

/-!
What texts stand for. The numbers and strings of a text are integers up to the limit of digits, floats and
texts, and what is made of them is an expression that can be spelled, and is spelled as it is, unless a
string is taken over as it stands.
-/

namespace StructuredQuery

open Query Text

/-- What a number, a string or nothing in the place of a bound stands for. -/
inductive Value.FromScalar : Value → Prop
  | null : FromScalar .null
  | text (s : String) : FromScalar (.text s)
  | int {n : Int} (h : (digitsOfNat n.natAbs).length ≤ Integer.digitLimit) : FromScalar (.int n)
  | float (x : Binary64) : FromScalar (.float x)

inductive Value.Readable : Value → Prop
  | text (s : String) : Readable (.text s)
  | int {n : Int} (h : (digitsOfNat n.natAbs).length ≤ Integer.digitLimit) : Readable (.int n)
  | float {x : Binary64} (h : x.isFinite) : Readable (.float x)
  | interval {r : Interval} (h : r.Plain) (hs : r.spelled = r) : Readable (.range r)
  | expression (e : Expression) : Readable (.expression e)

structure FieldValue.Readable (f : FieldValue) : Prop where
  name : ∀ n, f.name = some n → Terminal.fieldName.pattern.Matches n.toList ∧ Operator.ofText? n = none
  value : f.value.Readable

/-- An expression as a text gives it, as far as its own options and fields go. -/
structure Expression.Readable (e : Expression) : Prop where
  rules : checkFields e.operator e.fields = .ok ()
  options : ∀ o ∈ e.options, o.name ∈ e.operator.accepted ∧ o.Valid
  fields : ∀ f ∈ e.fields, f.Readable

/-- No text that a field of the expression holds is taken over into a query as it is. -/
def Expression.Quotes (e : Expression) : Prop :=
  ∀ f ∈ e.fields, ∀ s, f.value.text? = some s → isOpaque s.toList = false

/-- What is read is plain, unless it is a text that is taken over as it is. -/
theorem Value.Readable.plain {v : Value} (h : v.Readable)
    (hq : ∀ s, v.text? = some s → isOpaque s.toList = false) : v.Plain := by
  cases h with
  | text s => exact .scalar (.text rfl) hq
  | int h => exact .scalar (.int h) (by simp [Value.text?])
  | float h => exact .scalar (.float h) (by simp [Value.text?])
  | interval h => exact .interval h
  | expression => exact .expression

theorem FieldValue.Readable.spelled_eq {f : FieldValue} (h : f.Readable)
    (hnested : ∀ e, f.value = .expression e → e.spelled = e) : f.spelled = f := by
  -- texts and numbers that are read have no other spelling
  have hvalue : f.value.spelled = f.value := by
    have hread := h.value
    cases hv : f.value <;> rw [hv] at hread <;> cases hread
    · rfl
    · rfl
    · rfl
    · next hs => rw [Value.spelled, hs]
    · next e => rw [Value.spelled, hnested e hv]
  obtain ⟨value, name⟩ := f
  rw [FieldValue.spelled]
  exact congrArg (FieldValue.mk · name) hvalue

/-- Expressions that are readable and quote their texts can be written and read back. -/
theorem Expression.Everywhere.plain {e : Expression} (h : e.Everywhere Readable) (hq : e.Everywhere Quotes) :
    e.Everywhere Plain := by
  induction h with
  | intro e here _ ih =>
    refine .intro e ⟨here.rules, here.options, fun f hf => (here.fields f hf).name, fun f hf => ?_⟩
      fun f hf inner hi => ih f hf inner hi (hq.nested f hf inner hi)
    exact (here.fields f hf).value.plain (hq.here f hf)

/-- What is read is spelled as it is. -/
theorem Expression.Everywhere.spelled_eq {e : Expression} (h : e.Everywhere Readable) : e.spelled = e := by
  induction h with
  | intro e here _ ih =>
    have hfields : e.fields.map FieldValue.spelled = e.fields :=
      (List.map_congr_left fun f hf => (here.fields f hf).spelled_eq (ih f hf)).trans (List.map_id _)
    obtain ⟨operator, options, fields⟩ := e
    rw [Expression.spelled, spelledFields_eq_map]
    exact congrArg _ hfields

/-- What is read can be spelled again. -/
theorem Value.Readable.hasSpelling {v : Value} (h : v.Readable) : v.HasSpelling := by
  cases h with
  | text s => exact .scalar (.text rfl)
  | int h => exact .scalar (.int h)
  | float h => exact .scalar (.float h)
  | interval h => exact .interval h
  | expression => exact .expression

/-- An expression that was read equals itself. -/
theorem Expression.Everywhere.equal_self {e : Expression} (h : e.Everywhere Readable) :
    e.equal e = .ok true := by
  have hspelled := Everywhere.equal_of_hasSpelling
    (h.imp fun _ here f hf => (here.fields f hf).value.hasSpelling)
  rwa [h.spelled_eq] at hspelled

/-! ## Values of tokens -/

/-- A number that is read is an integer, a float or a decimal that neither can hold. -/
theorem Query.fromScalar_of_ofNumber {n : NumberText} {v : Value} (h : Value.ofNumber n = .ok v) :
    v.FromScalar := by
  unfold Value.ofNumber at h
  split at h
  · obtain ⟨i, hr, rfl⟩ := map_eq_ok_iff.1 h
    exact .int (Integer.length_digitsOfNat_of_read hr)
  · obtain rfl := Except.ok.inj h
    exact .float _

namespace Query

/-- A terminal that writes an integer of more digits than may be read. -/
def Token.IsLongInteger (token : Token) : Prop :=
  ∃ negative ds, token.lexeme = NumberText.minusText negative ++ ds ∧ (∀ c ∈ ds, isDecimalDigit c) ∧
    Integer.digitLimit < ds.length

def ScalarNode.numbers : ScalarNode → List Token
  | .number token => [token]
  | .string _ => []

def boundNumbers : Option ScalarNode → List Token
  | some s => s.numbers
  | none => []

mutual

def TermNode.numbers : TermNode → List Token
  | .scalar s => s.numbers
  | .range _ lower _ upper _ => boundNumbers lower ++ boundNumbers upper
  | .expr e => e.numbers

def ItemNode.numbers : ItemNode → List Token
  | .option .. => []
  | .named _ _ value => value.numbers
  | .bare value => value.numbers

def itemsNumbers : List ItemNode → List Token
  | [] => []
  | item :: rest => item.numbers ++ itemsNumbers rest

def ExprNode.numbers : ExprNode → List Token
  | .node _ _ items _ => itemsNumbers items

end

/-- A number has a value unless it is an integer of too many digits. -/
theorem ScalarNode.value_number {cs rest : List Char} {token : Token} (h : Takes .number cs token rest) :
    Meets Value.FromScalar (fun e => e = .fault .digitLimit ∧ token.IsLongInteger)
      (ScalarNode.number token).value := by
  obtain ⟨n, hn, hcs⟩ := Terminal.longest_number_iff.1 h.longest
  have hlexeme := Terminal.number?_lexeme hn hcs
  rw [ScalarNode.value, hlexeme]
  refine meets_liftM (fun v hv => fromScalar_of_ofNumber hv) fun f hf => ?_
  obtain ⟨text, ⟨-, hdigits, -, power, hpower, htext⟩, hspelled⟩ := NumberText.spells_of_take? hlexeme
  -- only reading an integer may fail, and its token is a sign and its digits
  unfold Value.ofNumber at hf
  split at hf
  · next hinteger =>
    rw [NumberText.isInteger, Bool.and_eq_true, List.isEmpty_iff, Option.isNone_iff_eq_none] at hinteger
    obtain ⟨hfraction, hnone⟩ := hinteger
    rw [hnone] at hpower
    cases hpower
    have htoken : token.lexeme = NumberText.minusText n.negative ++ n.whole := by
      simpa [hfraction, NumberText.fractionText, htext] using hspelled
    unfold Integer.read at hf
    split at hf
    · cases hf
    · next hlong =>
      obtain rfl : Fault.digitLimit = f := Except.error.inj hf
      exact ⟨rfl, n.negative, n.whole, htoken, hdigits, by omega⟩
  · cases hf

/-- An integer of too many digits has no value. -/
theorem ScalarNode.value_of_isLongInteger {token : Token} (h : token.IsLongInteger) :
    (ScalarNode.number token).value = .error (.fault .digitLimit) := by
  obtain ⟨negative, ds, hlexeme, hd, hlong⟩ := h
  have hne : ds ≠ [] := List.ne_nil_of_length_pos (by omega)
  have hspells : NumberText.Spells ⟨negative, ds, [], none⟩ ds :=
    ⟨hne, hd, by simp, [], .none, by simp [NumberText.fractionText]⟩
  have hnumber : number? token.lexeme = some (⟨negative, ds, [], none⟩, []) := by
    have htake := hspells.take? (stops_nil _)
    rwa [List.append_nil, ← hlexeme] at htake
  have hread : Integer.read negative ds = .error .digitLimit := by
    rw [Integer.read, if_neg (by omega)]
  rw [ScalarNode.value, hnumber]
  simp only [Value.ofNumber, NumberText.isInteger, hread]
  rfl

variable {E : Error → Prop}

/-- A number or string in a text has its value, or its digits are too many. -/
theorem DerivesScalar.meets {cs rest : List Char} {s : ScalarNode} (h : DerivesScalar cs s rest)
    (hlong : ∀ token ∈ s.numbers, token.IsLongInteger → E (.fault .digitLimit)) :
    Meets Value.FromScalar E s.value := by
  cases h with
  | @number token _ h =>
    refine (ScalarNode.value_number h).imp_error ?_
    rintro _ ⟨rfl, htoken⟩
    exact hlong token (List.mem_singleton.2 rfl) htoken
  | string h => exact .text _

theorem DerivesBound.meets {cs rest : List Char} {b : Option ScalarNode} (h : DerivesBound cs b rest)
    (hlong : ∀ token ∈ boundNumbers b, token.IsLongInteger → E (.fault .digitLimit)) :
    Meets Value.FromScalar E (boundNodeValue b) := by
  cases h with
  | none => exact .null
  | some h => exact h.meets hlong

end Query

/-- What bounds an interval is of a family, and the grammar can spell it. -/
theorem Value.FromScalar.isScalar {v : Value} {family : Family} (h : v.FromScalar)
    (hf : v.family? = some family) : v.IsScalar ∧ v.spelled = v := by
  cases h with
  | null => cases hf
  | text s => exact ⟨.text rfl, rfl⟩
  | int h => exact ⟨.int h, rfl⟩
  | float x =>
    cases hx : x.isFinite with
    | true => exact ⟨.float hx, rfl⟩
    | false => simp [Value.family?, Value.isNumber, Value.text?, hx] at hf

/-- An interval that is made of numbers and strings is plain and spelled as it is. -/
theorem Interval.plain_of_ofDescriptor {lower lowerExclusive upper upperExclusive : Value} {r : Interval}
    (hl : lower.FromScalar) (hle : lowerExclusive.FromScalar) (hu : upper.FromScalar)
    (hue : upperExclusive.FromScalar)
    (h : ofDescriptor lower lowerExclusive upper upperExclusive = .ok r) : r.Plain ∧ r.spelled = r := by
  have hvalid := valid_of_ofDescriptor h
  obtain ⟨family, hlow, hhigh⟩ := hvalid.family
  have hbound {v : Value} (hv : v.FromScalar) (hf : v ≠ .null → v.family? = some family) :
      (v = .null ∨ v.IsScalar) ∧ v.spelled = v := by
    by_cases hn : v = .null
    · exact ⟨.inl hn, by rw [hn]; rfl⟩
    · obtain ⟨hs, he⟩ := hv.isScalar (hf hn)
      exact ⟨.inr hs, he⟩
  obtain ⟨-, hr⟩ := ofDescriptor_eq_ok h
  obtain ⟨hlower, hls⟩ := hbound (by rw [hr]; exact of_side .null hl hle) hlow
  obtain ⟨hupper, hus⟩ := hbound (by rw [hr]; exact of_side .null hu hue) hhigh
  refine ⟨⟨⟨_, _, _, _, h⟩, hlower, hupper⟩, ?_⟩
  obtain ⟨low, lowInclusive, high, highInclusive⟩ := r
  rw [Interval.spelled, hls, hus]

/-! ## Values of the nodes of a derivation -/

inductive Value.FromTerm : Value → Prop
  | scalar {v : Value} (h : v.FromScalar) : FromTerm v
  | interval {r : Interval} (h : r.Plain) (hs : r.spelled = r) : FromTerm (.range r)
  | expression {e : Expression} (h : e.Everywhere Expression.Readable) : FromTerm (.expression e)

/-- A readable field whose nested expression, if it holds one, is readable everywhere. -/
def FieldValue.Nests (f : FieldValue) : Prop :=
  f.Readable ∧ ∀ e, f.value = .expression e → e.Everywhere Expression.Readable

inductive Value.FromItem : Value → Prop
  | null : FromItem .null
  | option {o : OperatorOption} (h : o.Valid) : FromItem (.option o)
  | field {f : FieldValue} (h : f.Nests) : FromItem (.field f)
  | term {v : Value} (h : v.FromTerm) : FromItem v

/-- What is known of the conditions of an expression that is read: none of them is a named pair. -/
abbrev Condition.Readable (E : Error → Prop) (c : Condition) : Prop :=
  c.Holds (fun _ => False) OperatorOption.Valid FieldValue.Nests E

def Value.IsFieldName (name : Value) : Prop :=
  name = .null ∨ ∃ n, name = .text n ∧ Terminal.fieldName.pattern.Matches n.toList

section Rules

variable {E : Error → Prop} (hrule : ∀ e, e.breaksRule → E e)

include hrule

/-- A field may hold whatever the reader reads, but for numbers without a value. -/
theorem Value.FromTerm.content {v : Value} (h : v.FromTerm) :
    Meets (fun w => w.Readable ∧ ∀ e, w = .expression e → e.Everywhere Expression.Readable) E v.content := by
  cases h with
  | scalar h =>
    cases h with
    | null => exact ⟨.text "", by simp⟩
    | text s => exact ⟨.text s, by simp⟩
    | int h => exact ⟨.int h, by simp⟩
    | float x =>
      simp only [Value.content, Value.text?, Value.isNumber, Option.isSome_none, Bool.false_or]
      split
      · next hx => exact ⟨.float hx, by simp⟩
      · exact Value.meets_unusable _ (fun f hf => by cases hf) fun _ _ => hrule _ rfl
  | interval h hs => exact ⟨.interval h hs, by simp⟩
  | expression h =>
    refine ⟨.expression _, ?_⟩
    rintro _ ⟨⟩
    exact h

/-- An expression of readable fields and of valid options is readable everywhere. -/
theorem Expression.readable_of_ofConditions {operator : Operator} {conditions : List Condition}
    (h : ∀ c ∈ conditions, c.Readable E) :
    Meets (Everywhere Readable) E (ofConditions operator conditions) := by
  refine (meets_ofConditions operator h (fun _ _ _ ho => OperatorOption.valid_of_new (.leaf rfl) ho)
    (fun _ _ _ hnone => hnone.elim) fun e he => hrule e he.breaksRule).imp ?_
  rintro e ⟨rfl, hoptions, hfields, hrules⟩
  exact .intro e ⟨hrules, hoptions, fun f hf => (hfields f hf).1⟩ fun f hf => (hfields f hf).2

theorem Value.FromTerm.ofNamed {name v : Value} {conditions : List Condition} (h : v.FromTerm)
    (hn : name.IsFieldName) (hc : ∀ c ∈ conditions, c.Readable E) :
    Meets FieldValue.Nests E (FieldValue.ofNamed name v conditions) := by
  -- the name of an operator gives an expression and not a named field
  have hname (n : Option String) (ho : name.operator? = none) (hf : name.fieldName? = .ok n) (m : String)
      (hm : n = some m) : Terminal.fieldName.pattern.Matches m.toList ∧ Operator.ofText? m = none := by
    subst hm
    rcases hn with rfl | ⟨text, rfl, ht⟩
    · cases hf
    · rw [Value.fieldName?] at hf
      split at hf
      · cases hf
      · rw [Value.asText_of_text? rfl] at hf
        obtain rfl : text = m := by simpa [Except.map] using hf
        exact ⟨ht, ho⟩
  have hnofault (f : Fault) : name.fieldName? ≠ .error f := by
    rcases hn with rfl | ⟨text, rfl, -⟩
    · exact fun hf => by cases hf
    · rw [Value.fieldName?, Value.asText_of_text? rfl]
      split <;> exact fun hf => by cases hf
  refine FieldValue.meets_ofNamed ?_ ?_ ?_ fun f hf => absurd hf (hnofault f)
  · intro operator _
    refine (Expression.readable_of_ofConditions hrule hc).imp fun e he => ⟨⟨by simp, .expression e⟩, ?_⟩
    rintro _ ⟨⟩
    exact he
  · rintro n f - - rfl
    cases h with
    | scalar h => cases h
  · intro n ho hf _
    exact (h.content hrule).imp fun w hw => ⟨⟨hname n ho hf, hw.1⟩, hw.2⟩

/-- What a node stands for is a condition of a readable field, or none. -/
theorem Value.FromTerm.holds {v : Value} (h : v.FromTerm) :
    v.reading.entry.Readable E ∧ ∀ c ∈ v.conditions, c.Readable E := by
  have hfield : Meets (fun found => ∀ f ∈ found, FieldValue.Nests f) E ((FieldValue.ofUnnamed v).map some) :=
    (h.ofNamed hrule (.inl rfl) (by simp)).map fun f hf g hg => by
      obtain rfl : f = g := by simpa using hg
      exact hf
  have hsingle (hr : v.reading = .single (.positional ((FieldValue.ofUnnamed v).map some))) :
      v.reading.entry.Readable E ∧ ∀ c ∈ v.conditions, c.Readable E := by
    rw [Value.conditions, hr]
    exact ⟨hfield, fun c hc => List.mem_singleton.1 hc ▸ hfield⟩
  cases h with
  | scalar h =>
    cases h with
    | null => exact ⟨trivial, by simp [Value.conditions, Value.reading]⟩
    | text | int | float => exact hsingle rfl
  | interval | expression => exact hsingle rfl

/-- An item is a condition of a readable field or of a valid option. -/
theorem Value.FromItem.holds {v : Value} (h : v.FromItem) : v.reading.entry.Readable E := by
  cases h with
  | null => trivial
  | option h => exact h
  | @field f h =>
    intro g hg
    obtain rfl : f = g := by simpa using hg
    exact h
  | term h => exact (h.holds hrule).1

theorem Value.FromTerm.new {v : Value} {name : String} (h : v.FromTerm)
    (hn : Terminal.fieldName.pattern.Matches name.toList) :
    Meets FieldValue.Nests E (FieldValue.new (.text name) v) :=
  h.ofNamed hrule (.inr ⟨name, rfl, hn⟩) (h.holds hrule).2

theorem Expression.readable_of_new {operator : String} {vs : List Value} (h : ∀ v ∈ vs, v.FromItem) :
    Meets (Everywhere Readable) E (new (.text operator) (.list vs)) := by
  unfold new
  split
  · apply readable_of_ofConditions hrule
    intro c hc
    rw [Value.conditions_list] at hc
    obtain ⟨v, hv, rfl⟩ := List.mem_map.1 hc
    exact (h v hv).holds hrule
  · exact hrule _ rfl

namespace Query

/-- The brackets and bounds of a text make an interval or break a rule. -/
theorem meets_intervalOf {opening closing : Token} {low high : Value} (hl : low.FromScalar)
    (hh : high.FromScalar) : Meets Value.FromTerm E (intervalOf opening closing (low, high)) := by
  have hmade := (Interval.breaks_ofDescriptor (if opening.lexeme = ['['] then low else .null)
    (if opening.lexeme = ['['] then .null else low) (if closing.lexeme = [']'] then high else .null)
    (if closing.lexeme = [']'] then .null else high)).imp_error hrule
  refine Meets.map (P := fun r => r.Plain ∧ r.spelled = r)
    (meets_iff.2 ⟨fun r hr => ?_, (meets_iff.1 hmade).2⟩) fun r hr => .interval hr.1 hr.2
  refine Interval.plain_of_ofDescriptor ?_ ?_ ?_ ?_ hr
  all_goals split <;> first | exact .null | assumption

end Query

end Rules

namespace Query

/-- A word behind the name of an option makes a valid one or none. -/
theorem meets_optionOf {E : Error → Prop} {name word : Token} : Meets Value.FromItem E (optionOf name word) := by
  have hnofault (f : Fault) : OperatorOption.new (.text name.text) (.text word.text) ≠ .error f := by
    unfold OperatorOption.new
    simp only [Value.isNull, Bool.false_eq_true, if_false]
    split <;> exact fun hf => by cases hf
  refine (meets_liftM (P := fun o => ∀ p ∈ o, OperatorOption.Valid p) (fun found hf p hp => ?_)
    fun f hf => absurd hf (hnofault f)).bind fun found _ hv => ?_
  · obtain rfl : found = some p := hp
    exact OperatorOption.valid_of_new (.leaf rfl) hf
  · cases found with
    | none => exact .null
    | some o => exact .option (hv o rfl)

-- The errors of the nodes are broken rules, or come from the numbers in them.
variable {E : Error → Prop}

mutual

theorem DerivesTerm.meets (hrule : ∀ e, e.breaksRule → E e) :
    ∀ {cs rest : List Char} {node : TermNode}, DerivesTerm cs node rest →
    (∀ token ∈ node.numbers, token.IsLongInteger → E (.fault .digitLimit)) →
    Meets Value.FromTerm E node.value
  | _, _, .scalar _, .scalar h, hlong => by
    rw [TermNode.numbers] at hlong
    rw [TermNode.value]
    exact (h.meets hlong).imp fun _ => .scalar
  | _, _, .range .., .range _ hl _ hu _, hlong => by
    rw [TermNode.numbers] at hlong
    rw [TermNode.value]
    exact (hl.meets fun token ht => hlong token (List.mem_append_left _ ht)).bind fun _ _ hlow =>
      (hu.meets fun token ht => hlong token (List.mem_append_right _ ht)).bind fun _ _ hhigh =>
        meets_intervalOf hrule hlow hhigh
  | _, _, .expr _, .expr h, hlong => by
    rw [TermNode.numbers] at hlong
    rw [TermNode.value]
    exact (DerivesExpr.meets hrule h hlong).map fun _ => .expression

/-- An item of a text has its value. -/
theorem DerivesItem.meets (hrule : ∀ e, e.breaksRule → E e) :
    ∀ {cs rest : List Char} {node : ItemNode}, DerivesItem cs node rest →
    (∀ token ∈ node.numbers, token.IsLongInteger → E (.fault .digitLimit)) →
    Meets Value.FromItem E node.value
  | _, _, .option .., .option .., _ => by
    rw [ItemNode.value]
    exact meets_optionOf
  | _, _, .named name _ _, .named hn _ hv, hlong => by
    rw [ItemNode.numbers] at hlong
    have hmatches : Terminal.fieldName.pattern.Matches name.text.toList := by
      rw [Token.text, String.toList_ofList]
      exact hn.longest.spelled
    rw [ItemNode.value]
    exact (DerivesTerm.meets hrule hv hlong).bind fun v _ h => (h.new hrule hmatches).map fun _ => .field
  | _, _, .bare _, .bare hv, hlong => by
    rw [ItemNode.numbers] at hlong
    rw [ItemNode.value]
    exact (DerivesTerm.meets hrule hv hlong).imp fun _ => .term

/-- A row of items has a value for each of them. -/
theorem DerivesItems.meets (hrule : ∀ e, e.breaksRule → E e) :
    ∀ {cs rest : List Char} {nodes : List ItemNode}, DerivesItems cs nodes rest →
    (∀ token ∈ itemsNumbers nodes, token.IsLongInteger → E (.fault .digitLimit)) →
    Meets (fun vs => ∀ v ∈ vs, v.FromItem) E (itemNodeValues nodes)
  | _, _, [], .nil, _ => by
    rw [itemNodeValues]
    exact fun v hv => absurd hv (by simp)
  | _, _, _ :: _, .cons hi hr, hlong => by
    rw [itemsNumbers] at hlong
    rw [itemNodeValues]
    refine (DerivesItem.meets hrule hi fun token ht => hlong token (List.mem_append_left _ ht)).bind
      fun v _ hv => ?_
    refine (DerivesItems.meets hrule hr fun token ht => hlong token (List.mem_append_right _ ht)).bind
      fun vs _ hvs => ?_
    exact List.forall_mem_cons.2 ⟨hv, hvs⟩

/-- The value of a derivation is readable everywhere. -/
theorem DerivesExpr.meets (hrule : ∀ e, e.breaksRule → E e) :
    ∀ {cs rest : List Char} {node : ExprNode}, DerivesExpr cs node rest →
    (∀ token ∈ node.numbers, token.IsLongInteger → E (.fault .digitLimit)) →
    Meets (Expression.Everywhere Expression.Readable) E node.value
  | _, _, .node .., .node _ _ hi _, hlong => by
    rw [ExprNode.numbers] at hlong
    rw [ExprNode.value]
    exact (DerivesItems.meets hrule hi hlong).bind fun _ _ h => Expression.readable_of_new hrule h

end

end Query

/-- The expression of a text that is read is readable everywhere. -/
theorem Expression.readable_of_ofText {text : String} {e : Expression} (h : ofText text = .ok e) :
    e.Everywhere Readable := by
  by_cases hd : ∃ node, Derivation (trim text.toList) node
  · obtain ⟨node, hd⟩ := hd
    rw [ofText_of_derivation hd] at h
    have hmeets := DerivesExpr.meets (E := fun _ => True) (fun _ _ => trivial) hd fun _ _ _ => trivial
    exact hmeets.of_ok h
  · obtain ⟨err, he, -⟩ := ofText_of_not_derivation hd
    rw [he] at h
    cases h

end StructuredQuery
