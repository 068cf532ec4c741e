import StructuredQuery.Expression.Reading
import StructuredQuery.Proofs.Query.Derivation

/-!
The evaluation of a derivation. Every node makes its value of the values of its parts, and a node fails if
its parts have values and it has none. The error of the whole is that of the first node that fails, when
the nodes are taken from left to right and each after its parts.
-/

namespace StructuredQuery.Query

/-- A number is an integer or a float as it is spelled, and a string is what stands between its quotes
without the escapes. -/
def ScalarNode.value : ScalarNode → Except Error Value
  | .number token =>
    match number? token.lexeme with
    | some (n, _) => liftM (Value.ofNumber n)
    | none => .error (.fault .wrongKind)
  | .string token => .ok (.text (String.ofList (Text.unescape token.lexeme.tail.dropLast)))

def boundNodeValue : Option ScalarNode → Except Error Value
  | some s => s.value
  | none => .ok .null

/-- The interval between two bounds; square brackets include them and curly ones do not. -/
def intervalOf (opening closing : Token) (bounds : Value × Value) : Except Error Value :=
  let (low, high) := bounds
  (Interval.ofDescriptor
    (if opening.lexeme = ['['] then low else .null) (if opening.lexeme = ['['] then .null else low)
    (if closing.lexeme = [']'] then high else .null)
    (if closing.lexeme = [']'] then .null else high)).map .range

def optionOf (name word : Token) : Except Error Value := do
  let o ← OperatorOption.new (.text name.text) (.text word.text)
  return o.elim .null .option

mutual

def TermNode.value : TermNode → Except Error Value
  | .scalar s => s.value
  | .range opening lower _ upper closing => do
    let low ← boundNodeValue lower
    let high ← boundNodeValue upper
    intervalOf opening closing (low, high)
  | .expr e => e.value.map .expression

def ItemNode.value : ItemNode → Except Error Value
  | .option name _ word => optionOf name word
  | .named name _ value => do
    let v ← value.value
    (FieldValue.new (.text name.text) v).map .field
  | .bare value => value.value

def itemNodeValues : List ItemNode → Except Error (List Value)
  | [] => .ok []
  | item :: rest => do
    let v ← item.value
    let vs ← itemNodeValues rest
    return v :: vs

def ExprNode.value : ExprNode → Except Error Expression
  | .node _ operator items _ => do
    let conditions ← itemNodeValues items
    Expression.new (.text operator.text) (.list conditions)

end

def failure {α : Type} : Except Error α → List Error
  | .error e => [e]
  | .ok _ => []

/-- The error of a node whose parts have values but which has none itself. -/
def ownFailure {α β : Type} (parts : Except Error α) (make : α → Except Error β) : List Error :=
  match parts with
  | .error _ => []
  | .ok a => failure (make a)

mutual

/-- The errors of the nodes that fail, each node after its parts. -/
def TermNode.failures : TermNode → List Error
  | .scalar s => failure s.value
  | .range opening lower _ upper closing =>
    failure (boundNodeValue lower) ++ failure (boundNodeValue upper) ++
      ownFailure (do return (← boundNodeValue lower, ← boundNodeValue upper)) (intervalOf opening closing)
  | .expr e => e.failures

def ItemNode.failures : ItemNode → List Error
  | .option name _ word => failure (optionOf name word)
  | .named name _ value =>
    value.failures ++ ownFailure value.value (FieldValue.new (.text name.text))
  | .bare value => value.failures

def itemsFailures : List ItemNode → List Error
  | [] => []
  | item :: rest => item.failures ++ itemsFailures rest

def ExprNode.failures : ExprNode → List Error
  | .node _ operator items _ =>
    itemsFailures items ++
      ownFailure (itemNodeValues items) fun conditions =>
        Expression.new (.text operator.text) (.list conditions)

end

/-- A result fails with the first of some errors, and succeeds if there are none. -/
def FailsFirst {α : Type} (r : Except Error α) (es : List Error) : Prop :=
  ∀ e, r = .error e ↔ es.head? = some e

theorem failsFirst_failure {α : Type} (r : Except Error α) : FailsFirst r (failure r) := by
  intro e
  cases r <;> simp [failure]

/-- A node that has a value has no failing parts. -/
theorem FailsFirst.eq_nil {α : Type} {a : α} {es : List Error} (h : FailsFirst (.ok a) es) : es = [] := by
  cases es with
  | nil => rfl
  | cons e es => exact absurd ((h e).2 rfl) (by simp)

theorem FailsFirst.map {α β : Type} {r : Except Error α} {es : List Error} (h : FailsFirst r es)
    (f : α → β) : FailsFirst (r.map f) es := by
  intro e
  rw [← h e]
  cases r <;> simp [Except.map]

/-- If the first of two results fails, its error comes first, and else that of the second. -/
theorem FailsFirst.bind {α β : Type} {r : Except Error α} {f : α → Except Error β} {es fs : List Error}
    (hr : FailsFirst r es) (hf : ∀ a, r = .ok a → FailsFirst (f a) fs) :
    FailsFirst (r >>= f) (es ++ fs) := by
  intro e
  cases r with
  | error err =>
    obtain ⟨rest, rfl⟩ : ∃ rest, es = err :: rest := List.head?_eq_some_iff.1 ((hr err).1 rfl)
    change Except.error err = Except.error e ↔ _
    simp
  | ok a =>
    rw [hr.eq_nil, List.nil_append]
    exact hf a rfl e

theorem failsFirst_ownFailure {α β : Type} {r : Except Error α} {a : α} (h : r = .ok a)
    (f : α → Except Error β) : FailsFirst (f a) (ownFailure r f) := by
  rw [h]
  exact failsFirst_failure (f a)

mutual

/-- The error of what a field holds is the first of its failures. -/
theorem TermNode.failsFirst : ∀ t : TermNode, FailsFirst t.value t.failures
  | .scalar s => by
    rw [TermNode.value, TermNode.failures]
    exact failsFirst_failure s.value
  | .range opening lower comma upper closing => by
    rw [TermNode.value, TermNode.failures, List.append_assoc]
    refine (failsFirst_failure _).bind fun low hlow => (failsFirst_failure _).bind fun high hhigh => ?_
    exact failsFirst_ownFailure (by rw [hlow, hhigh]; rfl) (intervalOf opening closing)
  | .expr e => by
    rw [TermNode.value, TermNode.failures]
    exact (ExprNode.failsFirst e).map Value.expression

/-- The error of an item is the first of its failures. -/
theorem ItemNode.failsFirst : ∀ i : ItemNode, FailsFirst i.value i.failures
  | .option name equals word => by
    rw [ItemNode.value, ItemNode.failures]
    exact failsFirst_failure (optionOf name word)
  | .named name colon value => by
    rw [ItemNode.value, ItemNode.failures]
    apply (TermNode.failsFirst value).bind
    intro v hv
    exact (failsFirst_ownFailure hv (FieldValue.new (.text name.text))).map Value.field
  | .bare value => by
    rw [ItemNode.value, ItemNode.failures]
    exact TermNode.failsFirst value

/-- The error of a row of items is the first of their failures. -/
theorem itemNodes_failsFirst : ∀ items : List ItemNode, FailsFirst (itemNodeValues items) (itemsFailures items)
  | [] => by
    rw [itemNodeValues, itemsFailures]
    exact failsFirst_failure (.ok [])
  | item :: rest => by
    rw [itemNodeValues, itemsFailures]
    exact (ItemNode.failsFirst item).bind fun v _ => (itemNodes_failsFirst rest).map (v :: ·)

/-- A derivation fails with the error of its first node that fails. -/
theorem ExprNode.failsFirst : ∀ e : ExprNode, FailsFirst e.value e.failures
  | .node opening operator items closing => by
    rw [ExprNode.value, ExprNode.failures]
    apply (itemNodes_failsFirst items).bind
    intro vs hvs
    exact failsFirst_ownFailure hvs fun conditions => Expression.new (.text operator.text) (.list conditions)

end

end StructuredQuery.Query
