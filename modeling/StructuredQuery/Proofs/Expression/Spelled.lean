import StructuredQuery.Proofs.Expression.Rules
import StructuredQuery.Value.Equal

/-!
Expressions as they are spelled. In query text the name of an operator or option in the place of a text is
a text like any other, so it is read back as one; apart from that nothing changes, and the two are equal.
-/

namespace StructuredQuery

mutual

/-- A value with texts in the place of the names of operators and options. -/
def Value.spelled : Value → Value
  | .operator o => .text o.text
  | .optionName o => .text o.text
  | .range r => .range r.spelled
  | .expression e => .expression e.spelled
  | v => v

def Interval.spelled : Interval → Interval
  | ⟨lower, lowerInclusive, upper, upperInclusive⟩ =>
    ⟨lower.spelled, lowerInclusive, upper.spelled, upperInclusive⟩

def FieldValue.spelled : FieldValue → FieldValue
  | ⟨value, name⟩ => ⟨value.spelled, name⟩

def Expression.spelled : Expression → Expression
  | ⟨operator, options, fields⟩ => ⟨operator, options, spelledFields fields⟩

def spelledFields : List FieldValue → List FieldValue
  | [] => []
  | field :: rest => field.spelled :: spelledFields rest

end

/-- Values that are spelled by one terminal: texts, integers up to the limit of digits and finite floats. -/
inductive Value.IsScalar : Value → Prop
  | text {v : Value} {s : String} (h : v.text? = some s) : IsScalar v
  | int {n : Int} (h : (Text.digitsOfNat n.natAbs).length ≤ Integer.digitLimit) : IsScalar (.int n)
  | float {x : Binary64} (h : x.isFinite) : IsScalar (.float x)

namespace Value

theorem spelled_of_text? {v : Value} {s : String} (h : v.text? = some s) : v.spelled = .text s := by
  cases v <;> simp only [text?, Option.some.injEq, reduceCtorEq] at h
  all_goals
    subst h
    rfl

/-- Spelling leaves texts as they are. -/
theorem text?_spelled (v : Value) : v.spelled.text? = v.text? := by
  cases v <;> rfl

/-- Spelled anew, a number or string counts as equal. -/
theorem IsScalar.equal_spelled {v : Value} (h : v.IsScalar) : v.spelled.equal v = .ok true := by
  cases h with
  | text h =>
    cases v <;> simp only [text?, reduceCtorEq] at h
    all_goals simp [spelled, equal, quantity?, text?]
  | int h => simp [spelled, equal, quantity?, Quantity.ofInt, Quantity.equal]
  | float h =>
    rename_i x
    cases x with
    | finite negative rank =>
      simp [spelled, equal, quantity?, Quantity.ofBinary64, Binary64.toNumeral?, Quantity.equal]
    | nan | infinity => exact absurd h (by simp [Binary64.isFinite])

end Value

theorem spelledFields_eq_map (fields : List FieldValue) : spelledFields fields = fields.map FieldValue.spelled := by
  induction fields with
  | nil => rfl
  | cons field rest ih => rw [spelledFields, ih, List.map_cons]

namespace Expression

/-- The rules about fields look at no more than their spelling shows. -/
theorem checkFields_spelled (operator : Operator) (fields : List FieldValue) :
    checkFields operator (fields.map FieldValue.spelled) = checkFields operator fields := by
  cases fields with
  | nil => rfl
  | cons first others =>
    obtain ⟨value, name⟩ := first
    have hmany : (others.map FieldValue.spelled).isEmpty = others.isEmpty := by cases others <;> rfl
    have hlength : (others.map FieldValue.spelled).length = others.length := List.length_map ..
    rw [List.map_cons, FieldValue.spelled]
    cases operator with
    | and | or | not | term => simp only [checkFields, hmany, List.length_cons, hlength]
    | near | phrase | beginning =>
      simp only [checkFields, hmany, List.length_cons, hlength, Value.text?_spelled]
    | range =>
      simp only [checkFields, hmany, List.length_cons, hlength]
      cases value <;> rfl

end Expression

end StructuredQuery
