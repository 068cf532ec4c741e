import StructuredQuery.Expression.Reading
import StructuredQuery.Query.Tree.Basic

/-!
Query text read as an expression. The syntax is read first and as a whole, so an error of syntax wins
over all others; then its parts are given their values from left to right and from the inside out, and
every expression is held to the rules of its operator.
-/

namespace StructuredQuery.Query

def Scalar.value : Scalar → Except Fault Value
  | .number n => Value.ofNumber n
  | .text body => .ok (.text (String.ofList (Text.unescape body)))

def boundValue : Option Scalar → Except Fault Value
  | some s => s.value
  | none => .ok .null

mutual

def Term.value : Term → Except Error Value
  | .scalar s => liftM s.value
  | .range lowerInclusive lower upper upperInclusive => do
    let low ← boundValue lower
    let high ← boundValue upper
    let r ← Interval.ofDescriptor
      (if lowerInclusive then low else .null) (if lowerInclusive then .null else low)
      (if upperInclusive then high else .null) (if upperInclusive then .null else high)
    return .range r
  | .expression e => do return .expression (← e.value)

def Item.value : Item → Except Error Value
  | .option name word => do
    let o ← OperatorOption.new (.optionName name) (.text (String.ofList word))
    return o.elim .null .option
  | .field none term => term.value
  | .field (some name) term => do
    let value ← term.value
    return .field (← FieldValue.new (.text (String.ofList name)) value)

def itemValues : List Item → Except Error (List Value)
  | [] => .ok []
  | item :: rest => do return (← item.value) :: (← itemValues rest)

def Tree.value : Tree → Except Error Expression
  | .node operator items => do
    let conditions ← itemValues items
    Expression.new (.text (String.ofList operator)) (.list conditions)

end

end Query

/-- The expression that a query text writes; blanks around it do not count. -/
def Expression.ofText (text : String) : Except Error Expression :=
  let trimmed := Text.trim text.toList
  if trimmed.isEmpty then .error .emptyQuery
  else match Query.Tree.ofText? trimmed with
    | some tree => tree.value
    | none => .error (.malformedQuery (String.ofList trimmed))

end StructuredQuery
