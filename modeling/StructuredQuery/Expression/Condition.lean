import StructuredQuery.Interval
import StructuredQuery.OperatorOption

/-!
Expressions made from conditions. A condition list holds options, named pairs and values to match in
any order; which of them become options and which become fields depends on the operator. The fields are
then held to the operator's rules.
-/

namespace StructuredQuery

/-- One condition of an expression. Where a field would be made of it, the outcome of making it is
part of the condition, so that the errors of conditions can be told in the order of the fields. -/
inductive Condition
  /-- Nothing. -/
  | skipped
  /-- A finished option. -/
  | option (o : OperatorOption)
  /-- A value to match, which may turn out to be no field. -/
  | positional (candidate : Except Error (Option FieldValue))
  /-- A named pair: an option if the operator takes one of that name, else a named field. -/
  | named (key : String) (value : Value) (candidate : Except Error FieldValue)

namespace Condition

/-- The option among the conditions, if this is one that the operator accepts. -/
def option? (operator : Operator) : Condition → Option OperatorOption
  | option o => if operator.accepted.contains o.name then some o else none
  | _ => none

def valueOf? (name : OptionName) : Condition → Option Value
  | named key value _ => if OptionName.ofText? key = some name then some value else none
  | _ => none

def positional? : Condition → Option (Except Error (Option FieldValue))
  | positional candidate => some candidate
  | _ => none

/-- The field of a named pair, unless the operator takes the pair for an option. -/
def namedField? (operator : Operator) : Condition → Option (Except Error FieldValue)
  | named key _ candidate =>
    if (OptionName.ofText? key).any operator.accepted.contains then none else some candidate
  | _ => none

end Condition

namespace Expression

/-- The option that the first pair of its name gives; later pairs of that name do not count. -/
def namedOption (conditions : List Condition) (name : OptionName) :
    Except Fault (Option OperatorOption) :=
  match conditions.findSome? (Condition.valueOf? name) with
  | some value => OperatorOption.new (.optionName name) value
  | none => .ok none

/-- The options of an expression: the finished ones in their order, then those of named pairs in the
order of the operator's table. -/
def optionsOf (operator : Operator) (conditions : List Condition) :
    Except Fault (List OperatorOption) := do
  let named ← operator.accepted.mapM (namedOption conditions)
  return conditions.filterMap (Condition.option? operator) ++ named.filterMap id

/-- The fields of an expression: those without a name in their order, then the named ones. -/
def fieldsOf (operator : Operator) (conditions : List Condition) :
    Except Error (List FieldValue) := do
  let unnamed ← (conditions.filterMap Condition.positional?).mapM id
  let named ← (conditions.filterMap (Condition.namedField? operator)).mapM id
  return unnamed.filterMap id ++ named

def checkFields (operator : Operator) (fields : List FieldValue) : Except Error Unit :=
  match fields with
  | [] => .error (.noFieldValues operator)
  | first :: others =>
    if operator.isSingle && !others.isEmpty then
      .error (.tooManyFieldValues operator fields.length)
    else match operator with
      | .near =>
        match first.value.text? with
        | some s => if s.toList.contains ' ' then .ok () else .error .multipleWordsRequired
        | none => .error (.textRequired operator)
      | .phrase | .beginning =>
        if first.value.text?.isSome then .ok () else .error (.textRequired operator)
      | .range =>
        match first.value with
        | .range _ => .ok ()
        | v => if v.text?.any fun s => Text.isRangeText s.toList then .ok () else .error .rangeRequired
      | _ => .ok ()

def ofConditions (operator : Operator) (conditions : List Condition) : Except Error Expression := do
  let options ← optionsOf operator conditions
  let fields ← fieldsOf operator conditions
  checkFields operator fields
  return ⟨operator, options, fields⟩

end Expression

end StructuredQuery
