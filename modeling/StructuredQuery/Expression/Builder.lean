import StructuredQuery.Expression.Reading

/-!
Expressions built by hand and from descriptions. A builder takes conditions, either one by one or as
one list, and named conditions after them; a description gives one expression for each pair of an
operator and conditions.
-/

namespace StructuredQuery

def Mapping.pairs (entries : List (Value × Value)) : List Value :=
  entries.map fun (key, value) => .tuple [key, value]

/-- The conditions given to a builder: a single list stands for its items, and the named ones follow. -/
def gather (given : List Value) (named : List (String × Value)) : List Value :=
  let items := match given with
    | [.list items] => items
    | _ => given
  items ++ named.map fun (key, value) => .tuple [.text key, value]

def Expression.build (operator : Operator) (given : List Value) (named : List (String × Value)) :
    Except Error Expression :=
  Expression.new (.operator operator) (.list (gather given named))

/-- A field of a value, or of a name and a value. A value alone may be given by its name. -/
def FieldValue.build (given : List Value) (named : List (String × Value)) :
    Except Error (Option FieldValue) :=
  match given, named with
  | [], [("name_or_value", value)] => ofValue value
  | [value], [] => ofValue value
  | [name, value], [] => (new name value).map some
  | _ :: _ :: _ :: _, [] => throw (.fault (.tooManyArguments given.length))
  | _, _ => throw (.fault .wrongKind)

/-- An option of a name and a value, either of which may be given by its name. -/
def OperatorOption.build (given : List Value) (named : List (String × Value)) :
    Except Fault (Option OperatorOption) :=
  match given, named with
  | [name, value], [] => new name value
  | [name], [("value", value)] => new name value
  | [], [("name", name), ("value", value)] => new name value
  | [], [("value", value), ("name", name)] => new name value
  | _, _ => throw .wrongKind

/-- The row of entries that a description stands for: the pairs of a mapping, the items of a list or
tuple, the letters of a text, the numbers of a byte string. No number describes an expression, so of a
progression the first one tells as much as all of them. -/
def Value.description? : Value → Option (List Value)
  | .mapping entries => some (Mapping.pairs entries)
  | .list items => some items
  | .tuple items => some items
  | .bytes bs => some (bs.map fun b => .int b.toNat)
  | .progression p => some (p.first?.toList.map .int)
  | v => v.text?.map fun s => s.toList.map fun c => .text (String.singleton c)

/-- The expression of one entry: it is there already, or a pair gives its operator and conditions. -/
def Expression.ofEntry : Value → Except Error Expression
  | .expression e => .ok e
  | .tuple [operator, conditions] => new operator conditions
  | .list [operator, conditions] => new operator conditions
  | v => do throw (.unknownOperator (← v.asText))

def Expression.ofDescription (v : Value) : Except Error (List Expression) :=
  match v with
  | .null => .ok []
  | .expression e => .ok [e]
  | v =>
    match v.description? with
    | some entries => entries.mapM ofEntry
    | none => .error (.fault .wrongKind)

/-- What a description amounts to: nothing, one expression, or a list of several. -/
def Value.ofExpressions : List Expression → Value
  | [] => .null
  | [e] => .expression e
  | es => .list (es.map .expression)

/-- What a description stands for, as one value. -/
def Value.ofDescription (v : Value) : Except Error Value :=
  (Expression.ofDescription v).map ofExpressions

def Value.queryText : Value → Except Fault String
  | .expression e => e.render
  | _ => .error .missingPart

/-- The query texts of what a description amounts to: an empty one for nothing, and a list of texts for
a list of expressions. -/
def Value.queryTexts : Value → Except Fault Value
  | .null => .ok (.text "")
  | .list items => do return .list ((← items.mapM queryText).map .text)
  | v => v.queryText.map .text

end StructuredQuery
