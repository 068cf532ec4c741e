import StructuredQuery.Query.Refusal
import StructuredQuery.Value.Written

/-!
What can be wrong with a query, a document or the settings, and how it is said. Every cause is a
constructor with the parts that its message needs.
-/

namespace StructuredQuery

/-- The causes of a refusal; the last one passes on a failure that no rule foresees. -/
inductive Error
  /-- A word in the place of an operator is none. -/
  | unknownOperator (given : String)
  /-- Nothing is left for the operator to match. -/
  | noFieldValues (operator : Operator)
  /-- An operator of one field was given several. -/
  | tooManyFieldValues (operator : Operator) (size : Nat)
  /-- The text of a `near` expression holds no space. -/
  | multipleWordsRequired
  /-- The operator matches texts only. -/
  | textRequired (operator : Operator)
  /-- A `range` expression was given something else. -/
  | rangeRequired
  /-- A value of this kind cannot stand in a query. -/
  | unusableValue (shown kind : String)
  /-- An interval without any bound. -/
  | openRange
  /-- Bounds that are not of one family, or keys that name no bound. -/
  | rangeType (values : List Value)
  /-- The query is blank. -/
  | emptyQuery
  /-- The text is not derived by the grammar. -/
  | malformedQuery (query : String)
  /-- The settings cannot be decoded. -/
  | malformedConfig (path detail : String)
  /-- A setting has a value of the wrong kind. -/
  | invalidSetting (key reason : String)
  /-- No document is at the path. -/
  | documentNotFound (path : String)
  /-- The document cannot be decoded. -/
  | malformedDocument (source detail : String)
  /-- The decoded document describes no queries. -/
  | documentShape (detail : String)
  /-- A failure outside these rules. -/
  | fault (f : Fault)

namespace Error

def message : Error → String
  | unknownOperator given => s!"Unknown operator `{given}` provided."
  | noFieldValues o => s!"Expression for operator `{o.text}` has no field values."
  | tooManyFieldValues o size =>
    s!"Expression for operator `{o.text}` has {size} fields, but should only have one."
  | multipleWordsRequired =>
    "Expression field value for operator `near` requires multiple words."
  | textRequired o => s!"Expression field value for operator `{o.text}` must be a string value."
  | rangeRequired => "Expression field value for operator `range` must be a range."
  | unusableValue shown kind => s!"Field value {shown} of type {kind} cannot be used in a query."
  | openRange => "Range types may not be open on both upper and lower bounds."
  | rangeType _ => "Range types must be compatible (numbers, dates, and strings may not be mixed)."
  | emptyQuery => "Failed to parse structured query '': query is empty"
  | malformedQuery query =>
    s!"Failed to parse structured query '{query}': " ++ Query.refusal query.toList
  | malformedConfig path detail => s!"Invalid config at {path}: {detail}"
  | invalidSetting key reason => s!"Invalid config value for '{key}': {reason}"
  | documentNotFound path => s!"Query document not found: {path}"
  | malformedDocument source detail => s!"Invalid query document {source}: {detail}"
  | documentShape detail => s!"Invalid query document <data>: {detail}"
  | fault (.tooManyArguments given) => s!"field() takes at most 2 arguments ({given} given)"
  | fault (.file f) => f.message
  | fault _ => ""

def isConfig : Error → Bool
  | malformedConfig _ _ => true
  | invalidSetting _ _ => true
  | _ => false

/-- Whether a query text failed to be read, as against breaking a rule. -/
def isUnreadable : Error → Bool
  | emptyQuery => true
  | malformedQuery _ => true
  | _ => false

/-- Whether the document itself could not be had: missing, refused, not decoded or of the wrong
shape. -/
def isDocument : Error → Bool
  | documentNotFound _ => true
  | malformedDocument _ _ => true
  | documentShape _ => true
  | fault (.file _) => true
  | _ => false

/-- Whether the cause is foreseen, and so is answered with its message. -/
def isForeseen : Error → Bool
  | fault _ => false
  | _ => true

end Error

/-- Failures are causes without more ado. -/
instance : MonadLift (Except Fault) (Except Error) where
  monadLift r := r.mapError .fault

end StructuredQuery
