import StructuredQuery.Number.Binary64
import StructuredQuery.Number.Decimal
import StructuredQuery.Number.Integer
import StructuredQuery.Number.NumberText
import StructuredQuery.Number.Progression
import StructuredQuery.Operator
import StructuredQuery.Time.Calendar

/-!
The values that queries are made of and made from. A search is described by plain data of any shape
(texts, numbers, members of enumerations, lists, mappings) among which finished parts of a query may
stand; a query itself is an expression over such values.
-/

namespace StructuredQuery

/-- An option of an operator with its word; without a word it shows nothing. -/
structure OperatorOption where
  name : OptionName
  value : Option String
deriving DecidableEq, Repr

mutual

/-- Plain data and the parts of queries. -/
inductive Value
  | null
  | bool (b : Bool)
  | int (n : Int)
  | float (x : Binary64)
  | decimal (d : Decimal)
  | text (s : String)
  | operator (o : Operator)
  | optionName (o : OptionName)
  | member (enumeration name : String) (value : Value)
  | timestamp (t : Timestamp)
  | date (d : Date)
  | time (t : TimeOfDay)
  | bytes (bs : List UInt8)
  | list (items : List Value)
  | tuple (items : List Value)
  | progression (p : Progression)
  | mapping (entries : List (Value × Value))
  | option (o : OperatorOption)
  | range (r : Interval)
  | field (f : FieldValue)
  | expression (e : Expression)

/-- An interval of numbers, timestamps or texts. A missing bound is `null`. -/
structure Interval where
  lower : Value
  lowerInclusive : Bool
  upper : Value
  upperInclusive : Bool

/-- What a field has to match; without a name all text fields are searched. -/
structure FieldValue where
  value : Value
  name : Option String

structure Expression where
  operator : Operator
  options : List OperatorOption
  fields : List FieldValue

end

instance : Inhabited Value := ⟨.null⟩

namespace Value

def kind : Value → String
  | .null => "NoneType"
  | .bool _ => "bool"
  | .int _ => "int"
  | .float _ => "float"
  | .decimal _ => "Decimal"
  | .text _ => "str"
  | .operator _ => "Operator"
  | .optionName _ => "OptionName"
  | .member enumeration _ _ => enumeration
  | .timestamp _ => "datetime"
  | .date _ => "date"
  | .time _ => "time"
  | .bytes _ => "bytes"
  | .list _ => "list"
  | .tuple _ => "tuple"
  | .progression _ => "range"
  | .mapping _ => "dict"
  | .option _ => "OperatorOption"
  | .range _ => "Range"
  | .field _ => "FieldValue"
  | .expression _ => "Expression"

/-- The text of a value that is one; the names of operators and options are texts, the members of other
enumerations are not. -/
def text? : Value → Option String
  | .text s => some s
  | .operator o => some o.text
  | .optionName o => some o.text
  | _ => none

/-- Whether a value is written as a number in a query: integers and the finite numbers of the other
kinds, truth values excluded. -/
def isNumber : Value → Bool
  | .int _ => true
  | .float x => x.isFinite
  | .decimal d => d.isFinite
  | _ => false

/-- Missing, for a bound: nothing or the empty text. -/
def isBlank : Value → Bool
  | .null => true
  | .text s => s.isEmpty
  | _ => false

def isNull : Value → Bool
  | .null => true
  | _ => false

def operator? (v : Value) : Option Operator :=
  v.text?.bind Operator.ofText?

def optionName? (v : Value) : Option OptionName :=
  v.text?.bind OptionName.ofText?

/-- The value of a written number: an integer, or the nearest floating-point number. -/
def ofNumber (n : NumberText) : Except Fault Value :=
  if n.isInteger then (Integer.read n.negative n.whole).map .int
  else .ok (.float (.ofNumeral n.numeral))

end Value

end StructuredQuery
