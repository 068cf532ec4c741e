import StructuredQuery.Expression.Condition

/-!
Plain data read as conditions, fields and expressions. A value is read once, from its parts upwards: as a
single condition, and as the condition list of a nested expression. Both readings are needed because the
name of an operator before a value makes a nested expression of the conditions in it.
-/

namespace StructuredQuery

def Value.unusable {α : Type} (v : Value) : Except Error α := do
  throw (.unusableValue (← v.shown) v.kind)

/-- What a field holds for a value: progressions and pairs become intervals, nothing becomes the empty
text, and what a query cannot hold is refused. -/
def Value.content (v : Value) : Except Error Value :=
  match v with
  | .null => .ok (.text "")
  | .range r => .ok (.range r)
  | .progression p => (Interval.ofProgression p).map .range
  | .tuple [lower, upper] => (Interval.ofBounds lower upper).map .range
  | .timestamp t => .ok (.timestamp t)
  | .expression e => .ok (.expression e)
  | .option o => .ok (.option o)
  | v => if v.text?.isSome || v.isNumber then .ok v else v.unusable

def Value.fieldName? (name : Value) : Except Fault (Option String) :=
  if name.isBlank then .ok none else name.asText.map some

namespace FieldValue

/-- The field of a name and a value, given the conditions that the value stands for. The name of an
operator makes a nested expression of them, and a finished field is renamed. -/
def ofNamed (name value : Value) (conditions : List Condition) : Except Error FieldValue :=
  match name.operator? with
  | some operator => do
    let e ← Expression.ofConditions operator conditions
    return ⟨.expression e, none⟩
  | none => do
    let name ← name.fieldName?
    match value with
    | .field f => return { f with name }
    | value => return ⟨← value.content, name⟩

def ofUnnamed (value : Value) : Except Error FieldValue :=
  ofNamed .null value []

end FieldValue

/-- A value read as one condition, and as a condition list. -/
structure Reading where
  entry : Condition
  conditions : List Condition

/-- A pair as a condition: it is named if its first part is a text that is not empty; any other pair
is an interval to match. -/
def Condition.ofPair (key value : Value) (reading : Reading) : Condition :=
  match key.text? with
  | some s =>
    if s.isEmpty then .positional ((FieldValue.ofUnnamed (.tuple [key, value])).map some)
    else .named s value (FieldValue.ofNamed key value reading.conditions)
  | none => .positional ((FieldValue.ofUnnamed (.tuple [key, value])).map some)

def Reading.single (c : Condition) : Reading := ⟨c, [c]⟩

mutual

/-- The two readings of a value. A list stands for its items, a mapping for its entries as named pairs,
nothing for no condition, and any other value for itself. As a single condition a mapping is a field
if it has one entry. -/
def Value.reading : Value → Reading
  | .null => ⟨.skipped, []⟩
  | .option o => .single (.option o)
  | .field f => .single (.positional (.ok (some f)))
  | .list items =>
    ⟨.positional ((FieldValue.ofUnnamed (.list items)).map some), (readItems items).map (·.entry)⟩
  | .tuple items =>
    match items, readItems items with
    | [key, value], [_, reading] => .single (Condition.ofPair key value reading)
    | _, _ => .single (.positional ((FieldValue.ofUnnamed (.tuple items)).map some))
  | .mapping entries =>
    let read := readEntries entries
    let entry := match read with
      | [(key, value, reading)] =>
        (FieldValue.ofNamed key value reading.conditions).map some
      | _ => .ok none
    ⟨.positional entry, read.map fun (key, value, reading) => Condition.ofPair key value reading⟩
  | v => .single (.positional ((FieldValue.ofUnnamed v).map some))

def readItems : List Value → List Reading
  | [] => []
  | item :: rest => item.reading :: readItems rest

def readEntries : List (Value × Value) → List (Value × Value × Reading)
  | [] => []
  | (key, value) :: rest => (key, value, value.reading) :: readEntries rest

end

def Value.conditions (v : Value) : List Condition :=
  v.reading.conditions

namespace FieldValue

def new (name value : Value) : Except Error FieldValue :=
  ofNamed name value value.conditions

/-- The field that a value stands for by itself: a finished field, or the only entry of a mapping with
its key as the name. A mapping of more entries, or none, is no field. -/
def ofValue : Value → Except Error (Option FieldValue)
  | .field f => .ok (some f)
  | .mapping [(name, value)] => (new name value).map some
  | .mapping _ => .ok none
  | v => (ofUnnamed v).map some

end FieldValue

/-- The expression of an operator, given as a value, with the conditions that a value stands for. -/
def Expression.new (operator conditions : Value) : Except Error Expression :=
  match operator.operator? with
  | some known => ofConditions known conditions.conditions
  | none => do throw (.unknownOperator (← operator.asText))

end StructuredQuery
