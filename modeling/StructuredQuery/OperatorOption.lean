import StructuredQuery.Error
import StructuredQuery.Text.Blank

/-!
Options of operators. An option is a bare word in a query, so its word has no blanks and no brackets;
a value that gives no such word makes no option.
-/

namespace StructuredQuery

/-- What a value amounts to: a member of an enumeration stands for its value. -/
def Value.underlying : Value → Value
  | .member _ _ value => value.underlying
  | v => v

/-- The word for an option's value, if it has one; that of a member of an enumeration is the word for
the member's value. -/
def Value.word? : Value → Except Fault (Option String)
  | .bool b => .ok (some (if b then "true" else "false"))
  | .member _ _ value => value.word?
  | v =>
    match v.text? with
    | some s => .ok (if Text.isWord s.toList then some s else none)
    | none => if v.isNumber then v.asText.map some else .ok none

namespace OperatorOption

/-- The option of a name and a value, if the name is known and the value has a word. A finished option
in the place of the name is kept. -/
def new (name value : Value) : Except Fault (Option OperatorOption) :=
  match name with
  | .option o => .ok (some o)
  | name =>
    if value.isNull then .ok none
    else match name.optionName? with
      | none => .ok none
      | some known => do return (← value.word?).map fun word => ⟨known, some word⟩

/-- The two parts of a pair: a row of two, or the keys of a mapping of two. Texts and progressions of
two give no pair, as neither a single letter nor a number names an option. -/
def pair? : Value → Option (Value × Value)
  | .list [name, value] => some (name, value)
  | .tuple [name, value] => some (name, value)
  | .mapping [(name, _), (value, _)] => some (name, value)
  | _ => none

def ofPair (pair : Value) : Except Fault (Option OperatorOption) :=
  match pair with
  | .option o => .ok (some o)
  | pair =>
    match pair? pair with
    | some (name, value) => new name value
    | none => .ok none

end OperatorOption

end StructuredQuery
