import StructuredQuery.Number.Integer
import StructuredQuery.Number.Shortest
import StructuredQuery.Text.Shown
import StructuredQuery.Value.Basic

/-!
Values as messages show them: the constructor with its parts, texts between quotes. An integer of too
many digits cannot be shown, and then neither can what holds it.
-/

namespace StructuredQuery

open Text

def commas (parts : List String) : String :=
  ", ".intercalate parts

def Date.shown (d : Date) : String :=
  s!"datetime.date({d.year}, {d.month}, {d.day})"

/-- Hours and minutes; seconds and microseconds as far as they are needed. -/
def TimeOfDay.parts (t : TimeOfDay) : List Nat :=
  [t.hour, t.minute] ++
    (if t.microsecond ≠ 0 then [t.second, t.microsecond]
     else if t.second ≠ 0 then [t.second] else [])

def TimeOfDay.shown (t : TimeOfDay) : String :=
  "datetime.time(" ++ commas (t.parts.map toString) ++ ")"

/-- An offset as the call that makes it: days and seconds of a distance, the seconds never negative. -/
def Offset.shown (o : Offset) : String :=
  if o.seconds = 0 then "datetime.timezone.utc"
  else if o.seconds < 0 then
    s!"datetime.timezone(datetime.timedelta(days=-1, seconds={o.seconds + 86400}))"
  else s!"datetime.timezone(datetime.timedelta(seconds={o.seconds}))"

def Timestamp.shown (t : Timestamp) : String :=
  let parts := ([t.date.year, t.date.month, t.date.day] ++ t.time.parts).map toString
  let clock := t.offset.elim [] fun o => ["tzinfo=" ++ o.shown]
  "datetime.datetime(" ++ commas (parts ++ clock) ++ ")"

def shownBool (b : Bool) : String :=
  if b then "True" else "False"

def shownText? (s : Option String) : String :=
  s.elim "None" Text.shown

def Operator.shown (o : Operator) : String :=
  s!"<Operator.{o.text.toUpper}: {Text.shown o.text}>"

def OptionName.shown (o : OptionName) : String :=
  s!"<OptionName.{o.text.toUpper}: {Text.shown o.text}>"

def OperatorOption.shown (o : OperatorOption) : String :=
  s!"OperatorOption(name={o.name.shown}, value={shownText? o.value})"

/-- Parts in round brackets; a single one is followed by a comma. -/
def shownTuple : List String → String
  | [part] => "(" ++ part ++ ",)"
  | parts => "(" ++ commas parts ++ ")"

mutual

def Value.shown : Value → Except Fault String
  | .null => .ok "None"
  | .bool b => .ok (shownBool b)
  | .int n => Integer.write n
  | .float x => .ok x.write
  | .decimal d => .ok s!"Decimal('{d.write}')"
  | .text s => .ok (Text.shown s)
  | .operator o => .ok o.shown
  | .optionName o => .ok o.shown
  | .member enumeration name value => do
    let held ← value.shown
    return s!"<{enumeration}.{name}: {held}>"
  | .timestamp t => .ok t.shown
  | .date d => .ok d.shown
  | .time t => .ok t.shown
  | .bytes bs => .ok (shownBytes bs)
  | .list items => do return "[" ++ commas (← shownItems items) ++ "]"
  | .tuple items => do return shownTuple (← shownItems items)
  | .progression p => do
    let start ← Integer.write p.start
    let stop ← Integer.write p.stop
    let step ← Integer.write p.step
    return "range(" ++ commas ([start, stop] ++ if p.step = 1 then [] else [step]) ++ ")"
  | .mapping entries => do return "\x7b" ++ commas (← shownEntries entries) ++ "\x7d"
  | .option o => .ok o.shown
  | .range r => r.shown
  | .field f => f.shown
  | .expression e => e.shown

def shownItems : List Value → Except Fault (List String)
  | [] => .ok []
  | item :: rest => do return (← item.shown) :: (← shownItems rest)

def shownEntries : List (Value × Value) → Except Fault (List String)
  | [] => .ok []
  | (key, value) :: rest => do
    let left ← key.shown
    let right ← value.shown
    return s!"{left}: {right}" :: (← shownEntries rest)

def Interval.shown : Interval → Except Fault String
  | ⟨lower, lowerInclusive, upper, upperInclusive⟩ => do
    let low ← lower.shown
    let high ← upper.shown
    return s!"Range(lower={low}, lower_inclusive={shownBool lowerInclusive}, " ++
      s!"upper={high}, upper_inclusive={shownBool upperInclusive})"

def FieldValue.shown : FieldValue → Except Fault String
  | ⟨value, name⟩ => do
    let content ← value.shown
    return s!"FieldValue(value={content}, name={shownText? name})"

def Expression.shown : Expression → Except Fault String
  | ⟨operator, options, fields⟩ => do
    let parts := shownTuple (options.map OperatorOption.shown)
    let held := shownTuple (← shownFields fields)
    return s!"Expression(operator={operator.shown}, options={parts}, fields={held})"

def shownFields : List FieldValue → Except Fault (List String)
  | [] => .ok []
  | field :: rest => do return (← field.shown) :: (← shownFields rest)

end

end StructuredQuery
