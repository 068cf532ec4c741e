import StructuredQuery.Text.Escape
import StructuredQuery.Value.Shown

/-!
Values in query text. Numbers stand for themselves, texts are quoted, a missing bound leaves its side
of an interval open, and an expression encloses its parts in round brackets. A text that already looks
like an expression or an interval is taken over as it is.
-/

namespace StructuredQuery

open Text

def Text.isParenthesized (s : List Char) : Bool :=
  s.head? == some '(' && s.getLast? == some ')'

/-- Whether a text looks like an interval: its part before the first comma starts with an opening
bracket and its part after it ends with a closing one. -/
def Text.isRangeText (s : List Char) : Bool :=
  let low := s.takeWhile (· ≠ ',')
  match s.dropWhile (· ≠ ',') with
  | [] => false
  | _ :: high =>
    (low.head? == some '[' || low.head? == some '{') &&
      (high.getLast? == some ']' || high.getLast? == some '}')

/-- Texts that are taken over into a query as they are. -/
def Text.isOpaque (s : List Char) : Bool :=
  isParenthesized s || isRangeText s

/-- A timestamp between quotes; its text holds nothing to escape. -/
def Timestamp.quoted (t : Timestamp) : List Char :=
  '\'' :: (t.iso ++ ['\''])

/-- The option with its word, or nothing if it has none. -/
def OperatorOption.written (o : OperatorOption) : List Char :=
  o.value.elim [] fun word => o.name.text.toList ++ '=' :: word.toList

/-- Parts with a space between each two; empty ones are left out. -/
def joinWords (parts : List (List Char)) : List Char :=
  [' '].intercalate (parts.filter fun part => !part.isEmpty)

/-- A bound that is present, given its own text: anything but a number or timestamp is quoted. -/
def writeBound (v : Value) (text : Except Fault (List Char)) : Except Fault (List Char) :=
  match v with
  | .timestamp t => .ok t.quoted
  | v => if v.isNumber then text else text.map quote

/-- What a field is matched against, given the value's own text. Only texts, numbers, timestamps and
parts of queries can be matched; an option shows nothing. -/
def writeContent (v : Value) (text : Except Fault (List Char)) : Except Fault (List Char) :=
  match v with
  | .range _ => text
  | .expression _ => text
  | .option _ => .ok []
  | .timestamp t => .ok t.quoted
  | .bytes _ => .error .wrongKind
  | v =>
    if v.isNumber then text
    else match v.text? with
      | some s => .ok (if isOpaque s.toList then s.toList else quote s.toList)
      | none => .error .missingPart

/-- A name in front of its content; a name with nothing to match stands alone. -/
def writeNamed (name : Option String) (content : List Char) : List Char :=
  match name with
  | none => content
  | some n => if content.isEmpty then n.toList else n.toList ++ ':' :: content

mutual

/-- The text of a value by itself: texts as they are, parts of queries in query text, anything else as
messages show it. -/
def Value.written : Value → Except Fault (List Char)
  | .text s => .ok s.toList
  | .operator o => .ok o.text.toList
  | .optionName o => .ok o.text.toList
  | .member enumeration name _ => .ok (enumeration.toList ++ '.' :: name.toList)
  | .decimal d => .ok d.write.toList
  | .timestamp t => .ok (t.isoWith ' ')
  | .date d => .ok d.iso
  | .time t => .ok t.iso
  | .option o => .ok o.written
  | .range r => r.written
  | .field f => f.written
  | .expression e => e.written
  | v => v.shown.map String.toList

def Interval.written : Interval → Except Fault (List Char)
  | ⟨lower, lowerInclusive, upper, upperInclusive⟩ => do
    let low ← if lower.isNull then pure ['{'] else
      (writeBound lower lower.written).map ((if lowerInclusive then '[' else '{') :: ·)
    let high ← if upper.isNull then pure ['}'] else
      (writeBound upper upper.written).map (· ++ [if upperInclusive then ']' else '}'])
    return low ++ ',' :: high

def FieldValue.written : FieldValue → Except Fault (List Char)
  | ⟨value, name⟩ => (writeContent value value.written).map (writeNamed name)

def Expression.written : Expression → Except Fault (List Char)
  | ⟨operator, options, fields⟩ => do
    let parts := operator.text.toList :: options.map OperatorOption.written
    return '(' :: (joinWords (parts ++ (← writtenFields fields)) ++ [')'])

def writtenFields : List FieldValue → Except Fault (List (List Char))
  | [] => .ok []
  | field :: rest => do return (← field.written) :: (← writtenFields rest)

end

namespace Value

def asText (v : Value) : Except Fault String :=
  v.written.map String.ofList

end Value

def Interval.render (r : Interval) : Except Fault String :=
  r.written.map String.ofList

def FieldValue.render (f : FieldValue) : Except Fault String :=
  f.written.map String.ofList

def Expression.render (e : Expression) : Except Fault String :=
  e.written.map String.ofList

end StructuredQuery
