import StructuredQuery.Number.Quantity
import StructuredQuery.Value.Basic

/-!
When two values count as equal. Numbers are compared by what they amount to, names of operators and
options as texts, members of other enumerations by their names, timestamps by the instant if it is
known; lists, tuples and progressions part by part, mappings without regard to order. A comparison fails only on a
signaling decimal.
-/

namespace StructuredQuery

/-- What a value amounts to if it is a number; a truth value counts as zero or one. -/
def Value.quantity? : Value → Option Quantity
  | .bool b => some (.ofInt (if b then 1 else 0))
  | .int n => some (.ofInt n)
  | .float x => some (.ofBinary64 x)
  | .decimal d => some (.ofDecimal d)
  | _ => none

/-- The comparison of the value found under a key, or false if the key is missing. -/
def atKey (isKey same : Value → Except Fault Bool) : List (Value × Value) → Except Fault Bool
  | [] => .ok false
  | (key, value) :: rest => do if ← isKey key then same value else atKey isKey same rest

mutual

def Value.equal (a b : Value) : Except Fault Bool :=
  match a, b with
  | .null, .null => .ok true
  | .timestamp s, .timestamp t => .ok (s.equal t)
  | .date s, .date t => .ok (s = t)
  | .time s, .time t => .ok (s = t)
  | .bytes s, .bytes t => .ok (s = t)
  | .progression p, .progression q => .ok (p.equal q)
  | .member enumeration name _, .member enumeration' name' _ =>
    .ok (enumeration = enumeration' ∧ name = name')
  | .option o, .option p => .ok (o = p)
  | .list xs, .list ys => if xs.length = ys.length then itemsEqual xs ys else .ok false
  | .tuple xs, .tuple ys => itemsEqual xs ys
  | .mapping es, .mapping fs => if es.length = fs.length then entriesEqual es fs else .ok false
  | .range r, .range s => r.equal s
  | .field f, .field g => f.equal g
  | .expression e, .expression f => e.equal f
  | a, b =>
    match a.quantity?, b.quantity?, a.text?, b.text? with
    | some x, some y, _, _ => x.equal y
    | _, _, some s, some t => .ok (s = t)
    | _, _, _, _ => .ok false
termination_by structural a

def itemsEqual (xs ys : List Value) : Except Fault Bool :=
  match xs, ys with
  | [], [] => .ok true
  | x :: xs, y :: ys => do if ← x.equal y then itemsEqual xs ys else return false
  | _, _ => .ok false
termination_by structural xs

def entriesEqual (es fs : List (Value × Value)) : Except Fault Bool :=
  match es with
  | [] => .ok true
  | (key, value) :: rest => do
    if ← atKey (fun k => key.equal k) (fun v => value.equal v) fs then entriesEqual rest fs
    else return false
termination_by structural es

def Interval.equal (r s : Interval) : Except Fault Bool :=
  match r, s with
  | ⟨lower, lowerInclusive, upper, upperInclusive⟩, ⟨lower', lowerInclusive', upper', upperInclusive'⟩ => do
    if ← lower.equal lower' then
      if lowerInclusive = lowerInclusive' then
        if ← upper.equal upper' then return upperInclusive = upperInclusive'
    return false
termination_by structural r

def FieldValue.equal (f g : FieldValue) : Except Fault Bool :=
  match f, g with
  | ⟨value, name⟩, ⟨value', name'⟩ => do
    if ← value.equal value' then return name = name' else return false
termination_by structural f

/-- Whether two expressions have the same operator and options, and equal fields. -/
def Expression.equal (e f : Expression) : Except Fault Bool :=
  match e, f with
  | ⟨operator, options, fields⟩, ⟨operator', options', fields'⟩ =>
    if operator = operator' ∧ options = options' then fieldsEqual fields fields' else .ok false
termination_by structural e

def fieldsEqual (fs gs : List FieldValue) : Except Fault Bool :=
  match fs, gs with
  | [], [] => .ok true
  | f :: fs, g :: gs => do if ← f.equal g then fieldsEqual fs gs else return false
  | _, _ => .ok false
termination_by structural fs

end

end StructuredQuery
