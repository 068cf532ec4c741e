import StructuredQuery.Value.Equal

/-!
The order of values, as far as they have one: numbers among themselves, texts, byte strings, points in
time, and tuples of such. A list is sorted by inserting its values one after the other.
-/

namespace StructuredQuery

/-- The instant of a timestamp in microseconds, if its offset is known. -/
def Timestamp.instant? (t : Timestamp) : Option Int :=
  t.offset.map fun o => t.clock - o.seconds * 1000000

/-- Whether the first timestamp is the earlier; a known offset is not comparable with an unknown one. -/
def Timestamp.less (a b : Timestamp) : Except Fault Bool :=
  match a.instant?, b.instant? with
  | some s, some t => .ok (s < t)
  | none, none => .ok (a.clock < b.clock)
  | _, _ => .error .wrongKind

/-- Decimals without a value may not be ordered. -/
def Value.isUndefinedDecimal : Value → Bool
  | .decimal (.nan _ _ _) => true
  | _ => false

def Value.lessFlat (a b : Value) : Except Fault Bool :=
  match a, b with
  | .timestamp s, .timestamp t => s.less t
  | .date s, .date t => .ok (s.ordinal < t.ordinal)
  | .time s, .time t => .ok (s.microseconds < t.microseconds)
  | .bytes s, .bytes t => .ok (s < t)
  | a, b =>
    match a.quantity?, b.quantity?, a.text?, b.text? with
    | some x, some y, _, _ =>
      if a.isUndefinedDecimal || b.isUndefinedDecimal then .error .invalidDecimal
      else .ok (x.less y)
    | _, _, some s, some t => .ok (s < t)
    | _, _, _, _ => .error .wrongKind

mutual

def Value.less (a b : Value) : Except Fault Bool :=
  match a, b with
  | .tuple xs, .tuple ys => itemsLess xs ys
  | a, b => a.lessFlat b
termination_by structural a

/-- The order of two rows is that of the first items that differ; a beginning comes first. -/
def itemsLess (xs ys : List Value) : Except Fault Bool :=
  match xs, ys with
  | x :: xs, y :: ys => do if ← x.equal y then itemsLess xs ys else x.less y
  | [], _ :: _ => .ok true
  | _, _ => .ok false
termination_by structural xs

end

/-- A sorted row with one more value, behind those that it does not come before. -/
def insertSorted (v : Value) : List Value → Except Fault (List Value)
  | [] => .ok [v]
  | w :: rest => do
    if ← v.less w then return v :: w :: rest
    else return w :: (← insertSorted v rest)

def sortValues (vs : List Value) : Except Fault (List Value) :=
  vs.foldlM (fun sorted v => insertSorted v sorted) []

end StructuredQuery
