import StructuredQuery.Value.Basic

/-!
Values made from parts that need not fit together: a day that no month has, or a step of zero, makes no
value.
-/

namespace StructuredQuery.Value

/-- A part that is missing makes no value. -/
def ofPart {α : Type} (make : α → Value) (found : Option α) : Except Fault Value :=
  found.elim (.error .invalidParts) fun a => .ok (make a)

def ofDateParts (year month day : Nat) : Except Fault Value :=
  ofPart .date (Date.ofParts? year month day)

def ofTimeParts (hour minute second microsecond : Nat) : Except Fault Value :=
  ofPart .time (TimeOfDay.ofParts? hour minute second microsecond)

def ofTimestampParts (date time : Value) (offset : Option Int) : Except Fault Value :=
  match date, time, offset with
  | .date d, .time t, none => .ok (.timestamp ⟨d, t, none⟩)
  | .date d, .time t, some seconds =>
    ofPart (fun o => .timestamp ⟨d, t, some o⟩) (Offset.ofSeconds? seconds)
  | _, _, _ => .error .wrongKind

def ofProgressionParts (start stop step : Int) : Except Fault Value :=
  ofPart .progression (Progression.ofParts? start stop step)

/-- An integer in decimal of not too many digits. -/
def ofIntegerText (text : String) : Except Fault Value :=
  match text.toList with
  | '-' :: digits => (Integer.read true digits).map .int
  | digits => (Integer.read false digits).map .int

def ofFloatText (text : String) : Except Fault Value :=
  ofPart .float (Binary64.ofText? text)

def ofDecimalText (text : String) : Except Fault Value :=
  (Decimal.ofText? text).map .decimal

end StructuredQuery.Value
