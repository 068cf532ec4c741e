import StructuredQuery.Error
import StructuredQuery.Value.Mapping
import StructuredQuery.Value.Order

/-!
Intervals made from bounds. The bounds that are present must be of one family (numbers, timestamps or
texts), and at least one must be present; a missing bound is never inclusive.
-/

namespace StructuredQuery

/-- The families of values that have an order among themselves. -/
inductive Family
  | number
  | timestamp
  | text
deriving DecidableEq, Repr

def Value.family? (v : Value) : Option Family :=
  match v with
  | .timestamp _ => some .timestamp
  | v => if v.isNumber then some .number else if v.text?.isSome then some .text else none

namespace Interval

/-- Succeeds if some bound is present and all that are present are of one family. -/
def check (bounds : List Value) : Except Error Unit :=
  let present := bounds.filter fun v => !v.isBlank
  match present.map Value.family? with
  | [] => .error .openRange
  | first :: others =>
    if first.isSome && others.all (· = first) then .ok () else .error (.rangeType present)

/-- A bound that is blank is missing. -/
def present (v : Value) : Value :=
  if v.isBlank then .null else v

/-- The bound of a side and whether it is inclusive: an inclusive one wins over an exclusive one. -/
def side (inclusive exclusive : Value) : Value × Bool :=
  if !inclusive.isBlank then (inclusive, true) else (present exclusive, false)

/-- The interval between two bounds that belong to it; a blank one leaves its side open. -/
def ofBounds (lower upper : Value) : Except Error Interval := do
  check [lower, upper]
  return ⟨present lower, !lower.isBlank, present upper, !upper.isBlank⟩

/-- The interval with an inclusive or an exclusive bound on each side. -/
def ofDescriptor (lower lowerExclusive upper upperExclusive : Value) : Except Error Interval := do
  check [lower, lowerExclusive, upper, upperExclusive]
  let (low, lowInclusive) := side lower lowerExclusive
  let (high, highInclusive) := side upper upperExclusive
  return ⟨low, lowInclusive, high, highInclusive⟩

def descriptorKeys : List String := ["lower", "lower_exclusive", "upper", "upper_exclusive"]

def isDescriptorKey (key : Value) : Bool :=
  match key.text? with
  | some s => descriptorKeys.contains s
  | none => false

/-- The interval that a mapping from those keys describes; any other key is refused. -/
def ofMapping (entries : List (Value × Value)) : Except Error Interval := do
  let unknown := (entries.map (·.1)).filter fun key => !isDescriptorKey key
  if unknown.isEmpty then
    let bound (key : String) := (Mapping.get? key entries).getD .null
    ofDescriptor (bound "lower") (bound "lower_exclusive") (bound "upper") (bound "upper_exclusive")
  else throw (.rangeType (← sortValues unknown))

/-- The interval with bounds given by name; of several of one name the last counts. -/
def ofArguments (given : List (String × Value)) : Except Error Interval :=
  if given.all fun (name, _) => descriptorKeys.contains name then
    ofMapping (given.foldl (fun es (name, value) => Mapping.put (.text name) value es) [])
  else .error (.fault .wrongKind)

/-- From the first to the last member of a progression, both of which belong to it. -/
def ofProgression (p : Progression) : Except Error Interval :=
  match p.last? with
  | some last => ofBounds (.int p.start) (.int last)
  | none => .error .openRange

/-- The interval that a value describes: itself, a progression, a mapping or a pair of bounds. -/
def ofValue : Value → Except Error Interval
  | .range r => .ok r
  | .progression p => ofProgression p
  | .mapping entries => ofMapping entries
  | .tuple [lower, upper] => ofBounds lower upper
  | v => .error (.rangeType [v])

end Interval

end StructuredQuery
