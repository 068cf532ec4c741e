import StructuredQuery.Interval
import StructuredQuery.Value.Mapping

/-!
Query documents. A decoded document is plain data; here it is brought into the form of conditions. A
table gives its entries as named pairs, an array of two scalars is a pair of bounds, and a table of
nothing but bounds is an interval.
-/

namespace StructuredQuery.Document

/-- Values without parts of their own. -/
def isScalar : Value → Bool
  | .list _ => false
  | .tuple _ => false
  | .mapping _ => false
  | _ => true

def bounds? : List Value → Option (Value × Value)
  | [lower, upper] => if isScalar lower && isScalar upper then some (lower, upper) else none
  | _ => none

/-- Whether a table describes an interval: it has entries, and all of them are bounds. -/
def isRangeTable (entries : List (Value × Value)) : Bool :=
  !entries.isEmpty && entries.all fun entry => Interval.isDescriptorKey entry.1

/-- The pair of an array of bounds; any other array within a condition list is passed over. -/
def ofArray (items : List Value) : List Value :=
  match bounds? items with
  | some (lower, upper) => [.tuple [lower, upper]]
  | none => []

mutual

/-- The condition list that a value of a document stands for. -/
def conditions : Value → Except Error (List Value)
  | .mapping entries =>
    if isRangeTable entries then (Interval.ofMapping entries).map fun r => [.range r]
    else pairs entries
  | .list items => conditionsOfItems items
  | v => .ok [v]

def conditionsOfItems : List Value → Except Error (List Value)
  | [] => .ok []
  | .mapping entries :: rest => do
    let first ←
      if isRangeTable entries then (Interval.ofMapping entries).map fun r => [Value.range r]
      else pairs entries
    return first ++ (← conditionsOfItems rest)
  | .list items :: rest => do return ofArray items ++ (← conditionsOfItems rest)
  | v :: rest => do return v :: (← conditionsOfItems rest)

def pairs : List (Value × Value) → Except Error (List Value)
  | [] => .ok []
  | (key, value) :: rest => do
    let name ← key.asText
    let value ← namedValue name value
    return .tuple [.text name, value] :: (← pairs rest)

/-- The value of a named pair. Under an operator stand the conditions of a nested expression; else an
array of two scalars is a pair of bounds, a table of bounds an interval, and any other array or table
a condition list. -/
def namedValue (name : String) : Value → Except Error Value
  | .mapping entries =>
    if isRangeTable entries then
      if (Operator.ofText? name).isSome then
        (Interval.ofMapping entries).map fun r => .list [.range r]
      else (Interval.ofMapping entries).map .range
    else (pairs entries).map .list
  | .list items =>
    match (if (Operator.ofText? name).isSome then none else bounds? items) with
    | some (lower, upper) => .ok (.tuple [lower, upper])
    | none => (conditionsOfItems items).map .list
  | v => .ok (if (Operator.ofText? name).isSome then .list [v] else v)

end

/-- The tables of a document: itself, its items, or the items under `query` if it has nothing else. -/
def tables : Value → Except Error (List Value)
  | .mapping [(.text "query", .list items)] => .ok items
  | .mapping entries => .ok [.mapping entries]
  | .list items => .ok items
  | v => .error (.documentShape s!"expected a table or list, got {v.kind}")

def queriesOfTable : Value → Except Error (List Value)
  | .mapping entries => entries.mapM fun (key, value) => do
    let operator ← key.asText
    return .tuple [.text operator, .list (← conditions value)]
  | v => do
    let shown ← v.shown
    throw (.documentShape s!"query entries must be tables, got {shown}")

/-- The pairs of operator and conditions that a document describes, in its order. -/
def queries (data : Value) : Except Error (List Value) := do
  return (← (← tables data).mapM queriesOfTable).flatten

end StructuredQuery.Document
