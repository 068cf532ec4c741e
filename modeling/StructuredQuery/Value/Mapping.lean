import StructuredQuery.Value.Equal

/-!
Mappings made entry by entry. A repeated key keeps its place and takes the new value.
-/

namespace StructuredQuery

mutual

/-- Whether a value may be a key: nothing in it is a list, a mapping or a signaling decimal. -/
def Value.isKey : Value → Bool
  | .list _ => false
  | .mapping _ => false
  | .decimal (.nan _ signaling _) => !signaling
  | .tuple items => allKeys items
  | .range r => r.isKey
  | .field f => f.isKey
  | .expression e => e.isKey
  | _ => true

def allKeys : List Value → Bool
  | [] => true
  | item :: rest => item.isKey && allKeys rest

def Interval.isKey : Interval → Bool
  | ⟨lower, _, upper, _⟩ => lower.isKey && upper.isKey

def FieldValue.isKey : FieldValue → Bool
  | ⟨value, _⟩ => value.isKey

def Expression.isKey : Expression → Bool
  | ⟨_, _, fields⟩ => allFieldKeys fields

def allFieldKeys : List FieldValue → Bool
  | [] => true
  | field :: rest => field.isKey && allFieldKeys rest

end

namespace Mapping

def sameKey (a b : Value) : Bool :=
  match a.equal b with
  | .ok same => same
  | .error _ => false

/-- The entries with a value put under a key: in the key's place if it is there, else at the end. -/
def put (key value : Value) : List (Value × Value) → List (Value × Value)
  | [] => [(key, value)]
  | (k, v) :: rest => if sameKey key k then (k, value) :: rest else (k, v) :: put key value rest

def ofEntries (entries : List (Value × Value)) : Except Fault Value :=
  if entries.all fun entry => entry.1.isKey then
    .ok (.mapping (entries.foldl (fun es entry => put entry.1 entry.2 es) []))
  else .error .wrongKind

def get? (key : String) (entries : List (Value × Value)) : Option Value :=
  (entries.find? fun entry => entry.1.text? == some key).map (·.2)

end Mapping

end StructuredQuery
