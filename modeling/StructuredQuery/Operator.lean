/-!
The operators of structured queries, their options, and the rules each operator sets for its fields.
-/

namespace StructuredQuery

inductive Operator
  | and
  | near
  | not
  | or
  | phrase
  | beginning
  | range
  | term
deriving DecidableEq, Repr

inductive OptionName
  | boost
  | distance
  | field
deriving DecidableEq, Repr

namespace OptionName

def all : List OptionName := [.boost, .distance, .field]

def text : OptionName → String
  | .boost => "boost"
  | .distance => "distance"
  | .field => "field"

def ofText? (word : String) : Option OptionName :=
  all.find? (·.text = word)

theorem ofText?_text (a : OptionName) : ofText? a.text = some a := by
  cases a <;> decide

end OptionName

namespace Operator

def all : List Operator := [.and, .near, .not, .or, .phrase, .beginning, .range, .term]

def text : Operator → String
  | .and => "and"
  | .near => "near"
  | .not => "not"
  | .or => "or"
  | .phrase => "phrase"
  | .beginning => "prefix"
  | .range => "range"
  | .term => "term"

def ofText? (word : String) : Option Operator :=
  all.find? (·.text = word)

/-- The options that an operator accepts, in the order they are written in. -/
def accepted : Operator → List OptionName
  | .and => [.boost]
  | .or => [.boost]
  | .near => [.boost, .distance, .field]
  | _ => [.boost, .field]

/-- Conjunctions and disjunctions take any number of fields, the other operators exactly one. -/
def isSingle : Operator → Bool
  | .and => false
  | .or => false
  | _ => true

theorem ofText?_text (a : Operator) : ofText? a.text = some a := by
  cases a <;> decide

theorem eq_text_of_ofText? {word : String} {a : Operator} (h : ofText? word = some a) : word = a.text := by
  have hfound : a.text = word := by simpa using List.find?_some h
  exact hfound.symm

end Operator

end StructuredQuery
