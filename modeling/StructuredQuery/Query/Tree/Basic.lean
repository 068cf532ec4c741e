import StructuredQuery.Query.Terminal

/-!
The syntax of query text. An expression is an operator with its items in round brackets; an item is an
option or a field, and a field holds a number, a string, an interval or a nested expression.
-/

namespace StructuredQuery.Query

inductive Scalar
  | number (n : NumberText)
  | text (body : List Char)
deriving DecidableEq, Repr

mutual

inductive Term
  | scalar (s : Scalar)
  | range (lowerInclusive : Bool) (lower upper : Option Scalar) (upperInclusive : Bool)
  | expression (e : Tree)

inductive Item
  | option (name : OptionName) (word : List Char)
  | field (name : Option (List Char)) (term : Term)

inductive Tree
  | node (operator : List Char) (items : List Item)

end

def scalar? (cs : List Char) : Option (Scalar × List Char) :=
  match string? cs with
  | some (body, rest) => some (.text body, rest)
  | none => (number? cs).map fun (n, rest) => (.number n, rest)

def bound (cs : List Char) : Option Scalar × List Char :=
  match scalar? cs with
  | some (s, rest) => (some s, skipSpaces rest)
  | none => (none, cs)

/-- The comma between two bounds, the upper bound and the bracket that closes the interval. -/
def upperBound? : List Char → Option (Option Scalar × Bool × List Char)
  | ',' :: rest =>
    match bound (skipSpaces rest) with
    | (upper, ']' :: rest) => some (upper, true, rest)
    | (upper, '}' :: rest) => some (upper, false, rest)
    | _ => none
  | _ => none

def interval? (lowerInclusive : Bool) (cs : List Char) : Option (Term × List Char) :=
  let (lower, rest) := bound (skipSpaces cs)
  (upperBound? rest).map fun (upper, upperInclusive, rest) =>
    (.range lowerInclusive lower upper upperInclusive, rest)

/-- Everything that a field may hold but a nested expression. -/
def flatTerm? (cs : List Char) : Option (Term × List Char) :=
  match cs with
  | '[' :: rest => interval? true rest
  | '{' :: rest => interval? false rest
  | _ => (scalar? cs).map fun (s, rest) => (.scalar s, rest)

def opening? : List Char → Option (List Char × List Char)
  | '(' :: rest => Text.run? isOperatorChar (skipSpaces rest)
  | _ => none

def closing? : List Char → Option (List Char)
  | ')' :: rest => some rest
  | _ => none

/-- The front of an item: a whole option, or the name of a field if it has one. -/
inductive Head
  | option (name : OptionName) (word : List Char)
  | field (name : Option (List Char))

/-- The front of an item. A name must be followed by a colon, or by an equals sign if it names an
option. -/
def head? (cs : List Char) : Option (Head × List Char) :=
  match name? cs with
  | none => some (.field none, cs)
  | some (name, rest) =>
    match skipSpaces rest with
    | ':' :: rest => some (.field (some name), skipSpaces rest)
    | '=' :: rest => do
      let known ← OptionName.ofText? (String.ofList name)
      let (word, rest) ← Text.run? Text.isWordChar (skipSpaces rest)
      return (.option known word, rest)
    | _ => none

/-- The items of an expression up to the bracket that closes it. The text only ever gets shorter, so the
guards on its length always hold. -/
def items? (cs : List Char) : Option (List Item × List Char) :=
  match closing? (skipSpaces cs) with
  | some rest => some ([], rest)
  | none =>
    match head? (skipSpaces cs) with
    | none => none
    | some (.option name word, rest) =>
      if _h : rest.length < cs.length then
        (items? rest).map fun (items, rest) => (.option name word :: items, rest)
      else none
    | some (.field name, rest) =>
      match flatTerm? rest with
      | some (term, rest) =>
        if _h : rest.length < cs.length then
          (items? rest).map fun (items, rest) => (.field name term :: items, rest)
        else none
      | none =>
        match opening? rest with
        | none => none
        | some (operator, rest) =>
          if _h : rest.length < cs.length then
            match items? rest with
            | none => none
            | some (nested, rest) =>
              if _h : rest.length < cs.length then
                (items? rest).map fun (items, rest) =>
                  (.field name (.expression (.node operator nested)) :: items, rest)
              else none
          else none
termination_by cs.length

def Tree.ofText? (cs : List Char) : Option Tree := do
  let (operator, rest) ← opening? cs
  let (items, rest) ← items? rest
  if rest.isEmpty then some (.node operator items) else none

end StructuredQuery.Query
