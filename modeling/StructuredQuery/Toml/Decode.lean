import StructuredQuery.Toml.Scalar
import StructuredQuery.Toml.Table

/-!
TOML texts decoded to values. A text is a row of lines: headers open tables, the other lines give keys
their values in the table opened last.
-/

namespace StructuredQuery.Toml

inductive Front
  | array (rest : List Char)
  | table (rest : List Char)
  | scalar

def front : List Char → Front
  | '[' :: rest => .array rest
  | '\x7b' :: rest => .table rest
  | _ => .scalar

/-- A table within a line under construction, and the values in it that may not be changed. -/
structure Inline where
  entries : Entries
  closed : List (List String)

/-- A key with its value in a table within a line. -/
def Inline.define (first : String) (others : List String) (value : Value) (t : Inline) :
    Except String Inline :=
  let path := first :: others
  let (parent, last) := splitLast first others
  if t.closed.any (·.isPrefixOf path) then .error (closedThere path)
  else match changeAt false some parent t.entries, changeAt false (addEntry last value) parent t.entries with
    | none, _ => .error valueThere
    | _, none => .error ("Duplicate inline table key " ++ Text.shown last)
    | _, some entries => .ok ⟨entries, if isClosed value then path :: t.closed else t.closed⟩

def changed {α : Type} (rest : List Char) (change : Except String α) : Except DecodeError α :=
  change.mapError fun what => .malformed what rest

def keyEquals (cs : List Char) : Except DecodeError ((String × List String) × List Char) := do
  match ← key cs with
  | (first :: others, '=' :: rest) => return ((first, others), skipSpaces rest)
  | (_, rest) => throw (.malformed "Expected '=' after a key in a key/value pair" rest)

mutual

def value (cs : List Char) : Except DecodeError (Value × List Char) :=
  match front cs with
  | .scalar => scalar cs
  | .array rest => do
    let rest ← skipFiller false rest
    match behind? ']' rest with
    | some rest => return (.list [], rest)
    | none =>
      if _h : rest.length < cs.length then
        let (items, rest) ← items rest
        return (.list items, rest)
      else throw (.malformed "Unclosed array" rest)
  | .table rest =>
    match behind? '}' (skipSpaces rest) with
    | some rest => .ok (.mapping [], rest)
    | none =>
      if _h : (skipSpaces rest).length < cs.length then do
        let (entries, rest) ← fields ⟨[], []⟩ (skipSpaces rest)
        return (.mapping entries, rest)
      else .error (.malformed "Unclosed inline table" rest)
termination_by 2 * cs.length

/-- The items of an array up to the bracket that closes it; a comma may stand before it. -/
def items (cs : List Char) : Except DecodeError (List Value × List Char) := do
  let (item, rest) ← value cs
  let rest ← skipFiller false rest
  match behind? ']' rest with
  | some rest => return ([item], rest)
  | none =>
    let rest ← DecodeError.require "Unclosed array" rest (behind? ',' rest)
    let rest ← skipFiller false rest
    match behind? ']' rest with
    | some rest => return ([item], rest)
    | none =>
      if _h : rest.length < cs.length then
        let (more, rest) ← items rest
        return (item :: more, rest)
      else throw (.malformed "Unclosed array" rest)
termination_by 2 * cs.length + 1

/-- The keys and values of a table within a line up to the bracket that closes it. -/
def fields (table : Inline) (cs : List Char) : Except DecodeError (Entries × List Char) := do
  let ((first, others), rest) ← keyEquals cs
  if _h : rest.length < cs.length then
    let (item, rest) ← value rest
    let table ← changed rest (table.define first others item)
    match behind? '}' (skipSpaces rest) with
    | some rest => return (table.entries, rest)
    | none =>
      let rest ← DecodeError.require "Unclosed inline table" (skipSpaces rest) (behind? ',' (skipSpaces rest))
      if _h : (skipSpaces rest).length < cs.length then
        fields table (skipSpaces rest)
      else throw (.malformed "Unclosed inline table" rest)
  else throw (.malformed "Unclosed inline table" rest)
termination_by 2 * cs.length + 1

end

/-- The header of a table, or of one more table in an array, behind its first bracket. -/
def header (s : State) (cs : List Char) : Except DecodeError (State × List Char) :=
  match cs with
  | '[' :: rest => do
    match ← key (skipSpaces rest) with
    | ([], rest) => throw (.malformed "Invalid statement" rest)
    | (first :: others, rest) =>
      let s ← changed rest (s.settle.openArray first others)
      match rest with
      | ']' :: ']' :: rest => return (s, rest)
      | rest => throw (.malformed "Expected ']]' at the end of an array declaration" rest)
  | rest => do
    let (path, rest) ← key (skipSpaces rest)
    let s ← changed rest (s.settle.openTable path)
    match rest with
    | ']' :: rest => return (s, rest)
    | rest => throw (.malformed "Expected ']' at the end of a table declaration" rest)

def definition (s : State) (cs : List Char) : Except DecodeError (State × List Char) := do
  let ((first, others), rest) ← keyEquals cs
  let (item, rest) ← value rest
  return (← changed rest (s.define first others item), rest)

def statement (s : State) (cs : List Char) : Except DecodeError (State × List Char) :=
  match cs with
  | [] => .ok (s, [])
  | '\n' :: _ => .ok (s, cs)
  | '#' :: _ => .ok (s, cs)
  | '[' :: rest => header s rest
  | c :: _ =>
    if isBareChar c || c = '"' || c = '\'' then definition s cs else .error (.malformed "Invalid statement" cs)

def lines (s : State) (cs : List Char) : Except DecodeError State := do
  let (s, rest) ← statement s (skipSpaces cs)
  match ← skipComment (skipSpaces rest) with
  | [] => return s
  | c :: rest =>
    if c = '\n' then
      if _h : rest.length < cs.length then lines s rest else throw (.malformed "Invalid statement" rest)
    else throw (.malformed "Expected newline or end of document after a statement" (c :: rest))
termination_by cs.length

/-- Line breaks of two characters count as one. -/
def joinBreaks : List Char → List Char
  | '\r' :: '\n' :: rest => '\n' :: joinBreaks rest
  | c :: rest => c :: joinBreaks rest
  | [] => []

def decode (text : String) : Except DecodeError Value := do
  let s ← lines .empty (joinBreaks text.toList)
  return .mapping s.entries

/-- What is said of a text that is malformed at a place. -/
def complaint (text : List Char) (what : String) (rest : List Char) : String :=
  let line := Text.lineNumber (joinBreaks text) rest
  let column := Text.columnNumber (joinBreaks text) rest
  if rest.isEmpty then s!"{what} (at end of document)" else s!"{what} (at line {line}, column {column})"

end StructuredQuery.Toml
