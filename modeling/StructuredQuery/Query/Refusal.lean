import StructuredQuery.Query.Tree.Basic
import StructuredQuery.Text.Position

/-!
Why a text derives no query. Its terminals are taken one after the other, as far as each reaches, and where none
of those that may stand next is found, reading stops. The refusal names the place and these terminals.
-/

namespace StructuredQuery.Query

inductive Kind
  | leftBracket
  | rightBracket
  | operator
  | optionName
  | equals
  | word
  | fieldName
  | colon
  | number
  | string
  | rangeOpen
  | comma
  | rangeClose
deriving DecidableEq, Repr

def Kind.text : Kind → String
  | leftBracket => "LPAR"
  | rightBracket => "RPAR"
  | operator => "OPERATOR"
  | optionName => "OPTION_NAME"
  | equals => "EQUAL"
  | word => "OPTION_VALUE"
  | fieldName => "FIELD_NAME"
  | colon => "COLON"
  | number => "NUMBER"
  | string => "STRING"
  | rangeOpen => "RANGE_OPEN"
  | comma => "COMMA"
  | rangeClose => "RANGE_CLOSE"

/-- How far an expression is read, by what stands next in it: the bracket and the operator at its front, an item,
what follows a name, the word of an option, the content of a field, the parts of an interval, or nothing. -/
inductive Stage
  | opening
  | operator
  | item
  | behindName (isOption : Bool)
  | word
  | content
  | lower
  | comma
  | upper
  | rangeClose
  | ended
deriving DecidableEq, Repr

/-- The terminals that may start the content of a field, each as often as rules of the grammar start with it. -/
def contentKinds : List Kind :=
  [.number, .string] ++ List.replicate 4 .rangeOpen ++ List.replicate 2 .leftBracket

/-- The terminals that may stand next, each as often as rules of the grammar go on with it. -/
def Stage.expected : Stage → List Kind
  | opening => [.leftBracket, .leftBracket]
  | operator => [.operator, .operator]
  | item => [.rightBracket, .optionName, .fieldName] ++ contentKinds
  | behindName isOption => if isOption then [.equals, .colon] else [.colon]
  | word => [.word]
  | content => contentKinds
  | lower => [.comma, .comma, .number, .string]
  | comma => [.comma, .comma]
  | upper => [.rangeClose, .number, .string]
  | rangeClose => [.rangeClose]
  | ended => []

/-- The first terminal of the content of a field. With what is left of the text comes the stage behind it, and
the number of expressions that are open there. -/
def advanceContent (depth : Nat) (cs : List Char) : Option (Stage × Nat × List Char) :=
  match cs with
  | '[' :: rest => some (.lower, depth, rest)
  | '\x7b' :: rest => some (.lower, depth, rest)
  | '(' :: rest => some (.operator, depth + 1, rest)
  | cs => (scalar? cs).map fun (_, rest) => (.item, depth, rest)

def advanceRangeClose (depth : Nat) (cs : List Char) : Option (Stage × Nat × List Char) :=
  match cs with
  | ']' :: rest => some (.item, depth, rest)
  | '\x7d' :: rest => some (.item, depth, rest)
  | _ => none

def advance (stage : Stage) (depth : Nat) (cs : List Char) : Option (Stage × Nat × List Char) :=
  match stage with
  | .opening =>
    match cs with
    | '(' :: rest => some (.operator, depth + 1, rest)
    | _ => none
  | .operator => (Text.run? isOperatorChar cs).map fun (_, rest) => (.item, depth, rest)
  | .item =>
    match closing? cs with
    | some rest => some (if depth ≤ 1 then .ended else .item, depth - 1, rest)
    | none =>
      match name? cs with
      | some (name, rest) =>
        some (.behindName (OptionName.ofText? (String.ofList name)).isSome, depth, rest)
      | none => advanceContent depth cs
  | .behindName isOption =>
    match cs with
    | ':' :: rest => some (.content, depth, rest)
    | '=' :: rest => if isOption then some (.word, depth, rest) else none
    | _ => none
  | .word => (Text.run? Text.isWordChar cs).map fun (_, rest) => (.item, depth, rest)
  | .content => advanceContent depth cs
  | .lower =>
    match scalar? cs with
    | some (_, rest) => some (.comma, depth, rest)
    | none => (cs.head?.filter (· = ',')).map fun _ => (.upper, depth, cs.tail)
  | .comma => (cs.head?.filter (· = ',')).map fun _ => (.upper, depth, cs.tail)
  | .upper =>
    match scalar? cs with
    | some (_, rest) => some (.rangeClose, depth, rest)
    | none => advanceRangeClose depth cs
  | .rangeClose => advanceRangeClose depth cs
  | .ended => none

/-- Where reading stops: what may stand there, and what is left of the text. -/
structure Stop where
  stage : Stage
  rest : List Char
deriving DecidableEq, Repr

/-- Where the reading of a text stops, if it does before the end of the expression and of the text. -/
def stop? (stage : Stage) (depth : Nat) (cs : List Char) : Option Stop :=
  match skipSpaces cs with
  | [] => if stage = .ended then none else some ⟨stage, []⟩
  | c :: rest =>
    match advance stage depth (c :: rest) with
    | none => some ⟨stage, c :: rest⟩
    | some (next, depth, left) =>
      if _h : left.length < cs.length then stop? next depth left else none
termination_by cs.length

def expectation (kinds : List Kind) : String :=
  "Expected one of: \n\t* " ++ "\n\t* ".intercalate (kinds.map Kind.text) ++ "\n"

/-- The number of columns that a text takes behind some others in its line if its tabs are written out; at a
carriage return the line starts anew. -/
def columns (taken : Nat) : List Char → Nat
  | [] => 0
  | c :: rest =>
    let width := if c = '\t' then 8 - taken % 8 else 1
    width + columns (if c = '\r' then 0 else taken + width) rest

/-- The surroundings of a place within its line, with a mark below the place. -/
def surroundings (before rest : List Char) : String :=
  let left := ((before.reverse.take 40).takeWhile (· ≠ '\n')).reverse
  let right := (rest.take 40).takeWhile (· ≠ '\n')
  String.ofList (left ++ right ++ '\n' :: (List.replicate (columns 0 left) ' ' ++ ['^', '\n']))

/-- What is said of the place where the reading of a text stops. The source tells the terminals that may stand
there in no certain order. -/
def Stop.message (s : Stop) (text : List Char) : String :=
  match s.rest with
  | [] => "Unexpected end-of-input. " ++ expectation s.stage.expected
  | c :: _ =>
    let line := Text.lineNumber text s.rest
    let column := Text.columnNumber text s.rest
    let expected := s.stage.expected.eraseDups
    s!"No terminal matches '{c}' in the current parser context, at line {line} col {column}\n\n" ++
      surroundings (Text.before text s.rest) s.rest ++ if expected.isEmpty then "" else expectation expected

def refusal (text : List Char) : String :=
  (stop? .opening 0 text).elim "" fun s => s.message text

end StructuredQuery.Query
