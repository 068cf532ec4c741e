import StructuredQuery.Document.DecodeError
import StructuredQuery.Text.Half
import StructuredQuery.Text.Hex
import StructuredQuery.Text.Position
import StructuredQuery.Value.Mapping

/-!
JSON texts decoded to values. Objects become mappings, in which the last of several equal keys counts,
at the place of the first; the words `NaN`, `Infinity` and `-Infinity` are numbers.
-/

namespace StructuredQuery.Json

open Text

def isSpace (c : Char) : Bool :=
  c = ' ' || c = '\t' || c = '\n' || c = '\r'

def skipSpaces (cs : List Char) : List Char :=
  cs.dropWhile isSpace

def escaped? (c : Char) : Option Char :=
  match c with
  | '"' => some '"'
  | '\\' => some '\\'
  | '/' => some '/'
  | 'b' => some '\x08'
  | 'f' => some '\x0c'
  | 'n' => some '\n'
  | 'r' => some '\r'
  | 't' => some '\t'
  | _ => none

/-- The code unit that four hexadecimal digits write. The text does not end behind them. -/
def unit? : List Char → Option (Nat × List Char)
  | a :: b :: c :: d :: e :: rest => (hexValue? [a, b, c, d]).map (·, e :: rest)
  | _ => none

/-- The second half of a pair of code units, if a high one is followed by it. -/
def lowHalf? (high : Nat) : List Char → Option (Nat × List Char)
  | '\\' :: 'u' :: rest =>
    match unit? rest with
    | some (low, rest) =>
      if isHigh high && isLow low then
        some (0x10000 + (high - 0xD800) * 0x400 + (low - 0xDC00), rest)
      else none
    | none => none
  | _ => none

/-- The character of one or two code units, whose backslash and letter are already taken. -/
def unicode? (cs : List Char) : Option (Char × List Char) :=
  match unit? cs with
  | none => none
  | some (high, rest) =>
    match lowHalf? high rest with
    | some (n, rest) => some (ofUnit n, rest)
    | none => some (ofUnit high, rest)

/-- One character of a string, written as it is or behind a backslash; one that is missing is reported with the
quote that opens the string. -/
def char (opening : List Char) : List Char → Except DecodeError (Char × List Char)
  | '\\' :: 'u' :: rest => DecodeError.require "Invalid \\uXXXX escape" ('u' :: rest) (unicode? rest)
  | '\\' :: c :: rest =>
    DecodeError.require "Invalid \\escape" ('\\' :: c :: rest) ((escaped? c).map (·, rest))
  | ['\\'] => .error (.malformed "Unterminated string starting at" opening)
  | c :: rest =>
    if c.toNat < 0x20 then .error (.malformed "Invalid control character at" (c :: rest)) else .ok (c, rest)
  | [] => .error (.malformed "Unterminated string starting at" opening)

def stringBody (opening cs : List Char) : Except DecodeError (List Char × List Char) :=
  if cs.head? = some '"' then .ok ([], cs.tail)
  else do
    let (c, rest) ← char opening cs
    if _h : rest.length < cs.length then
      let (body, rest) ← stringBody opening rest
      return (c :: body, rest)
    else .error (.malformed "Unterminated string starting at" opening)
termination_by cs.length

/-- What is left behind a word at the front of a text. -/
def dropWord? (word : String) (cs : List Char) : Option (List Char) :=
  if word.toList.isPrefixOf cs then some (cs.drop word.length) else none

def words : List (String × Value) :=
  [("null", .null), ("true", .bool true), ("false", .bool false), ("NaN", .float .nan),
    ("Infinity", .float (.infinity false)), ("-Infinity", .float (.infinity true))]

def word? (cs : List Char) : Option (Value × List Char) :=
  words.findSome? fun (word, value) => (dropWord? word cs).map (value, ·)

def number (cs : List Char) : Except DecodeError (Value × List Char) := do
  let (n, rest) ← DecodeError.require "Expecting value" cs (NumberText.take? Char.isDigit cs)
  if n.whole.head? = some '0' ∧ n.whole.length ≠ 1 then
    return (.int 0, cs.drop (if n.negative then 2 else 1))
  return (← Value.ofNumber n, rest)

def scalar (cs : List Char) : Except DecodeError (Value × List Char) :=
  match cs with
  | '"' :: rest => do
    let (body, rest) ← stringBody cs rest
    return (.text (String.ofList body), rest)
  | _ =>
    match word? cs with
    | some found => .ok found
    | none => number cs

inductive Front
  | array (rest : List Char)
  | object (rest : List Char)
  | scalar

def front : List Char → Front
  | '[' :: rest => .array rest
  | '\x7b' :: rest => .object rest
  | _ => .scalar

/-- The rest behind a character, if it comes first after spaces. -/
def behind? (c : Char) (cs : List Char) : Option (List Char) :=
  match skipSpaces cs with
  | d :: rest => if c = d then some rest else none
  | [] => none

def key (cs : List Char) : Except DecodeError (String × List Char) :=
  match skipSpaces cs with
  | '"' :: rest => do
    let (body, rest) ← stringBody ('"' :: rest) rest
    let rest ← DecodeError.require "Expecting ':' delimiter" (skipSpaces rest) (behind? ':' rest)
    return (String.ofList body, rest)
  | rest => .error (.malformed "Expecting property name enclosed in double quotes" rest)

mutual

def value (cs : List Char) : Except DecodeError (Value × List Char) :=
  match front (skipSpaces cs) with
  | .scalar => scalar (skipSpaces cs)
  | .array rest =>
    match behind? ']' rest with
    | some rest => .ok (.list [], rest)
    | none =>
      if _h : rest.length < cs.length then do
        let (items, rest) ← elements rest
        return (.list items, rest)
      else .error (.malformed "Expecting value" rest)
  | .object rest =>
    match behind? '}' rest with
    | some rest => .ok (.mapping [], rest)
    | none =>
      if _h : rest.length < cs.length then do
        let (entries, rest) ← members rest
        return (.mapping (entries.foldl (fun es e => Mapping.put (.text e.1) e.2 es) []), rest)
      else .error (.malformed "Expecting value" rest)
termination_by 2 * cs.length

/-- The items of an array up to the bracket that closes it; there is at least one. -/
def elements (cs : List Char) : Except DecodeError (List Value × List Char) := do
  let (item, rest) ← value cs
  match behind? ']' rest with
  | some rest => return ([item], rest)
  | none =>
    let rest ← DecodeError.require "Expecting ',' delimiter" (skipSpaces rest) (behind? ',' rest)
    if _h : rest.length < cs.length then
      let (items, rest) ← elements rest
      return (item :: items, rest)
    else throw (.malformed "Expecting value" rest)
termination_by 2 * cs.length + 1

/-- The members of an object up to the bracket that closes it; there is at least one. -/
def members (cs : List Char) : Except DecodeError (List (String × Value) × List Char) := do
  let (key, rest) ← key cs
  if _h : rest.length < cs.length then
    let (value, rest) ← value rest
    match behind? '}' rest with
    | some rest => return ([(key, value)], rest)
    | none =>
      let rest ← DecodeError.require "Expecting ',' delimiter" (skipSpaces rest) (behind? ',' rest)
      if _h : rest.length < cs.length then
        let (entries, rest) ← members rest
        return ((key, value) :: entries, rest)
      else throw (.malformed "Expecting value" rest)
  else throw (.malformed "Expecting value" rest)
termination_by 2 * cs.length + 1

end

def decode (text : String) : Except DecodeError Value := do
  if text.toList.head? = some '\ufeff' then
    throw (.malformed "Unexpected UTF-8 BOM (decode using utf-8-sig)" text.toList)
  let (v, rest) ← value text.toList
  if (skipSpaces rest).isEmpty then return v else throw (.malformed "Extra data" (skipSpaces rest))

/-- What is said of a text that is malformed at a place. -/
def complaint (text : List Char) (what : String) (rest : List Char) : String :=
  let line := Text.lineNumber text rest
  let column := Text.columnNumber text rest
  let char := (Text.before text rest).length
  s!"{what}: line {line} column {column} (char {char})"

end StructuredQuery.Json
