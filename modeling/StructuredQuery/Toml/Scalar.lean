import StructuredQuery.Document.DecodeError
import StructuredQuery.Text.Hex
import StructuredQuery.Text.Position
import StructuredQuery.Value.Basic

/-!
The parts of TOML texts that hold no other values: spaces and comments, keys, strings, dates and times,
and numbers.
-/

namespace StructuredQuery.Toml

open Text

def isSpace (c : Char) : Bool :=
  c = ' ' || c = '\t'

def isSpaceOrBreak (c : Char) : Bool :=
  isSpace c || c = '\n'

/-- Control characters, which no string or comment may hold, a tab excepted. -/
def isControl (c : Char) : Bool :=
  (c.toNat < 0x20 && c ≠ '\t') || c.toNat = 0x7F

def skipSpaces (cs : List Char) : List Char :=
  cs.dropWhile isSpace

def shownChar (c : Char) : String := Text.shown (String.singleton c)

/-- A character that may not stand where it does. -/
def unfit {α : Type} (cs : List Char) : Except DecodeError α :=
  let shown := (cs.head?.map shownChar).getD ""
  .error (.malformed s!"Found invalid character {shown}" cs)

/-- The end of the line, or of the text, behind a comment if there is one. -/
def skipComment : List Char → Except DecodeError (List Char)
  | '#' :: rest =>
    let left := rest.dropWhile fun c => !isControl c
    if left.head?.all (· = '\n') then .ok left else unfit left
  | cs => .ok cs

def skipFiller (inComment : Bool) : List Char → Except DecodeError (List Char)
  | [] => .ok []
  | c :: rest =>
    if inComment then
      if c = '\n' then skipFiller false rest
      else if isControl c then unfit (c :: rest)
      else skipFiller true rest
    else if isSpaceOrBreak c then skipFiller false rest
    else if c = '#' then skipFiller true rest
    else .ok (c :: rest)

def escaped? (c : Char) : Option Char :=
  match c with
  | 'b' => some '\x08'
  | 't' => some '\t'
  | 'n' => some '\n'
  | 'f' => some '\x0c'
  | 'r' => some '\r'
  | '"' => some '"'
  | '\\' => some '\\'
  | _ => none

/-- The character that a row of hexadecimal digits of fixed length writes. -/
def hexChar (length : Nat) (cs : List Char) : Except DecodeError (List Char × List Char) := do
  let digits := cs.take length
  let n ← DecodeError.require "Invalid hex value" cs
    (if digits.length = length then hexValue? digits else none)
  if n.isValidChar then return ([Char.ofNat n], cs.drop length)
  else throw (.malformed "Escaped character is not a Unicode scalar value" (cs.drop length))

/-- What is said of a backslash without a letter that stands for something behind it. -/
def strayBackslash : String := "Unescaped '\\' in a string"

/-- A line break behind a backslash, perhaps after spaces: it and all space after it do not count. -/
def foldedLine (c : Char) (cs : List Char) : Except DecodeError (List Char × List Char) :=
  if c = '\n' then .ok ([], cs.dropWhile isSpaceOrBreak)
  else match skipSpaces cs with
    | [] => .ok ([], [])
    | '\n' :: rest => .ok ([], rest.dropWhile isSpaceOrBreak)
    | rest => .error (.malformed strayBackslash rest)

/-- One character of a basic string, or the nothing that a folded line stands for. -/
def basicChar (multiline : Bool) : List Char → Except DecodeError (List Char × List Char)
  | '\\' :: c :: rest =>
    if multiline ∧ isSpaceOrBreak c then foldedLine c rest
    else if c = 'u' then hexChar 4 rest
    else if c = 'U' then hexChar 8 rest
    else DecodeError.require strayBackslash rest ((escaped? c).map ([·], rest))
  | ['\\'] => .error (.malformed strayBackslash [])
  | c :: rest =>
    if isControl c ∧ ¬ (multiline ∧ c = '\n') then
      let shown := shownChar c
      .error (.malformed s!"Illegal character {shown}" (c :: rest))
    else .ok ([c], rest)
  | [] => .error (.malformed "Unterminated string" [])

def basicEnd? (multiline : Bool) : List Char → Option (List Char)
  | '"' :: rest =>
    if multiline then
      match rest with
      | '"' :: '"' :: rest => some rest
      | _ => none
    else some rest
  | _ => none

def basicBody (multiline : Bool) (cs : List Char) : Except DecodeError (List Char × List Char) :=
  match basicEnd? multiline cs with
  | some rest => .ok ([], rest)
  | none => do
    let (taken, rest) ← basicChar multiline cs
    if _h : rest.length < cs.length then
      let (body, rest) ← basicBody multiline rest
      return (taken ++ body, rest)
    else throw (.malformed "Unterminated string" rest)
termination_by cs.length

/-- The text in front of the first quotes that close a literal string, and what is left behind these. -/
def upTo? (quotes : List Char) : List Char → Option (List Char × List Char)
  | [] => none
  | c :: rest =>
    if quotes.isPrefixOf (c :: rest) then some ([], (c :: rest).drop quotes.length)
    else (upTo? quotes rest).map fun (body, rest) => (c :: body, rest)

/-- A literal string up to the quotes that close it: one, or three if it may have several lines. -/
def literalBody (multiline : Bool) (cs : List Char) : Except DecodeError (List Char × List Char) := do
  let quotes := List.replicate (if multiline then 3 else 1) '\''
  let shown := Text.shown (String.ofList quotes)
  let (body, rest) ← DecodeError.require s!"Expected {shown}" [] (upTo? quotes cs)
  let fits (c : Char) : Bool := !isControl c || (multiline && c = '\n')
  if body.all fits then return (body, rest) else unfit (cs.dropWhile fits)

/-- Up to two more quotes behind those that close a string belong to it. -/
def moreQuotes (q : Char) (body rest : List Char) : List Char × List Char :=
  let more := (rest.take 2).takeWhile (· = q)
  (body ++ more, rest.drop more.length)

/-- A line break right after the quotes that open a string of several lines does not count. -/
def dropBreak : List Char → List Char
  | '\n' :: rest => rest
  | cs => cs

def line : List Char → Except DecodeError (List Char × List Char)
  | '"' :: rest => basicBody false rest
  | '\'' :: rest => literalBody false rest
  | cs => .error (.malformed "Invalid initial character for a key part" cs)

def string : List Char → Except DecodeError (List Char × List Char)
  | '"' :: '"' :: '"' :: rest =>
    (basicBody true (dropBreak rest)).map fun (body, rest) => moreQuotes '"' body rest
  | '\'' :: '\'' :: '\'' :: rest =>
    (literalBody true (dropBreak rest)).map fun (body, rest) => moreQuotes '\'' body rest
  | cs => line cs

def isBareChar (c : Char) : Bool :=
  c.isAlphanum || c = '-' || c = '_'

def keyPart (cs : List Char) : Except DecodeError (String × List Char) :=
  ((run? isBareChar cs).elim (line cs) .ok).map fun (part, rest) => (String.ofList part, rest)

def key (cs : List Char) : Except DecodeError (List String × List Char) := do
  let (part, rest) ← keyPart cs
  match skipSpaces rest with
  | '.' :: rest =>
    if _h : (skipSpaces rest).length < cs.length then
      let (parts, rest) ← key (skipSpaces rest)
      return (part :: parts, rest)
    else throw (.malformed "Invalid initial character for a key part" rest)
  | rest => return ([part], rest)
termination_by cs.length

def fixed? (length : Nat) (cs : List Char) : Option (Nat × List Char) :=
  let digits := cs.take length
  if digits.length = length ∧ digits.all Char.isDigit then
    some (natOfDigits digits, cs.drop length)
  else none

def behind? (c : Char) : List Char → Option (List Char)
  | d :: rest => if c = d then some rest else none
  | [] => none

def dateParts? (cs : List Char) : Option ((Nat × Nat × Nat) × List Char) := do
  let (year, rest) ← fixed? 4 cs
  let (month, rest) ← fixed? 2 (← behind? '-' rest)
  let (day, rest) ← fixed? 2 (← behind? '-' rest)
  if 1 ≤ month ∧ month ≤ 12 ∧ 1 ≤ day ∧ day ≤ 31 then some ((year, month, day), rest) else none

/-- The microseconds of a fraction of a second; digits beyond the sixth do not count. -/
def microseconds (cs : List Char) : Nat × List Char :=
  match cs with
  | '.' :: rest =>
    match run? Char.isDigit rest with
    | some (digits, rest) => (natOfDigits ((digits ++ List.replicate 6 '0').take 6), rest)
    | none => (0, cs)
  | _ => (0, cs)

def time? (cs : List Char) : Option (TimeOfDay × List Char) := do
  let (hour, rest) ← fixed? 2 cs
  let (minute, rest) ← fixed? 2 (← behind? ':' rest)
  let (second, rest) ← fixed? 2 (← behind? ':' rest)
  let whole ← TimeOfDay.ofParts? hour minute second 0
  let (fraction, rest) := microseconds rest
  return ((TimeOfDay.ofParts? hour minute second fraction).getD whole, rest)

/-- Hours and minutes of an offset, as seconds. -/
def offsetSeconds? (cs : List Char) : Option (Nat × List Char) := do
  let (hour, rest) ← fixed? 2 cs
  let (minute, rest) ← fixed? 2 (← behind? ':' rest)
  if hour < 24 ∧ minute < 60 then some ((hour * 60 + minute) * 60, rest) else none

def offset (cs : List Char) : Option Offset × List Char :=
  match cs with
  | 'Z' :: rest => (some .zero, rest)
  | 'z' :: rest => (some .zero, rest)
  | '+' :: rest =>
    match offsetSeconds? rest with
    | some (n, rest) => (Offset.ofSeconds? n, rest)
    | none => (none, cs)
  | '-' :: rest =>
    match offsetSeconds? rest with
    | some (n, rest) => (Offset.ofSeconds? (-n), rest)
    | none => (none, cs)
  | _ => (none, cs)

/-- The time that follows a date behind a mark, if it does. -/
def timeBehind? : List Char → Option (TimeOfDay × List Char)
  | c :: rest => if c = 'T' ∨ c = 't' ∨ c = ' ' then time? rest else none
  | [] => none

/-- A date, or a timestamp if a time follows it; nothing if no date is written, and an error if there
is no such day. -/
def moment? (cs : List Char) : Option (Except DecodeError (Value × List Char)) :=
  (dateParts? cs).map fun ((year, month, day), rest) =>
    match Date.ofParts? year month day with
    | none => .error (.malformed "Invalid date or datetime" cs)
    | some date =>
      match timeBehind? rest with
      | none => .ok (.date date, rest)
      | some (time, rest) =>
        let (offset, rest) := offset rest
        .ok (.timestamp ⟨date, time, offset⟩, rest)

def digitRow (p : Char → Bool) : List Char → List Char × List Char
  | '_' :: d :: rest =>
    if p d then
      let (ds, rest) := digitRow p rest
      (d :: ds, rest)
    else ([], '_' :: d :: rest)
  | d :: rest =>
    if p d then
      let (ds, rest) := digitRow p rest
      (d :: ds, rest)
    else ([], d :: rest)
  | [] => ([], [])

def digits? (p : Char → Bool) : List Char → Option (List Char × List Char)
  | d :: rest => if p d then let (ds, rest) := digitRow p rest; some (d :: ds, rest) else none
  | [] => none

def natInBase (base : Nat) (digits : List Char) : Nat :=
  digits.foldl (fun n c => base * n + (hexDigit? c).getD 0) 0

/-- An integer in hexadecimal, octal or binary. -/
def based? : List Char → Option (Int × List Char)
  | '0' :: 'x' :: rest =>
    (digits? (fun c => (hexDigit? c).isSome) rest).map fun (ds, rest) => (natInBase 16 ds, rest)
  | '0' :: 'o' :: rest =>
    (digits? (fun c => '0' ≤ c && c ≤ '7') rest).map fun (ds, rest) => (natInBase 8 ds, rest)
  | '0' :: 'b' :: rest =>
    (digits? (fun c => c = '0' || c = '1') rest).map fun (ds, rest) => (natInBase 2 ds, rest)
  | _ => none

/-- The digits before the point: a single zero, or a row that does not start with one. -/
def whole? : List Char → Option (List Char × List Char)
  | '0' :: rest => some (['0'], rest)
  | cs => digits? Char.isDigit cs

def fraction (cs : List Char) : List Char × List Char :=
  match cs with
  | '.' :: rest => (digits? Char.isDigit rest).getD ([], cs)
  | _ => ([], cs)

def power (cs : List Char) : Option Int × List Char :=
  match cs with
  | [] => (none, [])
  | e :: rest =>
    let (negative, signless) := Numeral.takeSign rest
    if e = 'e' ∨ e = 'E' then
      match digits? Char.isDigit signless with
      | some (ds, rest) =>
        let n : Int := natOfDigits ds
        (some (if negative then -n else n), rest)
      | none => (none, cs)
    else (none, cs)

def decimal? (cs : List Char) : Option (NumberText × List Char) :=
  let (negative, rest) := Numeral.takeSign cs
  (whole? rest).map fun (whole, rest) =>
    let (fraction, rest) := fraction rest
    let (power, rest) := power rest
    (⟨negative, whole, fraction, power⟩, rest)

def special? (cs : List Char) : Option (Value × List Char) :=
  match Numeral.takeSign cs with
  | (negative, 'i' :: 'n' :: 'f' :: rest) => some (.float (.infinity negative), rest)
  | (_, 'n' :: 'a' :: 'n' :: rest) => some (.float .nan, rest)
  | _ => none

def bool? : List Char → Option (Value × List Char)
  | 't' :: 'r' :: 'u' :: 'e' :: rest => some (.bool true, rest)
  | 'f' :: 'a' :: 'l' :: 's' :: 'e' :: rest => some (.bool false, rest)
  | _ => none

def numeric (cs : List Char) : Except DecodeError (Value × List Char) :=
  match time? cs, based? cs, decimal? cs, special? cs with
  | some (t, rest), _, _, _ => .ok (.time t, rest)
  | _, some (n, rest), _, _ => .ok (.int n, rest)
  | _, _, some (n, rest), _ => do return (← Value.ofNumber n, rest)
  | _, _, _, some found => .ok found
  | _, _, _, _ => .error (.malformed "Invalid value" cs)

def scalar (cs : List Char) : Except DecodeError (Value × List Char) :=
  match cs with
  | '"' :: _ | '\'' :: _ => (string cs).map fun (s, rest) => (.text (String.ofList s), rest)
  | _ =>
    match bool? cs with
    | some found => .ok found
    | none => (moment? cs).getD (numeric cs)

end StructuredQuery.Toml
