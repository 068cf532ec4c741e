import StructuredQuery.Fault
import StructuredQuery.Text.Emoji.Basic

/-!
Messages with marks. A mark is a word in square brackets: it opens a style, or behind a slash closes
one, and is not printed. A backslash before a mark makes it plain text, and two backslashes stand for
one. Before a bracket that starts no mark, a backslash is not printed either.
-/

namespace StructuredQuery.Text.Markup

/-- A part of a message: plain text, or a mark behind a number of backslashes. -/
inductive Piece
  | plain (text : List Char)
  | mark (backslashes : Nat) (body : List Char)

def startsMark (c : Char) : Bool :=
  ('a' ≤ c && c ≤ 'z') || c = '#' || c = '/' || c = '@'

def isMarkChar (c : Char) : Bool :=
  c ≠ '[' && c ≠ ']'

def mark? : List Char → Option (List Char × List Char)
  | '[' :: c :: rest =>
    if startsMark c then
      match rest.dropWhile isMarkChar with
      | ']' :: after => some (c :: rest.takeWhile isMarkChar, after)
      | _ => none
    else none
  | _ => none

/-- A mark takes some characters of the text. -/
theorem length_of_mark? {text body after : List Char} (h : mark? text = some (body, after)) :
    after.length < text.length := by
  unfold mark? at h
  split at h
  · next c rest =>
    have := length_dropWhile_le isMarkChar rest
    split at h
    · split at h
      · next hd =>
        simp_all
        omega
      · simp at h
    · simp at h
  · simp at h

/-- The parts of a text behind some plain characters, the last of which comes first. The backslashes
before a mark are its own. -/
def piecesFrom (before text : List Char) : List Piece :=
  match text with
  | [] => [.plain before.reverse]
  | c :: rest =>
    match _h : mark? (c :: rest) with
    | none => piecesFrom (c :: before) rest
    | some (body, after) =>
      let backslashes := (before.takeWhile (· = '\\')).length
      .plain (before.drop backslashes).reverse :: .mark backslashes body :: piecesFrom [] after
termination_by text.length
decreasing_by
  · simp
  · exact length_of_mark? _h

def pieces (text : List Char) : List Piece :=
  piecesFrom [] text

/-- A text without the backslashes before opening brackets. -/
def bareBrackets : List Char → List Char
  | [] => []
  | '\\' :: '[' :: rest => '[' :: bareBrackets rest
  | c :: rest => c :: bareBrackets rest

def plainText (text : List Char) : List Char :=
  Emoji.replace (bareBrackets text)

/-- Backslashes and a mark that is printed. -/
def markText (backslashes : Nat) (body : List Char) : List Char :=
  List.replicate backslashes '\\' ++ Emoji.replace ('[' :: body ++ [']'])

def Piece.literal : Piece → List Char
  | .plain text => plainText text
  | .mark backslashes body => markText backslashes body

/-- A single backslash at the end of a text is written twice. -/
def closeEnd (text : List Char) : List Char :=
  match text.reverse with
  | '\\' :: '\\' :: _ => text
  | '\\' :: _ => text ++ ['\\']
  | _ => text

def literal (text : List Char) : List Char :=
  (pieces (closeEnd text)).flatMap Piece.literal

def styleName (body : List Char) : List Char :=
  (trim (body.takeWhile (· ≠ '='))).map Char.toLower

/-- The open styles, the last of which comes first, after the end of one. One without a name is the last
that was opened. -/
def close (styles : List (List Char)) (name : List Char) : Except Fault (List (List Char)) :=
  if name.isEmpty then
    match styles with
    | [] => .error .styleNotOpen
    | _ :: before => .ok before
  else if styles.contains name then .ok (styles.erase name)
  else .error .styleNotOpen

def renderPieces (styles : List (List Char)) : List Piece → Except Fault (List Char)
  | [] => .ok []
  | .plain text :: rest => (renderPieces styles rest).map (plainText text ++ ·)
  | .mark backslashes body :: rest => do
    let shown := List.replicate (backslashes / 2) '\\'
    if backslashes % 2 = 1 then
      return markText (backslashes / 2) body ++ (← renderPieces styles rest)
    else
      let styles ← match body with
        | '/' :: name => close styles (styleName name)
        | name => pure (styleName name :: styles)
      return shown ++ (← renderPieces styles rest)

/-- A message as it is printed, without its marks. Each style that is closed must be open. -/
def render (text : List Char) : Except Fault (List Char) :=
  renderPieces [] (pieces text)

end StructuredQuery.Text.Markup
