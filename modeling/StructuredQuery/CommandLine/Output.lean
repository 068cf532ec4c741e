import StructuredQuery.Text.Columns
import StructuredQuery.Text.Half
import StructuredQuery.Text.Hex
import StructuredQuery.Text.Markup

/-!
What a run of the command line leaves: an exit code and the text on its two streams. A run that ends by a
failure outside the rules leaves what it had printed by then.
-/

namespace StructuredQuery.CommandLine

structure Outcome where
  exit : Nat
  stdout : String
  stderr : String
deriving DecidableEq, Repr

/-- The end of a run by a failure that no message answers, and what is on its streams. -/
structure Escape where
  fault : Fault
  stdout : String
  stderr : String
deriving DecidableEq, Repr

/-- A failure before anything is printed. -/
def Escape.of (f : Fault) : Escape := ⟨f, "", ""⟩

instance : MonadLift (Except Fault) (Except Escape) where
  monadLift r := r.mapError .of

/-- Control characters that would move the cursor or ring a bell; they are not printed. -/
def isCursorControl (c : Char) : Bool :=
  c = '\x07' || c = '\x08' || c = '\x0b' || c = '\x0c' || c = '\r'

/-- A printed line: tabs are written out as spaces. -/
def line (text : String) : String :=
  String.ofList (Text.expandTabs (text.toList.filter fun c => !isCursorControl c) ++ ['\n'])

def lines (texts : List String) : String :=
  String.join (texts.map line)

/-- A query on a line of its own. Half of a pair of code units cannot be printed. -/
def queryLine (query : String) : Except Fault String :=
  if Text.hasHalf query.toList then .error .unencodable else .ok (line query)

/-- A printed message, whose marks are not printed. -/
def markedLine (text : String) : Except Fault String :=
  (Text.Markup.render text.toList).map fun cs => line (String.ofList cs)

/-- Lines printed one after the other, each as soon as it is made. With them comes the failure, if one of
them cannot be made, that ends the printing. -/
def printEach {α : Type} (make : α → Except Fault String) : List α → String × Except Fault Unit
  | [] => ("", .ok ())
  | item :: rest =>
    match make item with
    | .error f => ("", .error f)
    | .ok shown =>
      let (printed, done) := printEach make rest
      (shown ++ printed, done)

namespace Outcome

def success (stdout : String) : Outcome := ⟨0, stdout, ""⟩

/-- A run that ends with an error message and perhaps a hint. Marks in the message are plain text. -/
def failure (exit : Nat) (message : String) (hint : Option String) : Outcome :=
  let shown := String.ofList (Text.Markup.literal message.toList)
  ⟨exit, "", lines (("Error: " ++ shown) :: (hint.map ("  Hint: " ++ ·)).toList)⟩

def usage (explanation : String) : Outcome := ⟨2, "", line explanation⟩

end Outcome

/-- A text as the standard error takes it: halves of pairs of code units are written as escapes. -/
def escapeHalves (text : String) : String :=
  String.ofList (text.toList.flatMap fun c =>
    match Text.half? c with
    | some n => '\\' :: 'u' :: Text.paddedHex 4 n
    | none => [c])

/-- The end of a run with an error message about a document, in which such halves may stand. -/
def refuse (exit : Nat) (message : String) (hint : Option String) : Outcome :=
  { Outcome.failure exit message hint with stderr := escapeHalves (Outcome.failure exit message hint).stderr }

/-- A run that goes on when some lines are on the standard error. -/
def after (first : String) : Except Escape Outcome → Except Escape Outcome
  | .ok o => .ok { o with stderr := first ++ o.stderr }
  | .error e => .error { e with stderr := first ++ e.stderr }

end StructuredQuery.CommandLine
