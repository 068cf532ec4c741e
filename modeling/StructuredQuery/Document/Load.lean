import StructuredQuery.Document.Conditions
import StructuredQuery.Expression.Builder
import StructuredQuery.Files.Tree
import StructuredQuery.Json.Decode
import StructuredQuery.Toml.Decode

/-!
Query documents from texts and files.
-/

namespace StructuredQuery.Document

inductive Format
  | json
  | toml
deriving DecidableEq, Repr

/-- The format that a word names; whatever is not TOML is JSON. -/
def Format.ofText (word : String) : Format :=
  if word = "toml" then .toml else .json

/-- The format that the ending of a path stands for, in letters of either case. -/
def Format.ofPath (p : Path) : Format :=
  if p.suffix.toList.map Char.toLower = ".toml".toList then .toml else .json

/-- What is said of a text of a format that is malformed at a place. -/
def complaint (format : Format) (text : String) (what : String) (rest : List Char) : String :=
  match format with
  | .json => Json.complaint text.toList what rest
  | .toml => Toml.complaint text.toList what rest

/-- The data that a text holds; the source is named if it holds none. -/
def decode (text : String) (format : Format) (source : String) : Except Error Value :=
  let decoded := match format with
    | .json => Json.decode text
    | .toml => Toml.decode text
  decoded.mapError fun
    | .malformed what rest => .malformedDocument source (complaint format text what rest)
    | .fault f => .fault f

def queriesOfText (text : String) (format : Format) (source : String) :
    Except Error (List Value) := do
  queries (← decode text format source)

def readText (tree : FileTree) (directory : List String) (p : Path) : Except Fault String :=
  (tree.readText directory p).map fun text => String.ofList (unifyBreaks text.toList)

/-- The pairs of operator and conditions in a document file, whose format its ending tells. -/
def load (tree : FileTree) (place : Place) (path : Path) : Except Error (List Value) := do
  let p ← path.expandHome place
  if ← tree.exists? place.directory p then
    queriesOfText (← readText tree place.directory p) (.ofPath p) p.text
  else throw (.documentNotFound p.text)

def expressions (pairs : List Value) : Except Error (List Expression) :=
  Expression.ofDescription (.list pairs)

def queryTexts (pairs : List Value) : Except Error (List String) := do
  (← expressions pairs).mapM fun e => liftM e.render

end StructuredQuery.Document
