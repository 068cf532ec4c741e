import StructuredQuery.Error
import StructuredQuery.Files.Tree
import StructuredQuery.Toml.Decode
import StructuredQuery.Toml.Encode

/-!
The settings of the command line. They are kept in a TOML file; what the file does not say is as it is
by default. A setting of the wrong kind is refused, a value that makes no sense is put right with a
warning.
-/

namespace StructuredQuery

structure Config where
  coloredOutput : Bool
  outputFormat : String
  indent : Int
  path : Option Path
deriving DecidableEq, Repr

namespace Config

def default : Config := ⟨true, "text", 2, none⟩

def outputFormats : List String := ["text", "json"]

def defaultPath (home : String) : Except Fault Path :=
  (Path.ofHome home).map (·.append [".config", "csquery", "config.toml"])

/-- The settings put right, with a warning for each change. -/
def validate (c : Config) : Except Fault (Config × List String) := do
  let (format, formatWarnings) :=
    if outputFormats.contains c.outputFormat then (c.outputFormat, [])
    else
      let given := Text.shown c.outputFormat
      let known := ", ".intercalate outputFormats
      ("text", [s!"output.format={given} is not one of {known}; using text"])
  let (indent, indentWarnings) ←
    if c.indent < 0 then do
      let given ← Integer.write c.indent
      pure ((0 : Int), [s!"output.indent={given} is negative; using 0"])
    else pure (c.indent, [])
  return ({ c with outputFormat := format, indent }, formatWarnings ++ indentWarnings)

/-- Whether a section, which need not be a table, has a key, and its value there. A text has the keys
that occur in it and a list those that are its items, but neither has values. -/
def setting? (table : Value) (key : String) : Except Fault (Option Value) :=
  match table with
  | .mapping entries => .ok (Mapping.get? key entries)
  | .list items =>
    if items.any fun item => item.text? == some key then .error .wrongKind else .ok none
  | .text s => if Text.occursIn key.toList s.toList then .error .wrongKind else .ok none
  | _ => .error .wrongKind

def ofData (entries : List (Value × Value)) (path : Path) : Except Error Config := do
  let c : Config := { default with path := some path }
  let display := (Mapping.get? "display" entries).getD (.mapping [])
  let c ← match ← setting? display "colored_output" with
    | none => pure c
    | some (.bool b) => pure { c with coloredOutput := b }
    | some _ => throw (.invalidSetting "display.colored_output" "must be a boolean")
  let output := (Mapping.get? "output" entries).getD (.mapping [])
  let c ← match ← setting? output "format" with
    | none => pure c
    | some (.text s) => pure { c with outputFormat := s }
    | some _ => throw (.invalidSetting "output.format" "must be a string")
  match ← setting? output "indent" with
  | none => pure c
  | some (.int n) => pure { c with indent := n }
  | some _ => throw (.invalidSetting "output.indent" "must be an integer")

/-- The path for settings in full: the one that is named, else the one by default. -/
def fullPath (place : Place) (path : Option Path) : Except Fault Path := do
  let path ← path.elim (defaultPath place.home) .ok
  (← path.expandHome place).resolve place.directory

def ofText (text : String) (path : Path) : Except Error Config :=
  match Toml.decode text with
  | .error (.malformed what rest) =>
    .error (.malformedConfig path.text (Toml.complaint text.toList what rest))
  | .error (.fault f) => .error (.fault f)
  | .ok (.mapping entries) => ofData entries path
  | .ok _ => .error (.fault .wrongKind)

/-- The settings of a file, or those by default with a warning if there is no file. -/
def load (tree : FileTree) (place : Place) (path : Option Path) :
    Except Error (Config × List String) := do
  let path ← fullPath place path
  if ← tree.exists? place.directory path then
    let c ← ofText (← tree.readText place.directory path) path
    c.validate
  else
    let (c, warnings) ← default.validate
    let missing := s!"No config file found at {path.text}. Using defaults. " ++
      "Create config with: csquery init-config"
    return (c, missing :: warnings)

/-- The text of the file for some settings up to the indent. -/
def encodeFront (c : Config) : String :=
  "[display]\ncolored_output = " ++ Toml.encodeBool c.coloredOutput ++
    "\n\n[output]\nformat = " ++ Toml.encodeString c.outputFormat ++ "\n"

def encode (c : Config) : Except Fault String := do
  return c.encodeFront ++ "indent = " ++ (← Integer.write c.indent) ++ "\n"

/-- The settings written to a file: the one that is named, else the one that they were read from, else
the one by default. Of settings that cannot be written in full the file has the front. -/
def save (c : Config) (tree : FileTree) (place : Place) (path : Option Path) :
    Except Fault Path × FileTree :=
  match fullPath place (path.or c.path) with
  | .error f => (.error f, tree)
  | .ok path =>
    let (text, done) : String × Except Fault Unit := match c.encode with
      | .ok text => (text, .ok ())
      | .error f => (c.encodeFront, .error f)
    let (written, tree) := tree.write place.directory path text.toUTF8
    (do written; done; return path, tree)

end Config

end StructuredQuery
