import StructuredQuery.CommandLine.Arguments
import StructuredQuery.CommandLine.Output
import StructuredQuery.Config
import StructuredQuery.Document.Load
import StructuredQuery.Json.Encode
import StructuredQuery.Query.Meaning

/-!
The commands. `check` reads a query text and prints its canonical form, `render` prints the queries of a
document, `init-config` writes a file of settings, and `help` explains the others. A run starts from a
file system and leaves one, also where it fails; only `init-config` changes it.
-/

namespace StructuredQuery.CommandLine

structure Setting where
  place : Place
  tree : FileTree
  stdin : ByteArray

inductive Command
  | check
  | help
  | initConfig
  | render
deriving DecidableEq, Repr

namespace Command

def all : List Command := [.check, .help, .initConfig, .render]

def text : Command → String
  | .check => "check"
  | .help => "help"
  | .initConfig => "init-config"
  | .render => "render"

def ofText? (word : String) : Option Command :=
  all.find? (·.text = word)

def summary : Command → String
  | .check => "check QUERY...          Check a structured query and print its canonical form."
  | .help => "help [COMMAND]          Show help for a command."
  | .initConfig => "init-config             Create a new configuration file with default settings."
  | .render => "render DOCUMENT         Render the queries in a JSON or TOML document."

def switches : Command → List Switch
  | .check => [⟨"--format", some 'f', true⟩, ⟨"--help", none, false⟩]
  | .help => [⟨"--help", none, false⟩]
  | .initConfig =>
    [⟨"--force", some 'f', false⟩, ⟨"--output", some 'o', true⟩, ⟨"--help", none, false⟩]
  | .render =>
    [⟨"--format", some 'f', true⟩, ⟨"--input-format", some 'i', true⟩, ⟨"--help", none, false⟩]

end Command

def globalSwitches : List Switch :=
  [⟨"--config", some 'c', true⟩, ⟨"--no-color", none, false⟩, ⟨"--verbose", some 'v', false⟩,
    ⟨"--debug", none, false⟩, ⟨"--quiet", some 'q', false⟩, ⟨"--version", none, false⟩,
    ⟨"--help", none, false⟩]

def programName : String := "csquery"

def versionText : String := programName ++ ", version 1.0.0\n"

def usageText : String :=
  lines (("Usage: " ++ programName ++ " [OPTIONS] COMMAND [ARGS]...") ::
    Command.all.map fun c => "  " ++ c.summary)

structure Verbosity where
  verbose : Bool
  debug : Bool
  quiet : Bool
deriving DecidableEq, Repr

/-- The path that an option or an argument names; it must not hold a null character. -/
def namedPath (text : String) : Except Fault Path :=
  if Path.hasNull text then .error .nullCharacter else .ok (.ofText text)

/-- The form of printed queries that an option asks for; there is none of any other name. -/
def formatOption? (a : Arguments) (c : Config) : Option String :=
  match a.get? "--format" with
  | none => some c.outputFormat
  | some word => if Config.outputFormats.contains word then some word else none

/-- The answer to a cause. Failures outside the rules leave the program. -/
def answer (reply : Error → Outcome) (e : Error) : Except Escape Outcome :=
  match e with
  | .fault f => .error (.of f)
  | e => .ok (reply e)

def printChecked (c : Config) (v : Verbosity) (format query : String) (e : Expression) :
    Except Escape Outcome := do
  let canonical ← e.render
  if format = "json" then
    let object ← Json.encodeObject c.indent
      [("query", canonical), ("operator", e.operator.text)]
    return .success (object ++ "\n")
  else
    let changed := canonical.toList ≠ Text.trim query.toList
    let note := if !v.quiet && changed then ["Query is valid (normalized)"] else []
    return .success (lines (canonical :: note))

/-- The command `check`: its arguments are joined by spaces to a query text. A text that cannot be read
ends with 1, one that breaks a rule with 2. -/
def check (c : Config) (v : Verbosity) (a : Arguments) : Except Escape Outcome :=
  match formatOption? a c with
  | none => .ok (.usage "The format is text or json.")
  | some format =>
    if a.others.isEmpty then .ok (.usage "A query is missing.")
    else
      let query := " ".intercalate a.others
      match Expression.ofText query with
      | .ok e => printChecked c v format query e
      | .error e => answer (fun e => .failure (if e.isUnreadable then 1 else 2) e.message none) e

def inputFormat? (a : Arguments) : Option (Option Document.Format) :=
  match a.get? "--input-format" with
  | none => some none
  | some "json" => some (some .json)
  | some "toml" => some (some .toml)
  | some _ => none

/-- The pairs of operator and conditions of the document that is named: on the standard input, in a file
of a format that is given, or in a file whose ending tells it. -/
def documentQueries (s : Setting) (document : Path) (format : Option Document.Format) :
    Except Error (List Value) := do
  if document.text = "-" then
    let text ← FileTree.decode s.stdin
    Document.queriesOfText (String.ofList (unifyBreaks text.toList)) (format.getD .json) "<stdin>"
  else
    match format with
    | some format =>
      let p ← document.expandHome s.place
      Document.queriesOfText (← Document.readText s.tree s.place.directory p) format document.text
    | none => Document.load s.tree s.place document

/-- The note on the number of queries, which is printed on request only. -/
def renderNote (v : Verbosity) (count : Nat) : String :=
  lines (if v.verbose || v.debug then [s!"Rendered {count} queries"] else [])

/-- The queries of a document, printed one per line or as a list. Behind the note, each line is printed as
soon as its query is made, and a list when all of them are. -/
def printQueries (c : Config) (v : Verbosity) (format : String) (es : List Expression) :
    Except Escape Outcome :=
  let note := renderNote v es.length
  let (printed, done) : String × Except Fault Unit :=
    if format = "json" then
      match es.mapM Expression.render >>= Json.encodeList c.indent with
      | .ok list => (list ++ "\n", .ok ())
      | .error f => ("", .error f)
    else printEach (fun e => e.render >>= queryLine) es
  match done with
  | .ok () => .ok (.success (note ++ printed))
  | .error f => .error ⟨f, note ++ printed, ""⟩

/-- The queries of the document that is named. One that cannot be had ends with 1, one whose queries
break a rule with 2. -/
def renderDocument (s : Setting) (c : Config) (v : Verbosity) (format : String) (document : Path)
    (input : Option Document.Format) : Except Escape Outcome :=
  match documentQueries s document input with
  | .error e =>
    if e.isDocument then .ok (refuse 1 e.message none)
    else answer (fun e => refuse 2 e.message none) e
  | .ok pairs =>
    match Document.expressions pairs with
    | .ok es => printQueries c v format es
    | .error e =>
      answer (fun e => refuse 2 e.message (some "Check the conditions given for the operator")) e

def render (s : Setting) (c : Config) (v : Verbosity) (a : Arguments) : Except Escape Outcome :=
  let misused := Outcome.usage "One document is to be named."
  match formatOption? a c, inputFormat? a, a.others with
  | some format, some input, text :: others => do
    let document ← namedPath text
    if others.isEmpty then renderDocument s c v format document input else return misused
  | _, _, _ => .ok misused

/-- The settings by default written to a file, if there is none or it is to be overwritten. -/
def createConfig (s : Setting) (path : Path) (force : Bool) : Except Escape Outcome × FileTree :=
  match s.tree.exists? s.place.directory path with
  | .error f => (.error (.of f), s.tree)
  | .ok present =>
    if present && !force then
      (.ok (.failure 1 ("Config file already exists: " ++ path.text)
        (some "Use --force to overwrite")), s.tree)
    else
      match Config.default.save s.tree s.place (some path) with
      | (.ok written, tree) =>
        let created := markedLine ("[success]Created config file: " ++ written.text ++ "[/success]")
        let note := line "Edit this file to customize your settings."
        ((created.mapError .of).map fun created => .success (created ++ note), tree)
      | (.error (.file f), tree) =>
        (.ok (.failure 1 ("Failed to write config file: " ++ f.message) none), tree)
      | (.error f, tree) => (.error (.of f), tree)

/-- The command `init-config`: the path that is named, else the one by default, gets a file of
settings. -/
def initConfig (s : Setting) (a : Arguments) : Except Escape Outcome × FileTree :=
  match (a.get? "--output").mapM namedPath with
  | .error f => (.error (.of f), s.tree)
  | .ok named =>
    if !a.others.isEmpty then (.ok (.usage "No argument is expected."), s.tree)
    else
      match Config.fullPath s.place named with
      | .error f => (.error (.of f), s.tree)
      | .ok path => createConfig s path (a.has "--force")

def help (a : Arguments) : Outcome :=
  match a.others with
  | [] => .success usageText
  | word :: _ =>
    match Command.ofText? word with
    | some c => .success (line c.summary)
    | none => .failure 1 ("Unknown command: " ++ word) none

def runCommand (s : Setting) (c : Config) (v : Verbosity) (command : Command)
    (args : List String) : Except Escape Outcome × FileTree :=
  match Arguments.read? command.switches true args with
  | none => (.ok (.usage command.summary), s.tree)
  | some a =>
    if a.has "--help" then (.ok (.success (line command.summary)), s.tree)
    else match command with
      | .check => (check c v a, s.tree)
      | .render => (render s c v a, s.tree)
      | .help => (.ok (help a), s.tree)
      | .initConfig => initConfig s a

/-- What stands before the command: how much is told, and the file for settings. The command is the first
of the words that follow. -/
structure Opening where
  verbosity : Verbosity
  config : Option Path
  words : List String

/-- What arguments say before the command. Those that are not understood end the run, and so does a
request for help or for the version. -/
def opening (args : List String) : Except Fault (Outcome ⊕ Opening) :=
  match Arguments.read? globalSwitches false args with
  | none => .ok (.inl (.usage usageText))
  | some a =>
    match a.options.find? fun o => o.1 = "--help" || o.1 = "--version" with
    | some (name, _) =>
      .ok (.inl (.success (if name = "--version" then versionText else usageText)))
    | none => do
      let config ← (a.get? "--config").mapM namedPath
      return .inr ⟨⟨a.has "--verbose", a.has "--debug", a.has "--quiet"⟩, config, a.others⟩

/-- The lines for the warnings about the settings, which are told only on request. -/
def told (v : Verbosity) (warnings : List String) : Except Escape String :=
  let (printed, done) := printEach (fun w => markedLine ("Warning: " ++ w))
    (if v.verbose && !v.quiet then warnings else [])
  match done with
  | .ok () => .ok printed
  | .error f => .error ⟨f, "", printed⟩

/-- A command behind its opening: the settings are loaded first, and the run ends if they are
refused. -/
def runWithConfig (s : Setting) (o : Opening) (command : Command) (args : List String) :
    Except Escape Outcome × FileTree :=
  match Config.load s.tree s.place o.config with
  | .error (.fault f) => (.error (.of f), s.tree)
  | .error e => (.ok (.failure 1 e.message none), s.tree)
  | .ok (c, warnings) =>
    match told o.verbosity warnings with
    | .error e => (.error e, s.tree)
    | .ok first =>
      let (outcome, tree) := runCommand s c o.verbosity command args
      (after first outcome, tree)

/-- The end of a run whose words name no command: they are read once more, as they may be options that
stand behind two dashes. -/
def withoutCommand (words : List String) : Except Fault Outcome := do
  match ← opening words with
  | .inl outcome => return outcome
  | .inr _ => return .usage ("No such command: " ++ " ".intercalate (words.take 1))

/-- A run of the program: what it leaves on the streams and in the file system. -/
def run (s : Setting) (args : List String) : Except Escape Outcome × FileTree :=
  match opening args with
  | .error f => (.error (.of f), s.tree)
  | .ok (.inl outcome) => (.ok outcome, s.tree)
  | .ok (.inr o) =>
    match o.words with
    | [] => (.ok (.usage usageText), s.tree)
    | word :: rest =>
      match Command.ofText? word with
      | some command => runWithConfig s o command rest
      | none => ((withoutCommand o.words).mapError .of, s.tree)

end StructuredQuery.CommandLine
