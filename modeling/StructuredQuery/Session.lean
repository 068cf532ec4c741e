import StructuredQuery.CommandLine.Program

/-!
Sessions: a file system, a directory in it that is also the home, and current settings, on which steps
are taken one after the other. A step that fails may have changed the file system on its way.
-/

namespace StructuredQuery

structure Session where
  directory : List String
  tree : FileTree
  config : Config

inductive Step
  | write (path : Path) (content : ByteArray)
  | makeDirectory (path : Path)
  | read (path : Path)
  | loadConfig (path : Option Path)
  | changeConfig (change : Config → Except Fault Config)
  | validate
  | saveConfig (path : Option Path)
  | loadDocument (path : Path)
  | run (args : List String) (stdin : ByteArray) (home : Option String)

inductive Answer
  | done
  | text (found : Option String)
  | config (c : Config)
  | checked (c : Config) (warnings : List String)
  | written (path : Path)
  | queries (pairs : List Value) (texts : List String)
  | outcome (o : CommandLine.Outcome)

namespace Session

/-- What stands in a file system besides the directories of a session: a directory of devices, the home of
the user `root`, and a directory for files that do not last. -/
def surroundings : List (List String × Entry) :=
  [(["dev"], .directory), (["dev", "null"], .device), (["root"], .directory), (["tmp"], .directory)]

/-- A new session in an empty directory, where files may have a number of bytes that is limited or not. -/
def start (directory : List String) (fileLimit : Option Nat) : Session :=
  let places := FileTree.beginnings directory
  ⟨directory, places.foldl (fun tree place => tree.put place .directory) ⟨surroundings, fileLimit⟩, .default⟩

def place (s : Session) : Place :=
  ⟨"/" ++ "/".intercalate s.directory, [("root", "/root")], s.directory⟩

/-- The end of a step that changes the file system. A failure is answered, and the tree is still the new
one. -/
def finish {α : Type} (s : Session) (answer : α → Answer) (done : Except Fault α × FileTree) :
    Except Error Answer × Session :=
  ((done.1.map answer).mapError .fault, { s with tree := done.2 })

def configure (s : Session) (done : Except Error (Config × List String)) :
    Except Error Answer × Session :=
  match done with
  | .ok (config, warnings) => (.ok (.checked config warnings), { s with config })
  | .error e => (.error e, s)

def readText? (s : Session) (path : Path) : Except Fault (Option String) := do
  if ← s.tree.exists? s.directory path then
    return some (← s.tree.readText s.directory path)
  else return none

def loadDocument (s : Session) (path : Path) : Except Error Answer := do
  let pairs ← Document.load s.tree s.place path
  return .queries pairs (← Document.queryTexts pairs)

def step (s : Session) : Step → Except Error Answer × Session
  | .write path content => s.finish (fun () => .done) (s.tree.write s.directory path content)
  | .makeDirectory path => s.finish (fun () => .done) (s.tree.makeDirectories s.directory path)
  | .read path => (((s.readText? path).map .text).mapError .fault, s)
  | .loadConfig path => s.configure (Config.load s.tree s.place path)
  | .changeConfig change =>
    match change s.config with
    | .ok config => (.ok (.config config), { s with config })
    | .error f => (.error (.fault f), s)
  | .validate => s.configure (s.config.validate.mapError .fault)
  | .saveConfig path => s.finish .written (s.config.save s.tree s.place path)
  | .loadDocument path => (s.loadDocument path, s)
  | .run args stdin home =>
    let place := { s.place with home := home.getD s.place.home }
    let (result, tree) := CommandLine.run ⟨place, s.tree, stdin⟩ args
    s.finish .outcome (result.mapError (·.fault), tree)

/-- The answers to a row of steps, each taken in the state that the one before it leaves. -/
def answers (s : Session) : List Step → List (Except Error Answer)
  | [] => []
  | step :: rest =>
    let (answer, s) := s.step step
    answer :: answers s rest

end Session

end StructuredQuery
