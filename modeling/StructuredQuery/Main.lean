import StructuredQuery.CommandLine.Program

/-!
The program on a real file system. Whatever stands at the places that a run may ask for is read first,
the run itself is computed, and then the files that it changed are written.
-/

namespace StructuredQuery.CommandLine

/-- The texts in an argument that may be paths: all of it, what stands behind an equals sign, and what
stands behind the letter of an option. -/
def pathTexts (arg : String) : List String :=
  let cs := arg.toList
  [arg, String.ofList ((cs.dropWhile (· ≠ '=')).drop 1), String.ofList (cs.drop 2)]

/-- The places that a path leads through when it is followed from a directory. -/
def placesOf (directory : List String) (p : Path) : List (List String) :=
  let way := if p.root.isEmpty then directory ++ p.parts else p.parts
  (FileTree.beginnings way).map Path.collapse

/-- The places that a run may ask for, as far as its arguments tell. -/
def namedPlaces (place : Place) (args : List String) : List (List String) :=
  let named := (args.flatMap pathTexts).map fun text => (Path.ofText text).expandHome place
  (Config.defaultPath place.home :: named).flatMap fun
    | .ok p => placesOf place.directory p
    | .error _ => []

def look (parts : List String) : IO (Option Entry) := do
  let entry : IO.FS.DirEntry := ⟨"/", "/".intercalate parts⟩
  if ← entry.path.isDir then return some .directory
  else if !(← entry.path.pathExists) then return none
  else match (← entry.path.metadata).type with
    | .file => return some (.file (← IO.FS.readBinFile entry.path))
    | _ => return some .device

/-- The part of the file system that stands at some places. -/
def gatherTree (places : List (List String)) : IO FileTree := do
  let mut tree : FileTree := ⟨[], none⟩
  for place in places do
    match ← look place with
    | some entry => tree := tree.put place entry
    | none => pure ()
  return tree

/-- Writes what has changed from one file system to another; directories come before what is in them. -/
def store (before after : FileTree) : IO Unit := do
  let changed := after.entries.filter fun (place, entry) => before.get? place ≠ some entry
  for (place, entry) in changed.reverse do
    let target : IO.FS.DirEntry := ⟨"/", "/".intercalate place⟩
    match entry with
    | .directory => IO.FS.createDirAll target.path
    | .file content => IO.FS.writeBinFile target.path content
    | .device => pure ()

def userHomes : IO (List (String × String)) := do
  let entry : IO.FS.DirEntry := ⟨"/etc", "passwd"⟩
  if !(← entry.path.pathExists) then return []
  let lines ← IO.FS.lines entry.path
  return lines.toList.filterMap fun line =>
    match line.splitOn ":" with
    | name :: _ :: _ :: _ :: _ :: home :: _ => some (name, home)
    | _ => none

end StructuredQuery.CommandLine

open StructuredQuery CommandLine in
def main (args : List String) : IO UInt32 := do
  let directory := (Path.ofText (← IO.currentDir).toString).parts
  let place : Place := ⟨(← IO.getEnv "HOME").getD "/", ← userHomes, directory⟩
  let tree ← gatherTree (FileTree.beginnings directory ++ namedPlaces place args)
  let readsStdin := args.any fun arg => (Path.ofText arg).text = "-"
  let stdin ← if readsStdin then (← IO.getStdin).readBinToEnd else pure .empty
  let (result, after) := run ⟨place, tree, stdin⟩ args
  store tree after
  match result with
  | .error e =>
    IO.print e.stdout
    IO.eprint e.stderr
    IO.eprintln "The run failed."
    return 1
  | .ok outcome =>
    IO.print outcome.stdout
    IO.eprint outcome.stderr
    return outcome.exit.toUInt32
