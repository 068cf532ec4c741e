import StructuredQuery.Files.Path

/-!
A file system as a table from places to what stands there. A place is the row of names that leads to it
from the root, which is always a directory.
-/

namespace StructuredQuery

-- Libraries may compare bytes by instances of their own.
local instance decidableEqBytes : DecidableEq ByteArray := ByteArray.instDecidableEq

/-- What stands at a place: a file with its bytes, a directory, or a device that gives nothing to read and
keeps nothing of what is written to it. -/
inductive Entry
  | file (content : ByteArray)
  | directory
  | device
deriving DecidableEq

/-- The places of a file system with what stands there, and the most bytes that a file may have if their
number is limited. -/
structure FileTree where
  entries : List (List String × Entry)
  fileLimit : Option Nat
deriving DecidableEq

namespace FileTree

def get? (tree : FileTree) (place : List String) : Option Entry :=
  if place.isEmpty then some .directory
  else (tree.entries.find? fun entry => entry.1 = place).map (·.2)

def put (tree : FileTree) (place : List String) (e : Entry) : FileTree :=
  { tree with entries := (place, e) :: tree.entries.filter fun entry => entry.1 ≠ place }

/-- What was put at a place other than the root stands there. -/
theorem get?_put_self (tree : FileTree) {place : List String} (e : Entry) (h : place ≠ []) :
    (tree.put place e).get? place = some e := by
  simp [get?, put, h]

/-- Putting something at a place changes no other place. -/
theorem get?_put_of_ne (tree : FileTree) {place other : List String} (e : Entry) (h : other ≠ place) :
    (tree.put place e).get? other = tree.get? other := by
  have keep : (tree.entries.filter fun entry => entry.1 ≠ place).find? (fun entry => entry.1 = other) =
      tree.entries.find? fun entry => entry.1 = other := by
    rw [List.find?_filter]
    congr 1
    funext entry
    by_cases hp : entry.1 = other
    · simp [hp, h]
    · simp [hp]
  unfold get? put
  rw [List.find?_cons_of_neg (by simpa using h.symm), keep]

def nameLimit : Nat := 255

def pathLimit : Nat := 4095

/-- The place that names lead to from a directory. Every name but the last must lead to a directory. -/
def walk (tree : FileTree) : List String → List String → Except FileFault.Cause (List String)
  | place, [] => .ok place
  | place, name :: rest =>
    match tree.get? place with
    | some .directory =>
      if nameLimit < name.utf8ByteSize then .error .nameTooLong
      else walk tree (if name = ".." then place.dropLast else place ++ [name]) rest
    | some _ => .error .notDirectory
    | none => .error .missing

def locate (tree : FileTree) (directory : List String) (p : Path) : Except Fault (List String) :=
  let refusal (cause : FileFault.Cause) : Fault := .file ⟨cause, p.text⟩
  if p.parts.any Path.hasNull then .error .nullCharacter
  else if pathLimit < p.text.utf8ByteSize then .error (refusal .nameTooLong)
  else (tree.walk (if p.root.isEmpty then directory else []) p.parts).mapError refusal

/-- Whether something stands at a path. That cannot be told of a path with too long a name. -/
def exists? (tree : FileTree) (directory : List String) (p : Path) : Except Fault Bool :=
  match tree.locate directory p with
  | .ok place => .ok (tree.get? place).isSome
  | .error (.file ⟨.nameTooLong, path⟩) => .error (.file ⟨.nameTooLong, path⟩)
  | .error _ => .ok false

def decode (content : ByteArray) : Except Fault String :=
  (String.fromUTF8? content).elim (.error .undecodable) .ok

def read (tree : FileTree) (directory : List String) (p : Path) : Except Fault ByteArray := do
  match tree.get? (← tree.locate directory p) with
  | none => throw (.file ⟨.missing, p.text⟩)
  | some .directory => throw (.file ⟨.isDirectory, p.text⟩)
  | some .device => return .empty
  | some (.file content) => return content

def readText (tree : FileTree) (directory : List String) (p : Path) : Except Fault String := do
  decode (← tree.read directory p)

/-- The beginnings of a row of names, the shortest first, without the empty one. -/
def beginnings : List String → List (List String)
  | [] => []
  | name :: rest => [name] :: (beginnings rest).map (name :: ·)

/-- The tree with a directory at a path, whose parent must be there. A directory that is there already
is kept. -/
def makeDirectory (tree : FileTree) (directory : List String) (p : Path) : Except Fault FileTree := do
  let place ← tree.locate directory p
  match tree.get? place with
  | none => return tree.put place .directory
  | some .directory => return tree
  | some _ => throw (.file ⟨.occupied, p.text⟩)

def taken (tree : FileTree) (content : ByteArray) : ByteArray :=
  tree.fileLimit.elim content (content.extract 0)

/-- Writes bytes to the file at a path, whose parent must be there. The file is emptied first, so if not all
bytes are taken, those that are stand in it alone. -/
def store (tree : FileTree) (directory : List String) (p : Path) (content : ByteArray) :
    Except Fault Unit × FileTree :=
  match tree.locate directory p with
  | .error f => (.error f, tree)
  | .ok place =>
    match tree.get? place with
    | some .directory => (.error (.file ⟨.isDirectory, p.text⟩), tree)
    | some .device => (.ok (), tree)
    | _ =>
      let kept := tree.taken content
      (if kept = content then .ok () else .error (.file ⟨.fileTooLarge, p.text⟩),
        tree.put place (.file kept))

/-- A change that may be refused, and the tree after it. -/
def attempt (tree : FileTree) (change : Except Fault FileTree) : Except Fault Unit × FileTree :=
  match change with
  | .ok changed => (.ok (), changed)
  | .error f => (.error f, tree)

/-- Makes the directory of a row of names, the last of which comes first. If names on the way are
missing, the row without the last one is made before it. -/
def makeWay (tree : FileTree) (directory : List String) (root : String) :
    List String → Except Fault Unit × FileTree
  | [] => tree.attempt (tree.makeDirectory directory ⟨root, []⟩)
  | name :: before =>
    let p : Path := ⟨root, (name :: before).reverse⟩
    match tree.makeDirectory directory p with
    | .error (.file ⟨.missing, _⟩) =>
      match tree.makeWay directory root before with
      | (.ok (), made) => made.attempt (made.makeDirectory directory p)
      | stopped => stopped
    | made => tree.attempt made

/-- Makes the directory at a path and those on the way to it. What was made before a refusal stays. -/
def makeDirectories (tree : FileTree) (directory : List String) (p : Path) :
    Except Fault Unit × FileTree :=
  tree.makeWay directory p.root p.parts.reverse

/-- Writes bytes to the file at a path, whose directories are made. What was made before a refusal
stays. -/
def write (tree : FileTree) (directory : List String) (p : Path) (content : ByteArray) :
    Except Fault Unit × FileTree :=
  match tree.makeDirectories directory p.parent with
  | (.ok (), made) => made.store directory p content
  | stopped => stopped

end FileTree

/-- A text with the line breaks of all systems written as one character. -/
def unifyBreaks : List Char → List Char
  | [] => []
  | '\r' :: '\n' :: rest => '\n' :: unifyBreaks rest
  | c :: rest => (if c = '\r' then '\n' else c) :: unifyBreaks rest

end StructuredQuery
