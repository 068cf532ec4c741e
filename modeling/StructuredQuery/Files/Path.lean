import StructuredQuery.Fault

/-!
File paths: a root or none, and the names on the way. Empty names and single points do not count; two
points lead back, and a tilde in front stands for a home directory.
-/

namespace StructuredQuery

/-- A path; the root is empty for a relative one. -/
structure Path where
  root : String
  parts : List String
deriving DecidableEq, Repr

/-- What paths are read from: the text for the home directory, those for the homes of users by their names,
and the working directory. -/
structure Place where
  home : String
  users : List (String × String)
  directory : List String
deriving DecidableEq, Repr

namespace Path

def splitSlashes : List Char → List (List Char)
  | [] => [[]]
  | c :: rest =>
    if c = '/' then [] :: splitSlashes rest
    else match splitSlashes rest with
      | [] => [[c]]
      | piece :: pieces => (c :: piece) :: pieces

/-- The root that a text starts with: exactly two slashes are a root of their own. -/
def rootOf : List Char → String
  | ['/', '/'] => "//"
  | '/' :: '/' :: c :: _ => if c = '/' then "/" else "//"
  | '/' :: _ => "/"
  | _ => ""

def ofText (text : String) : Path :=
  let pieces := (splitSlashes text.toList).map String.ofList
  ⟨rootOf text.toList, pieces.filter fun piece => piece ≠ "" && piece ≠ "."⟩

def text (p : Path) : String :=
  if p.root.isEmpty && p.parts.isEmpty then "." else p.root ++ "/".intercalate p.parts

def name (p : Path) : String :=
  p.parts.getLast?.getD ""

/-- The ending of the last name with its point. There is none if the point is its first or its last
character. -/
def suffix (p : Path) : String :=
  let reversed := p.name.toList.reverse
  let ending := reversed.takeWhile (· ≠ '.')
  match reversed.dropWhile (· ≠ '.') with
  | _ :: _ :: _ => if ending.isEmpty then "" else String.ofList ('.' :: ending.reverse)
  | _ => ""

def parent (p : Path) : Path := { p with parts := p.parts.dropLast }

def append (p : Path) (names : List String) : Path := { p with parts := p.parts ++ names }

def hasNull (text : String) : Bool :=
  text.toList.contains '\x00'

/-- The home directory that a text names. Slashes at its end do not count, and nothing stands for the
root; behind a tilde no directory is known. -/
def ofHome (text : String) : Except Fault Path :=
  let kept := (text.toList.reverse.dropWhile (· = '/')).reverse
  if kept.isEmpty then .ok ⟨"/", []⟩
  else if kept.head? = some '~' then .error .unknownUser
  else .ok (ofText (String.ofList kept))

/-- The home directory behind a tilde: one's own, or that of the user whose name follows. -/
def homeOf (place : Place) (user : String) : Except Fault Path :=
  if user.isEmpty then ofHome place.home
  else if hasNull user then .error .nullCharacter
  else match place.users.find? (·.1 = user) with
    | some (_, home) => ofHome home
    | none => .error .unknownUser

/-- The path with a tilde in front, and the name behind it if there is one, replaced by a home directory. -/
def expandHome (place : Place) (p : Path) : Except Fault Path :=
  match p.parts with
  | [] => .ok p
  | first :: rest =>
    match p.root.isEmpty, first.toList with
    | true, '~' :: user => (homeOf place (String.ofList user)).map (·.append rest)
    | _, _ => .ok p

/-- The names with each pair of points taken together with the name before it. -/
def collapse (parts : List String) : List String :=
  parts.foldl (fun done part => if part = ".." then done.dropLast else done ++ [part]) []

/-- The path from the root, read from a directory, without points. -/
def resolve (directory : List String) (p : Path) : Except Fault Path :=
  if p.parts.any hasNull then .error .nullCharacter
  else .ok ⟨"/", collapse (if p.root.isEmpty then directory ++ p.parts else p.parts)⟩

end Path

end StructuredQuery
