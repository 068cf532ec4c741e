import StructuredQuery.Value.Mapping

/-!
Tables under construction. A path of keys leads from the outermost table inwards; the tables on the way
are made if they are missing, and an array of tables is entered at its last one. What may still be
opened or changed is kept as a set of paths beside the data.
-/

namespace StructuredQuery.Toml

abbrev Entries := List (Value × Value)

def changeLast (change : Entries → Option Entries) (items : List Value) : Option (List Value) :=
  match items.getLast? with
  | some (.mapping entries) => (change entries).map fun es => items.dropLast ++ [.mapping es]
  | _ => none

/-- A change made to the table at the end of a path. There is none behind anything but a table, or an
array of tables where arrays may be entered. -/
def changeAt (arrays : Bool) (change : Entries → Option Entries) :
    List String → Entries → Option Entries
  | [], es => change es
  | key :: path, es =>
    match Mapping.get? key es with
    | none => (changeAt arrays change path []).map fun inner => Mapping.put (.text key) (.mapping inner) es
    | some (.mapping inner) =>
      (changeAt arrays change path inner).map fun inner => Mapping.put (.text key) (.mapping inner) es
    | some (.list items) =>
      if arrays then
        (changeLast (changeAt arrays change path) items).map fun items =>
          Mapping.put (.text key) (.list items) es
      else none
    | some _ => none

def addEntry (key : String) (value : Value) (es : Entries) : Option Entries :=
  match Mapping.get? key es with
  | some _ => none
  | none => some (Mapping.put (.text key) value es)

def addTable (key : String) (es : Entries) : Option Entries :=
  match Mapping.get? key es with
  | none => some (Mapping.put (.text key) (.list [.mapping []]) es)
  | some (.list items) => some (Mapping.put (.text key) (.list (items ++ [.mapping []])) es)
  | some _ => none

def splitLast (first : String) : List String → List String × String
  | [] => ([], first)
  | next :: rest =>
    let (path, last) := splitLast next rest
    (first :: path, last)

def showPath (path : List String) : String :=
  let keys := ", ".intercalate (path.map Text.shown)
  "(" ++ keys ++ (if path.length = 1 then ",)" else ")")

/-- What is said if a value is in the place of a table, or would be written over. -/
def valueThere : String := "Cannot overwrite a value"

/-- What is said if a path leads to something that may not be changed. -/
def closedThere (path : List String) : String :=
  "Cannot mutate immutable namespace " ++ showPath path

def isClosed : Value → Bool
  | .mapping _ => true
  | .list _ => true
  | _ => false

/-- A document under construction: its data, the tables that may not be declared again, the values that
may not be changed, the tables that dotted keys opened since the last header, and the path of that
header. -/
structure State where
  entries : Entries
  declared : List (List String)
  closed : List (List String)
  opened : List (List String)
  header : List String

namespace State

def empty : State := ⟨[], [], [], [], []⟩

def isClosed (s : State) (path : List String) : Bool :=
  s.closed.any (·.isPrefixOf path)

/-- At a header, the tables that dotted keys opened count as declared. -/
def settle (s : State) : State :=
  { s with declared := s.opened ++ s.declared, opened := [] }

def openTable (path : List String) (s : State) : Except String State :=
  let shown := showPath path
  if s.declared.contains path || s.isClosed path then .error s!"Cannot declare {shown} twice"
  else match changeAt true some path s.entries with
    | none => .error valueThere
    | some entries => .ok { s with entries, declared := path :: s.declared, header := path }

/-- The header of one more table in an array; what was declared within the table before it does not
count any more. -/
def openArray (first : String) (others : List String) (s : State) : Except String State :=
  let path := first :: others
  let (parent, last) := splitLast first others
  if s.isClosed path then .error (closedThere path)
  else match changeAt true (addTable last) parent s.entries with
    | none => .error valueThere
    | some entries =>
      let outside (p : List String) : Bool := !path.isPrefixOf p
      .ok { s with
        entries
        declared := path :: s.declared.filter outside
        closed := s.closed.filter outside
        header := path }

/-- The tables on the way that a dotted key takes from a header. -/
def passed (header : List String) : List String → List (List String)
  | [] => []
  | key :: rest => (header ++ [key]) :: passed (header ++ [key]) rest

def define (first : String) (others : List String) (value : Value) (s : State) : Except String State :=
  let (parent, last) := splitLast first others
  let way := passed s.header parent
  match way.find? s.declared.contains with
  | some path =>
    let shown := showPath path
    .error s!"Cannot redefine namespace {shown}"
  | none =>
    if s.isClosed (s.header ++ parent) then .error (closedThere (s.header ++ parent))
    else match changeAt true (addEntry last value) (s.header ++ parent) s.entries with
      | none => .error valueThere
      | some entries => .ok { s with
        entries
        opened := way ++ s.opened
        closed := if Toml.isClosed value then (s.header ++ first :: others) :: s.closed else s.closed }

end State

end StructuredQuery.Toml
