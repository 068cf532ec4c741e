/-!
Options among the arguments of a command. An option is written in full with its value behind an equals
sign or as the next argument, or as a letter behind a single dash, several of which may stand together;
what is left of an argument behind the letter of an option with a value is that value.
-/

namespace StructuredQuery.CommandLine

structure Switch where
  long : String
  short : Option Char
  takesValue : Bool
deriving DecidableEq, Repr

/-- The options that were given, by their long names, with their values, and the other arguments. -/
structure Arguments where
  options : List (String × String)
  others : List String
deriving DecidableEq, Repr

namespace Arguments

def has (a : Arguments) (long : String) : Bool :=
  a.options.any (·.1 = long)

def get? (a : Arguments) (long : String) : Option String :=
  (a.options.reverse.find? (·.1 = long)).map (·.2)

/-- An option with its value, which is given or the next argument. -/
def withValue (s : Switch) (given : Option String) (rest : List String) :
    Option (List (String × String) × List String) :=
  match given, rest with
  | some value, rest => some ([(s.long, value)], rest)
  | none, value :: rest => some ([(s.long, value)], rest)
  | none, [] => none

/-- The options whose letters stand together behind a dash. -/
def letters (known : List Switch) : List Char → List String →
    Option (List (String × String) × List String)
  | [], rest => some ([], rest)
  | c :: cs, rest =>
    match known.find? (·.short = some c) with
    | none => none
    | some s =>
      if s.takesValue then
        withValue s (if cs.isEmpty then none else some (String.ofList cs)) rest
      else (letters known cs rest).map fun (found, rest) => ((s.long, "") :: found, rest)

/-- The option of an argument that starts with a dash. One without a value must not be given any. -/
def option? (known : List Switch) (arg : String) (rest : List String) :
    Option (List (String × String) × List String) :=
  let name := arg.toList.takeWhile (· ≠ '=')
  let given := match arg.toList.dropWhile (· ≠ '=') with
    | [] => none
    | _ :: value => some (String.ofList value)
  match known.find? (·.long.toList = name) with
  | some s =>
    if s.takesValue then withValue s given rest
    else if given.isSome then none
    else some ([(s.long, "")], rest)
  | none =>
    match arg.toList with
    | '-' :: '-' :: _ => none
    | _ :: cs => letters known cs rest
    | [] => none

def isOption (arg : String) : Bool :=
  arg.toList.head? = some '-' && arg ≠ "-"

/-- The options and the other arguments, or nothing if an option is not known or lacks its value. Behind
two dashes stand no options. Where options may not follow other arguments, the first of these ends
them. -/
def read? (known : List Switch) (mixed : Bool) (args : List String) : Option Arguments :=
  match args with
  | [] => some ⟨[], []⟩
  | arg :: rest =>
    if arg = "--" then some ⟨[], rest⟩
    else if isOption arg then
      match option? known arg rest with
      | none => none
      | some (found, rest') =>
        if _h : rest'.length ≤ rest.length then
          (read? known mixed rest').map fun a => ⟨found ++ a.options, a.others⟩
        else none
    else if mixed then (read? known mixed rest).map fun a => ⟨a.options, arg :: a.others⟩
    else some ⟨[], arg :: rest⟩
termination_by args.length

end Arguments

end StructuredQuery.CommandLine
