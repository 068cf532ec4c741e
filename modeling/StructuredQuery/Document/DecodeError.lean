import StructuredQuery.Fault

/-!
Why a text could not be decoded.
-/

namespace StructuredQuery

/-- A text is not of the format, by what is said of the place where that shows and is told by the rest of the
text there, or it holds a number of too many digits. -/
inductive DecodeError
  | malformed (what : String) (rest : List Char)
  | fault (f : Fault)
deriving DecidableEq, Repr

namespace DecodeError

/-- What could not be read at all is malformed. -/
def require {α : Type} (what : String) (rest : List Char) (found : Option α) : Except DecodeError α :=
  found.elim (.error (.malformed what rest)) .ok

@[simp] theorem require_some {α : Type} (what : String) (rest : List Char) (a : α) :
    require what rest (some a) = .ok a := rfl

end DecodeError

instance : MonadLift (Except Fault) (Except DecodeError) where
  monadLift r := r.mapError .fault

end StructuredQuery
