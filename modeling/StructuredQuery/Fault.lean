import StructuredQuery.Text.Shown

/-!
Failures that are no verdict on a query: an operation was asked for what it cannot do. A file that
cannot be read or written is one of them.
-/

namespace StructuredQuery

inductive FileFault.Cause
  | missing
  | isDirectory
  | notDirectory
  | occupied
  | fileTooLarge
  | nameTooLong
deriving DecidableEq, Repr

structure FileFault where
  cause : FileFault.Cause
  path : String
deriving DecidableEq, Repr

def FileFault.Cause.text : FileFault.Cause → String
  | missing => "[Errno 2] No such file or directory"
  | occupied => "[Errno 17] File exists"
  | notDirectory => "[Errno 20] Not a directory"
  | isDirectory => "[Errno 21] Is a directory"
  | fileTooLarge => "[Errno 27] File too large"
  | nameTooLong => "[Errno 36] File name too long"

/-- The refusal with the path as messages show it. A write that breaks off is not told with its path. -/
def FileFault.message (f : FileFault) : String :=
  match f.cause with
  | .fileTooLarge => f.cause.text
  | _ => s!"{f.cause.text}: {Text.shown f.path}"

/-- Failures outside the rules of queries, documents and settings. -/
inductive Fault
  /-- A value of this kind does not support the operation. -/
  | wrongKind
  /-- A value lacks the part that the operation needs. -/
  | missingPart
  /-- A number has more digits than may be read or written. -/
  | digitLimit
  /-- Parts that make no value together, such as the thirtieth of February. -/
  | invalidParts
  /-- A decimal that is no number was compared or read. -/
  | invalidDecimal
  /-- The home directory of a user is not known. -/
  | unknownUser
  /-- An amount is too large to be used as a count. -/
  | overflow
  /-- A result is too large to be held. -/
  | outOfMemory
  /-- A field was given more than a name and a value. -/
  | tooManyArguments (given : Nat)
  /-- A path holds a null character, which no name may have. -/
  | nullCharacter
  /-- Bytes that are to be read as a text are none. -/
  | undecodable
  /-- A text that is to be printed holds half of a pair of code units. -/
  | unencodable
  /-- A message closes a style that is not open. -/
  | styleNotOpen
  /-- The file system refused an access. -/
  | file (fault : FileFault)
deriving DecidableEq, Repr

end StructuredQuery
