import StructuredQuery.Number.Integer
import StructuredQuery.Text.Hex

/-!
Values in TOML texts.
-/

namespace StructuredQuery.Toml

/-- One character between the quotes of a basic string. A tab stands for itself. -/
def encodeChar (c : Char) : List Char :=
  if c = '"' then ['\\', '"']
  else if c = '\\' then ['\\', '\\']
  else if c = '\n' then ['\\', 'n']
  else if c = '\r' then ['\\', 'r']
  else if c = '\x08' then ['\\', 'b']
  else if c = '\x0c' then ['\\', 'f']
  else if (c.toNat < 0x20 ∧ c ≠ '\t') ∨ c.toNat = 0x7F then '\\' :: 'u' :: Text.paddedHex 4 c.toNat
  else [c]

def encodeString (s : String) : String :=
  String.ofList ('"' :: (s.toList.flatMap encodeChar ++ ['"']))

def encodeBool (b : Bool) : String :=
  if b then "true" else "false"

end StructuredQuery.Toml
