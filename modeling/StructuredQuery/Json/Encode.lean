import StructuredQuery.Fault
import StructuredQuery.Text.Half
import StructuredQuery.Text.Hex

/-!
Texts in JSON, in ASCII only, and lists and objects of them on indented lines.
-/

namespace StructuredQuery.Json

def encodeUnit (n : Nat) : List Char :=
  '\\' :: 'u' :: Text.paddedHex 4 n

/-- One character between quotes. What is not printable ASCII is written as one or two code units. -/
def encodeChar (c : Char) : List Char :=
  if c = '"' then ['\\', '"']
  else if c = '\\' then ['\\', '\\']
  else if c = '\n' then ['\\', 'n']
  else if c = '\r' then ['\\', 'r']
  else if c = '\t' then ['\\', 't']
  else if c = '\x08' then ['\\', 'b']
  else if c = '\x0c' then ['\\', 'f']
  else if 0x20 ≤ c.toNat ∧ c.toNat < 0x7F then [c]
  else if c.toNat < 0x10000 then encodeUnit c.toNat
  else
    let n := c.toNat - 0x10000
    encodeUnit (0xD800 + n / 0x400) ++ encodeUnit (0xDC00 + n % 0x400)

/-- Characters between quotes. Half of a pair is written by itself, but not a first one before a second one:
the two would be read as a pair. -/
def encodeChars : List Char → List Char
  | [] => []
  | c :: rest =>
    (match Text.half? c with
      | none => encodeChar c
      | some n =>
        if Text.isHigh n && (rest.head?.bind Text.half?).any Text.isLow then encodeChar c
        else encodeUnit n) ++ encodeChars rest

def encodeString (s : String) : String :=
  String.ofList ('"' :: (encodeChars s.toList ++ ['"']))

/-- Counts from here on are too large to be counts at all. -/
def largestCount : Int := 9223372036854775808

/-- Texts of this length and more cannot be held. -/
def largestText : Int := 1099511627776

def indentation (indent : Int) : Except Fault String :=
  if largestCount ≤ indent then .error .overflow
  else if largestText ≤ indent then .error .outOfMemory
  else .ok (String.ofList (List.replicate indent.toNat ' '))

/-- Lines between brackets, each indented; no line gives the brackets alone. -/
def enclose (left right : String) (indent : Int) (lines : List String) : Except Fault String := do
  let margin ← indentation indent
  if lines.isEmpty then return left ++ right
  return left ++ "\n" ++ ",\n".intercalate (lines.map (margin ++ ·)) ++ "\n" ++ right

def encodeList (indent : Int) (items : List String) : Except Fault String :=
  enclose "[" "]" indent (items.map encodeString)

def encodeObject (indent : Int) (members : List (String × String)) : Except Fault String :=
  enclose "\x7b" "\x7d" indent (members.map fun (key, value) =>
    encodeString key ++ ": " ++ encodeString value)

end StructuredQuery.Json
