import StructuredQuery.Text.Half
import StructuredQuery.Text.Hex
import StructuredQuery.Text.Printable

/-!
Texts and byte strings as messages show them: between quotes, with everything that is not printable
written as an escape.
-/

namespace StructuredQuery.Text

/-- Double quotes only where that saves an escape: around a text that holds single quotes and no
double ones. -/
def quoteFor (text : List Char) : Char :=
  if text.contains '\'' && !text.contains '"' then '"' else '\''

def shownChar (quotation c : Char) : List Char :=
  if c = quotation ∨ c = '\\' then ['\\', c]
  else if c = '\t' then ['\\', 't']
  else if c = '\n' then ['\\', 'n']
  else if c = '\r' then ['\\', 'r']
  else if isPrintable c then [c]
  else if c.toNat < 0x100 then '\\' :: 'x' :: paddedHex 2 c.toNat
  else if c.toNat < 0x10000 then '\\' :: 'u' :: paddedHex 4 c.toNat
  else match half? c with
    | some n => '\\' :: 'u' :: paddedHex 4 n
    | none => '\\' :: 'U' :: paddedHex 8 c.toNat

def shown (text : String) : String :=
  let q := quoteFor text.toList
  String.ofList (q :: (text.toList.flatMap (shownChar q) ++ [q]))

/-- One byte between the quotes of a shown byte string; only ASCII stands for itself. -/
def shownByte (quotation : Char) (b : UInt8) : List Char :=
  if b < 0x80 then shownChar quotation (Char.ofNat b.toNat)
  else '\\' :: 'x' :: paddedHex 2 b.toNat

def shownBytes (bytes : List UInt8) : String :=
  let q := quoteFor (bytes.map fun b => Char.ofNat b.toNat)
  String.ofList ('b' :: q :: (bytes.flatMap (shownByte q) ++ [q]))

end StructuredQuery.Text
