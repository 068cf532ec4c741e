import StructuredQuery.Text.Blank
import StructuredQuery.Text.Emoji.Names
import StructuredQuery.Text.Hex
import StructuredQuery.Text.Run

/-!
Pictographs by their names. A name between two colons stands for its pictograph, and one that is not
known for itself.
-/

namespace StructuredQuery.Text.Emoji

/-- The characters of code points in hexadecimal with plus signs between them. -/
def ofCode (code : List Char) : List Char :=
  ((String.ofList code).splitOn "+").filterMap fun digits => (hexValue? digits.toList).map Char.ofNat

/-- A flag is written with the letters of its region in a script of their own. -/
def ofRegion (region : List Char) : List Char :=
  region.map fun c => Char.ofNat (0x1F1E6 + (c.toNat - 'a'.toNat))

/-- The names in the rows of a table with their pictographs, where the codes are read in some way. -/
def pairs (rows : List String) (ofCode : List Char → List Char) : List (List Char × List Char) :=
  (rows.flatMap (·.splitOn " ")).map fun entry =>
    let (name, code) := entry.toList.span (· ≠ '=')
    (name, ofCode (code.drop 1))

def peoplePairs : List (List Char × List Char) := pairs people ofCode

def allPairs : List (List Char × List Char) :=
  peoplePairs ++ pairs symbols ofCode ++ pairs flags ofRegion

def find? (table : List (List Char × List Char)) (name : List Char) : Option (List Char) :=
  (table.find? (·.1 = name)).map (·.2)

def tones : List (List Char × Char) :=
  [("_light_skin_tone".toList, Char.ofNat 0x1F3FB),
    ("_medium-light_skin_tone".toList, Char.ofNat 0x1F3FC),
    ("_medium_skin_tone".toList, Char.ofNat 0x1F3FD),
    ("_medium-dark_skin_tone".toList, Char.ofNat 0x1F3FE),
    ("_dark_skin_tone".toList, Char.ofNat 0x1F3FF)]

/-- A pictograph in a tone, which stands behind the first character in the place of a style. -/
def inTone (tone : Char) : List Char → List Char
  | [] => []
  | c :: '\uFE0F' :: rest => c :: tone :: rest
  | c :: rest => c :: tone :: rest

def toned? (name : List Char) : Option (List Char) :=
  tones.findSome? fun (ending, tone) =>
    if ending.isSuffixOf name then
      (find? peoplePairs (name.take (name.length - ending.length))).map (inTone tone)
    else none

def toSmall (c : Char) : Char :=
  if c = '\u212A' then 'k'
  else if c = '\u212B' then 'å'
  else if 'À' ≤ c && c ≤ 'Þ' && c ≠ '×' then Char.ofNat (c.toNat + 32)
  else c.toLower

def ofName? (name : List Char) : Option (List Char) :=
  let name := name.map toSmall
  (find? allPairs name).or (toned? name)

/-- The two styles that a name may ask for at its end, with the characters for them. -/
def styles : List (List Char × Char) :=
  [("-emoji".toList, '\uFE0F'), ("-text".toList, '\uFE0E')]

def ofWord? (word : List Char) : Option (List Char) :=
  match styles.find? (·.1.isSuffixOf word) with
  | none => ofName? word
  | some (ending, style) => (ofName? (word.take (word.length - ending.length))).map (· ++ [style])

def isNameChar (c : Char) : Bool :=
  !isBlank c && c ≠ ':'

/-- A text with the known names between colons replaced by their pictographs. -/
def replace (text : List Char) : List Char :=
  match text with
  | [] => []
  | c :: rest =>
    if c ≠ ':' then c :: replace rest
    else
      let word := rest.takeWhile isNameChar
      match _h : rest.dropWhile isNameChar with
      | ':' :: after => (ofWord? word).getD (':' :: word ++ [':']) ++ replace after
      | _ => ':' :: replace rest
termination_by text.length
decreasing_by
  · simp
  · have := length_dropWhile_le isNameChar rest
    simp_all
    omega
  · simp

end StructuredQuery.Text.Emoji
