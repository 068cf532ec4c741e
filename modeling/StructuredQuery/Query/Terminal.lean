import StructuredQuery.Number.NumberText
import StructuredQuery.Operator
import StructuredQuery.Text.Blank
import StructuredQuery.Text.Escape

/-!
The terminals of query text. Each is taken as far as it reaches from the front of a text; what is left
comes with it. Between any two terminals there may be spaces.
-/

namespace StructuredQuery.Query

open Text

def isSpace (c : Char) : Bool :=
  c = ' ' || c = '\t' || c = '\x0c' || c = '\r' || c = '\n'

def skipSpaces (cs : List Char) : List Char :=
  cs.dropWhile isSpace

def isOperatorChar (c : Char) : Bool :=
  'a' ≤ c && c ≤ 'z'

def isNameStart (c : Char) : Bool :=
  ('a' ≤ c && c ≤ 'z') || ('A' ≤ c && c ≤ 'Z') || c = '_'

def isNameChar (c : Char) : Bool :=
  isNameStart c || ('0' ≤ c && c ≤ '9') || c = '.' || c = '-'

def name? : List Char → Option (List Char × List Char)
  | [] => none
  | c :: rest =>
    if isNameStart c then some (c :: rest.takeWhile isNameChar, rest.dropWhile isNameChar) else none

def number? (cs : List Char) : Option (NumberText × List Char) :=
  NumberText.take? isDecimalDigit cs

/-- The body of a string up to the quote that closes it. A backslash takes the character after it
along, which must not be a line break. -/
def stringBody? : List Char → Option (List Char × List Char)
  | [] => none
  | '\'' :: rest => some ([], rest)
  | ['\\'] => none
  | '\\' :: c :: rest =>
    if c = '\n' then none
    else (stringBody? rest).map fun (body, rest) => ('\\' :: c :: body, rest)
  | c :: rest => (stringBody? rest).map fun (body, rest) => (c :: body, rest)

def string? : List Char → Option (List Char × List Char)
  | '\'' :: rest => stringBody? rest
  | _ => none

theorem length_skipSpaces_le (cs : List Char) : (skipSpaces cs).length ≤ cs.length :=
  length_dropWhile_le isSpace cs

theorem length_name? {cs name rest : List Char} (h : name? cs = some (name, rest)) :
    rest.length < cs.length := by
  unfold name? at h
  split at h
  · simp at h
  · next c left =>
    split at h
    · obtain ⟨-, rfl⟩ : _ ∧ left.dropWhile isNameChar = rest := by simpa using h
      have := length_dropWhile_le isNameChar left
      simp only [List.length_cons]
      omega
    · simp at h

theorem length_stringBody? {cs body rest : List Char} (h : stringBody? cs = some (body, rest)) :
    rest.length < cs.length := by
  fun_induction stringBody? cs generalizing body with
  | case1 => simp at h
  | case2 left => simp_all
  | case3 => simp at h
  | case4 => simp at h
  | case5 c left hc ih =>
    simp only [Option.map_eq_some_iff, Prod.exists, Prod.mk.injEq] at h
    obtain ⟨inner, left', hi, -, rfl⟩ := h
    have := ih hi
    simp only [List.length_cons]
    omega
  | case6 c left _ _ _ ih =>
    simp only [Option.map_eq_some_iff, Prod.exists, Prod.mk.injEq] at h
    obtain ⟨inner, left', hi, -, rfl⟩ := h
    have := ih hi
    simp only [List.length_cons]
    omega

/-- An escaped text followed by a quote is exactly the body of a string, whatever comes after it. -/
theorem stringBody?_escape (s rest : List Char) :
    stringBody? (escape s ++ '\'' :: rest) = some (escape s, rest) := by
  induction s with
  | nil => simp [escape, stringBody?]
  | cons c s ih =>
    rw [escape]
    split
    · next h =>
      have hn : c ≠ '\n' := by
        rcases h with rfl | rfl <;> decide
      simp [stringBody?, hn, ih]
    · next h =>
      have hb : c ≠ '\\' := fun e => h (.inl e)
      have hq : c ≠ '\'' := fun e => h (.inr e)
      rw [List.cons_append, stringBody?] <;> simp_all

/-- A quoted text is read back as a string with exactly its body. -/
theorem string?_quote (s rest : List Char) : string? (quote s ++ rest) = some (escape s, rest) := by
  simp [quote, string?, stringBody?_escape]

end StructuredQuery.Query
