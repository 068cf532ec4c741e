/-!
The body of a quoted string in query text. A backslash makes the character after it an ordinary
one, and only backslashes and quotes are written behind one. Reading a written body gives the text
back, whatever it holds.
-/

namespace StructuredQuery.Text

/-- The text with a backslash before each backslash and each single quote. -/
def escape : List Char → List Char
  | [] => []
  | c :: rest => if c = '\\' ∨ c = '\'' then '\\' :: c :: escape rest else c :: escape rest

/-- The text that an escaped body stands for; a backslash at the very end stands for itself. -/
def unescape : List Char → List Char
  | [] => []
  | ['\\'] => ['\\']
  | '\\' :: c :: rest => c :: unescape rest
  | c :: rest => c :: unescape rest

def quote (text : List Char) : List Char :=
  '\'' :: (escape text ++ ['\''])

theorem unescape_cons {c : Char} (h : c ≠ '\\') (rest : List Char) :
    unescape (c :: rest) = c :: unescape rest := by
  rw [unescape] <;> simp_all

theorem unescape_backslash (c : Char) (rest : List Char) :
    unescape ('\\' :: c :: rest) = c :: unescape rest := by
  rw [unescape]

/-- Escaping is undone by reading. -/
theorem unescape_escape (text : List Char) : unescape (escape text) = text := by
  induction text with
  | nil => rfl
  | cons c rest ih =>
    rw [escape]
    split
    · rw [unescape_backslash, ih]
    · rw [unescape_cons (by simp_all), ih]

end StructuredQuery.Text
