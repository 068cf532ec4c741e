import StructuredQuery.Files.Tree
import StructuredQuery.Proofs.Expression.Result

/-!
Why a file cannot be read. The file system refuses the access, or the path is none: it holds a null character,
or it begins with a tilde behind which no home directory is known.
-/

namespace StructuredQuery

namespace Path

end Path

namespace FileTree

/-- The failures of an access: the file system refuses it, or the path holds a null character. -/
def Refuses (p : Path) (f : Fault) : Prop :=
  (∃ fault, f = .file fault) ∨ f = .nullCharacter ∧ p.parts.any Path.hasNull

/-- Following a path fails only by a refusal that names it or for a null character in it. -/
theorem meets_locate (tree : FileTree) (directory : List String) (p : Path) :
    Meets (fun _ => True) (Refuses p) (tree.locate directory p) := by
  unfold locate
  dsimp only
  split
  · next hn => exact .inr ⟨rfl, hn⟩
  · split
    · exact .inl ⟨_, rfl⟩
    · cases tree.walk (if p.root.isEmpty then directory else []) p.parts with
      | error cause => exact .inl ⟨_, rfl⟩
      | ok place => trivial

end FileTree

end StructuredQuery
