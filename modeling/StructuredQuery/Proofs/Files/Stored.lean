import StructuredQuery.Files.Tree

/-!
Files after they are written. The way to a file leads over places that are nearer to the root than the file,
so it is the same when the file is there; the file then has the bytes that were written, or the first of them.
-/

namespace StructuredQuery

namespace Path

theorem not_mem_collapse (parts : List String) : ".." ∉ collapse parts := by
  -- the names that are kept so far do not lead back, whatever follows
  have hkept : ∀ (parts done : List String), ".." ∉ done →
      ".." ∉ parts.foldl (fun done part => if part = ".." then done.dropLast else done ++ [part]) done := by
    intro parts
    induction parts with
    | nil => exact fun _ h => h
    | cons part parts ih =>
      intro done h
      apply ih
      dsimp only
      split
      · exact fun hm => h ((List.dropLast_subset done) hm)
      · next hpart => simp [h, Ne.symm hpart]
  exact hkept parts [] (by simp)

/-- A resolved path begins at the root, and no name in it leads back. -/
theorem resolve_eq_ok {directory : List String} {p full : Path} (h : p.resolve directory = .ok full) :
    full.root = "/" ∧ ".." ∉ full.parts := by
  unfold resolve at h
  split at h
  · cases h
  · obtain rfl := Except.ok.inj h
    exact ⟨rfl, not_mem_collapse _⟩

end Path

namespace FileTree

variable {tree : FileTree} {directory : List String} {p : Path}

/-- A way without points leads straight down. -/
theorem walk_eq_append {place names dest : List String} (hn : ".." ∉ names)
    (h : tree.walk place names = .ok dest) : dest = place ++ names := by
  induction names generalizing place with
  | nil =>
    rw [walk] at h
    rw [List.append_nil]
    exact (Except.ok.inj h).symm
  | cons name rest ih =>
    simp only [List.mem_cons, not_or] at hn
    rw [walk] at h
    split at h
    · split at h
      · cases h
      · rw [if_neg (Ne.symm hn.1)] at h
        rw [ih hn.2 h, List.append_assoc, List.singleton_append]
    · cases h
    · cases h

/-- What is put at a place does not change the ways that end no farther from the root than the place. -/
theorem walk_put (e : Entry) {target place names : List String}
    (hl : place.length + names.length ≤ target.length) :
    (tree.put target e).walk place names = tree.walk place names := by
  induction names generalizing place with
  | nil => rfl
  | cons name rest ih =>
    rw [List.length_cons] at hl
    -- a name is left, so the place at hand is nearer to the root than the target
    have hne : place ≠ target := by
      rintro rfl
      omega
    have hnext : (if name = ".." then place.dropLast else place ++ [name]).length + rest.length ≤
        target.length := by
      split
      · rw [List.length_dropLast]
        omega
      · rw [List.length_append, List.length_singleton]
        omega
    rw [walk, walk, get?_put_of_ne tree e hne, ih hnext]

/-- The place of a path from the root without names that lead back is the row of its names, and it stays the
place of the path when something is put there. -/
theorem locate_put {place : List String} (e : Entry) (hroot : p.root = "/") (hp : ".." ∉ p.parts)
    (h : tree.locate directory p = .ok place) :
    place = p.parts ∧ (tree.put place e).locate directory p = .ok place := by
  have hempty : p.root.isEmpty = false := by
    rw [hroot]
    decide
  unfold locate at h ⊢
  simp only [hempty, Bool.false_eq_true, if_false] at h ⊢
  split at h
  · cases h
  · next hnull =>
    split at h
    · cases h
    · next hlength =>
      -- the checks of the path itself are the same in both trees, so only the walk is compared
      cases hw : tree.walk [] p.parts with
      | error cause =>
        rw [hw] at h
        cases h
      | ok dest =>
        rw [hw] at h
        obtain rfl : dest = place := Except.ok.inj h
        have hdest : dest = p.parts := walk_eq_append hp hw
        have hwalk : (tree.put dest e).walk [] p.parts = .ok dest := by
          rw [walk_put e (by simp [hdest]), hw]
        rw [if_neg hnull, if_neg hlength, hwalk]
        exact ⟨hdest, rfl⟩

/-- A file may be put where there is none yet, and in the place of another. -/
def TakesFile (tree : FileTree) (place : List String) : Prop :=
  tree.get? place ≠ some .directory ∧ tree.get? place ≠ some .device

/-- How bytes are stored: the file system refuses the path, a device swallows them, or there is a file with all of
them, or with the first ones alone. -/
inductive StoreEnds (tree : FileTree) (directory : List String) (p : Path) (content : ByteArray) :
    Except Fault Unit × FileTree → Prop
  | refused (f : Fault)
      (hf : tree.locate directory p = .error f ∨ f = .file ⟨.isDirectory, p.text⟩) :
      StoreEnds tree directory p content (.error f, tree)
  | swallowed (place : List String) (hl : tree.locate directory p = .ok place)
      (hd : tree.get? place = some .device) : StoreEnds tree directory p content (.ok (), tree)
  | written (place : List String) (hl : tree.locate directory p = .ok place) (hp : tree.TakesFile place)
      (ht : tree.taken content = content) :
      StoreEnds tree directory p content (.ok (), tree.put place (.file content))
  | cut (place : List String) (hl : tree.locate directory p = .ok place) (hp : tree.TakesFile place)
      (ht : tree.taken content ≠ content) :
      StoreEnds tree directory p content
        (.error (.file ⟨.fileTooLarge, p.text⟩), tree.put place (.file (tree.taken content)))

/-- Storing in a file ends in one of these ways. -/
theorem storeEnds_store (tree : FileTree) (directory : List String) (p : Path) (content : ByteArray) :
    StoreEnds tree directory p content (tree.store directory p content) := by
  unfold store
  split
  · next f hl => exact .refused f (.inl hl)
  · next place hl =>
    split
    · exact .refused _ (.inr rfl)
    · next hd => exact .swallowed place hl hd
    · next hdirectory hdevice =>
      dsimp only
      by_cases ht : tree.taken content = content
      · rw [if_pos ht, ht]
        exact .written place hl ⟨hdirectory, hdevice⟩ ht
      · rw [if_neg ht]
        exact .cut place hl ⟨hdirectory, hdevice⟩ ht

/-- Bytes that are not too many are put at the place of their path. -/
theorem store_of_takesFile {place : List String} {content : ByteArray} (hl : tree.locate directory p = .ok place)
    (hp : tree.TakesFile place) (ht : tree.taken content = content) :
    tree.store directory p content = (.ok (), tree.put place (.file content)) := by
  unfold store
  rw [hl]
  dsimp only
  split
  · next hd => exact absurd hd hp.1
  · next hd => exact absurd hd hp.2
  · rw [if_pos ht, ht]

/-- What can be read is there. -/
theorem exists?_of_read {content : ByteArray} (h : tree.read directory p = .ok content) :
    tree.exists? directory p = .ok true := by
  rw [read] at h
  cases hl : tree.locate directory p with
  | error f =>
    rw [hl] at h
    cases h
  | ok place =>
    rw [hl] at h
    rw [exists?, hl]
    cases hg : tree.get? place with
    | none =>
      simp only [bind, Except.bind, hg] at h
      cases h
    | some e => simp only [hg, Option.isSome_some]

/-- A file that is put at the place of its path is there and has its bytes. -/
theorem read_put {place : List String} (content : ByteArray) (hroot : p.root = "/") (hp : ".." ∉ p.parts)
    (hl : tree.locate directory p = .ok place) (hd : tree.get? place ≠ some .directory) :
    (tree.put place (.file content)).read directory p = .ok content := by
  have hne : place ≠ [] := by
    rintro rfl
    exact hd rfl
  rw [read, (locate_put (.file content) hroot hp hl).2]
  simp only [bind, Except.bind, get?_put_self tree (.file content) hne]
  rfl

/-- A text is read from the bytes that write it. -/
theorem fromUTF8?_toUTF8 (text : String) : String.fromUTF8? text.toUTF8 = some text := by
  simp only [String.fromUTF8?, String.toUTF8_eq_toByteArray, Option.dite_none_right_eq_some]
  exact ⟨text.isValidUTF8, rfl⟩

theorem decode_toUTF8 (text : String) : decode text.toUTF8 = .ok text := by
  rw [decode, fromUTF8?_toUTF8]
  rfl

theorem readText_of_read {text : String} (h : tree.read directory p = .ok text.toUTF8) :
    tree.readText directory p = .ok text := by
  rw [readText, h]
  exact decode_toUTF8 text

end FileTree

end StructuredQuery
