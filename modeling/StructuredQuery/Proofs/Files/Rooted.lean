import Mathlib.Data.List.Induction
import StructuredQuery.Proofs.Files.Refusals
import StructuredQuery.Proofs.Files.Stored

/-!
What changes leave of a file system. In a tree whose directories are all there, whatever is made is made in a
directory, so the tree stays one. Nothing is taken away: what stands somewhere is kept by making directories, and by
writing a file it is kept at all other places. A file that can be written is there when it is written.
-/

namespace StructuredQuery.FileTree

variable {tree : FileTree} {directory : List String} {p : Path} {e : Entry}

/-! ## Trees whose directories are there -/

/-- What stands at a place is an entry of the tree, or the root. -/
theorem mem_of_get? {place : List String} (hg : tree.get? place = some e) :
    place = [] ∨ ∃ entry ∈ tree.entries, entry.1 = place := by
  unfold get? at hg
  split at hg
  · next hp => exact .inl (List.isEmpty_iff.1 hp)
  · obtain ⟨entry, hf, -⟩ := Option.map_eq_some_iff.1 hg
    exact .inr ⟨entry, List.mem_of_find?_eq_some hf, by simpa using List.find?_some hf⟩

def IsRooted (tree : FileTree) : Prop :=
  ∀ place e, tree.get? place = some e → tree.get? place.dropLast = some .directory

/-- All that leads to a place where something stands are directories. -/
theorem IsRooted.get?_of_append (h : tree.IsRooted) {place names : List String} (hn : names ≠ [])
    (hg : tree.get? (place ++ names) = some e) : tree.get? place = some .directory := by
  -- the names are taken off from the last one on, each of them stands in a directory
  induction names using List.reverseRecOn generalizing e with
  | nil => exact absurd rfl hn
  | append_singleton names last ih =>
    have hparent := h _ _ hg
    rw [← List.append_assoc, List.dropLast_concat] at hparent
    cases names with
    | nil => rwa [List.append_nil] at hparent
    | cons name rest => exact ih (by simp) hparent

/-- Something is put in a directory, and not in the place of a directory if it is a file. -/
theorem IsRooted.put (h : tree.IsRooted) {place : List String} (hne : place ≠ [])
    (hp : tree.get? place.dropLast = some .directory) (he : e = .directory ∨ tree.get? place ≠ some .directory) :
    (tree.put place e).IsRooted := by
  intro other e' hg
  by_cases ho : other = place
  · -- its directory is another place, so it is still there
    subst ho
    have hup : other.dropLast ≠ other := by
      intro heq
      have hlength := congrArg List.length heq
      have hpos := List.length_pos_iff.2 hne
      rw [List.length_dropLast] at hlength
      omega
    rw [get?_put_of_ne tree e hup]
    exact hp
  · rw [get?_put_of_ne tree e ho] at hg
    have hparent := h _ _ hg
    by_cases hup : other.dropLast = place
    · -- the place was a directory that holds something, so no file is put there
      rw [hup] at hparent ⊢
      obtain rfl := he.resolve_right fun hn => hn hparent
      exact get?_put_self tree .directory hne
    · rw [get?_put_of_ne tree e hup]
      exact hparent

/-- Directories are made along a row of names, each in the one before it. -/
theorem IsRooted.putAll (h : tree.IsRooted) (base : List String)
    (hb : tree.get? base = some .directory) (names : List String) :
    let made := ((beginnings names).map (base ++ ·)).foldl (fun tree place => tree.put place .directory) tree
    made.IsRooted ∧ made.get? (base ++ names) = some .directory := by
  induction names generalizing base tree with
  | nil => exact ⟨h, by rwa [List.append_nil]⟩
  | cons name rest ih =>
    have hne : base ++ [name] ≠ [] := by simp
    have hput : (tree.put (base ++ [name]) .directory).IsRooted :=
      h.put hne (by rwa [List.dropLast_concat]) (.inl rfl)
    have hrest := ih hput _ (get?_put_self tree .directory hne)
    have hmap : ((beginnings rest).map (name :: ·)).map (base ++ ·) = (beginnings rest).map (base ++ [name] ++ ·) := by
      simp
    simp only [beginnings, List.map_cons, List.foldl_cons, hmap]
    rwa [← List.append_cons] at hrest

/-- A way from a place in a directory leads to one. -/
theorem IsRooted.get?_dropLast_of_walk (h : tree.IsRooted) {place names dest : List String}
    (hp : tree.get? place.dropLast = some .directory) (hw : tree.walk place names = .ok dest) :
    tree.get? dest.dropLast = some .directory := by
  induction names generalizing place with
  | nil =>
    rw [walk] at hw
    exact Except.ok.inj hw ▸ hp
  | cons name rest ih =>
    rw [walk] at hw
    split at hw
    · next hd =>
      split at hw
      · cases hw
      · refine ih ?_ hw
        split
        · exact h _ _ hp
        · rwa [List.dropLast_concat]
    · cases hw
    · cases hw

/-- The way to something that is there leads to it, unless a name on it is too long. -/
theorem IsRooted.walk_of_get? (h : tree.IsRooted) (place : List String) {names : List String} (hn : ".." ∉ names)
    (hg : tree.get? (place ++ names) = some e) :
    tree.walk place names = .ok (place ++ names) ∨ tree.walk place names = .error .nameTooLong := by
  induction names generalizing place with
  | nil => exact .inl (by rw [walk, List.append_nil])
  | cons name rest ih =>
    simp only [List.mem_cons, not_or] at hn
    rw [walk, h.get?_of_append (by simp) hg]
    dsimp only
    split
    · exact .inr rfl
    · rw [if_neg (Ne.symm hn.1)]
      have hnext : place ++ name :: rest = place ++ [name] ++ rest := by simp
      rw [hnext] at hg ⊢
      exact ih _ hn.2 hg

/-- A tree whose directories are there, and the one that paths are read from among them. -/
structure IsSound (tree : FileTree) (directory : List String) : Prop where
  rooted : tree.IsRooted
  start : tree.get? directory = some .directory

/-- The directory of a place that a path leads to is there. -/
theorem IsSound.get?_dropLast_of_locate (h : tree.IsSound directory) {place : List String}
    (hl : tree.locate directory p = .ok place) : tree.get? place.dropLast = some .directory := by
  have hstart : tree.get? (if p.root.isEmpty then directory else []).dropLast = some .directory := by
    split
    · exact h.rooted _ _ h.start
    · rfl
  unfold locate at hl
  dsimp only at hl
  split at hl
  · cases hl
  · split at hl
    · cases hl
    · cases hw : tree.walk (if p.root.isEmpty then directory else []) p.parts with
      | error cause =>
        rw [hw] at hl
        cases hl
      | ok dest =>
        rw [hw] at hl
        exact Except.ok.inj hl ▸ h.rooted.get?_dropLast_of_walk hstart hw

/-- Nothing is at a path from the root of which that is told. -/
theorem IsRooted.get?_of_not_exists (h : tree.IsRooted) (hroot : p.root = "/") (hp : ".." ∉ p.parts)
    (hn : p.parts.any Path.hasNull = false) (he : tree.exists? directory p = .ok false) :
    tree.get? p.parts = none := by
  cases hg : tree.get? p.parts with
  | none => rfl
  | some e =>
    have hempty : p.root.isEmpty = false := by
      rw [hroot]
      decide
    -- were something there, the way to it would be found, or a name on it would be too long to tell
    have hwalk : tree.walk [] p.parts = .ok p.parts ∨ tree.walk [] p.parts = .error .nameTooLong :=
      h.walk_of_get? [] hp hg
    unfold exists? locate at he
    simp only [hn, hempty, Bool.false_eq_true, if_false] at he
    by_cases hl : pathLimit < p.text.utf8ByteSize
    · rw [if_pos hl] at he
      cases he
    · rw [if_neg hl] at he
      rcases hwalk with hw | hw
      · rw [hw] at he
        simp only [Except.mapError, hg] at he
        cases he
      · rw [hw] at he
        cases he

/-! ## Steps -/

/-- Making a directory puts it at its place, unless one is there. -/
theorem makeDirectory_eq_ok {tree' : FileTree} (h : tree.makeDirectory directory p = .ok tree') :
    ∃ place, tree.locate directory p = .ok place ∧
      (tree' = tree ∨ tree.get? place = none ∧ tree' = tree.put place .directory) := by
  obtain ⟨place, hl, h⟩ := bind_eq_ok_iff.1 h
  refine ⟨place, hl, ?_⟩
  split at h
  · next hg => exact .inr ⟨hg, (Except.ok.inj h).symm⟩
  · exact .inl (Except.ok.inj h).symm
  · cases h

theorem meets_makeDirectory (tree : FileTree) (directory : List String) (p : Path) :
    Meets (fun _ => True) (Refuses p) (tree.makeDirectory directory p) := by
  refine (meets_locate tree directory p).bind fun place _ _ => ?_
  split
  · trivial
  · trivial
  · exact .inl ⟨_, rfl⟩

/-- Without a null character in the path, all failures are refusals of the file system. -/
theorem Refuses.exists_file {f : Fault} (h : Refuses p f) (hn : p.parts.any Path.hasNull = false) :
    ∃ fault, f = .file fault := by
  rcases h with hf | ⟨-, hnull⟩
  · exact hf
  · rw [hn] at hnull
    cases hnull

theorem any_hasNull_of_leads {names parts : List String} (hp : names <+: parts)
    (hn : parts.any Path.hasNull = false) : names.any Path.hasNull = false := by
  rw [List.any_eq_false] at hn ⊢
  exact fun name hm => hn name (hp.subset hm)

/-- What making one directory of a way keeps is kept by making the way. -/
theorem makeWay_keeps {P : FileTree → Prop} {Q : Fault → Prop} {root : String} {names : List String}
    (hstep : ∀ tree left, left <:+ names → P tree →
      Meets P Q (tree.makeDirectory directory ⟨root, left.reverse⟩)) (h : P tree) :
    P (tree.makeWay directory root names).2 ∧ ∀ f, (tree.makeWay directory root names).1 = .error f → Q f := by
  have hattempt {tree : FileTree} (h : P tree) {change : Except Fault FileTree} (hc : Meets P Q change) :
      P (tree.attempt change).2 ∧ ∀ f, (tree.attempt change).1 = .error f → Q f := by
    cases change with
    | ok changed => exact ⟨hc, fun f hf => by cases hf⟩
    | error f => exact ⟨h, fun f' hf => Except.error.inj hf ▸ hc⟩
  -- the names stand in reverse: behind the first one is the way to its directory
  induction names generalizing tree with
  | nil =>
    rw [makeWay]
    exact hattempt h (hstep tree [] (List.suffix_refl _) h)
  | cons name before ih =>
    rw [makeWay]
    split
    · have hway := ih (fun tree left hl => hstep tree left (hl.trans (List.suffix_cons _ _))) h
      split
      · next made hmade =>
        rw [hmade] at hway
        exact hattempt hway.1 (hstep made _ (List.suffix_refl _) hway.1)
      · next stopped => exact hway
    · exact hattempt h (hstep tree _ (List.suffix_refl _) h)

/-! ## What is made on the way -/

/-- Nothing has changed but for directories along a row of names, made where nothing stood. -/
structure MadeAlong (names : List String) (tree tree' : FileTree) : Prop where
  limit : tree'.fileLimit = tree.fileLimit
  places : ∀ place, tree'.get? place = tree.get? place ∨
    place <+: names ∧ tree.get? place = none ∧ tree'.get? place = some .directory

namespace MadeAlong

variable {names : List String} {tree' : FileTree}

theorem refl (names : List String) (tree : FileTree) : MadeAlong names tree tree :=
  ⟨rfl, fun _ => .inl rfl⟩

/-- What stood somewhere still stands there. -/
theorem get?_eq (h : MadeAlong names tree tree') {place : List String} (hg : tree.get? place = some e) :
    tree'.get? place = some e := by
  rcases h.places place with hk | ⟨-, hn, -⟩
  · rw [hk, hg]
  · rw [hg] at hn
    cases hn

/-- What stands somewhere and is no directory stood there before. -/
theorem get?_eq_of_ne (h : MadeAlong names tree tree') {place : List String} (hg : tree'.get? place = some e)
    (hd : e ≠ .directory) : tree.get? place = some e := by
  rcases h.places place with hk | ⟨-, -, hm⟩
  · rw [← hk, hg]
  · exact absurd (Option.some.inj (hg.symm.trans hm)) hd

/-- New directories leave as much room for a file. -/
theorem taken_eq (h : MadeAlong names tree tree') (content : ByteArray) :
    tree'.taken content = tree.taken content := by
  rw [taken, taken, h.limit]

/-- Directories that are made later are made along the same way. -/
theorem trans {tree₁ tree₂ : FileTree} (h₁ : MadeAlong names tree tree₁) (h₂ : MadeAlong names tree₁ tree₂) :
    MadeAlong names tree tree₂ := by
  refine ⟨h₂.limit.trans h₁.limit, fun place => ?_⟩
  rcases h₁.places place with hk | ⟨hl, hn, hd⟩
  · rw [← hk]
    exact h₂.places place
  · exact .inr ⟨hl, hn, h₂.get?_eq hd⟩

theorem put {place : List String} (hl : place <+: names) (hg : tree.get? place = none) :
    MadeAlong names tree (tree.put place .directory) := by
  refine ⟨rfl, fun other => ?_⟩
  by_cases ho : other = place
  · subst ho
    have hne : other ≠ [] := by
      rintro rfl
      cases hg
    exact .inr ⟨hl, hg, get?_put_self tree .directory hne⟩
  · exact .inl (get?_put_of_ne tree .directory ho)

end MadeAlong

/-- The directories of a path from the root are made along its names. -/
theorem makeDirectories_madeAlong (tree : FileTree) (directory : List String) (hroot : p.root = "/")
    (hp : ".." ∉ p.parts) (hn : p.parts.any Path.hasNull = false) :
    MadeAlong p.parts tree (tree.makeDirectories directory p).2 ∧
      ∀ f, (tree.makeDirectories directory p).1 = .error f → ∃ fault, f = .file fault := by
  refine makeWay_keeps (P := MadeAlong p.parts tree) (fun made left hl h => ?_) (.refl _ tree)
  -- a directory is made for a beginning of the names, at just that place since none of them leads back
  have hleads : left.reverse <+: p.parts := by
    rwa [← List.reverse_suffix, List.reverse_reverse]
  have hback : ".." ∉ left.reverse := fun hm => hp (hleads.subset hm)
  refine meets_iff.2 ⟨fun tree' hm => ?_, fun f hf => ?_⟩
  · obtain ⟨place, hl, rfl | ⟨hg, rfl⟩⟩ := makeDirectory_eq_ok hm
    · exact h
    · have hplace := (locate_put (p := ⟨p.root, left.reverse⟩) .directory hroot hback hl).1
      exact h.trans (.put (hplace ▸ hleads) hg)
  · exact ((meets_makeDirectory made directory _).of_error hf).exists_file (any_hasNull_of_leads hleads hn)

/-! ## Sound trees stay sound -/

/-- A new entry in a directory keeps the tree sound, unless it replaces a directory. -/
theorem IsSound.put (h : tree.IsSound directory) {place : List String} (hne : tree.get? place ≠ some .directory)
    (hp : tree.get? place.dropLast = some .directory) : (tree.put place e).IsSound directory := by
  have hroot : place ≠ [] := by
    rintro rfl
    exact hne rfl
  refine ⟨h.rooted.put hroot hp (.inr hne), ?_⟩
  rw [get?_put_of_ne tree e, h.start]
  rintro rfl
  exact hne h.start

/-- Making directories keeps the tree sound. -/
theorem IsSound.makeDirectories (h : tree.IsSound directory) (p : Path) :
    (tree.makeDirectories directory p).2.IsSound directory := by
  refine (makeWay_keeps (P := fun tree => tree.IsSound directory) (Q := fun _ => True) (fun made left _ h => ?_) h).1
  refine meets_iff.2 ⟨fun tree' hm => ?_, fun _ _ => trivial⟩
  obtain ⟨place, hl, rfl | ⟨hg, rfl⟩⟩ := makeDirectory_eq_ok hm
  · exact h
  · exact h.put (by simp [hg]) (h.get?_dropLast_of_locate hl)

/-! ## Files that are written -/

/-- Bytes are stored behind the directories of their path, or one of these is refused. -/
inductive WriteEnds (tree : FileTree) (directory : List String) (p : Path) (content : ByteArray) :
    Except Fault Unit × FileTree → Prop
  | stopped (f : Fault) (made : FileTree) (hm : tree.makeDirectories directory p.parent = (.error f, made)) :
      WriteEnds tree directory p content (.error f, made)
  | stored (made : FileTree) (ended : Except Fault Unit × FileTree)
      (hm : tree.makeDirectories directory p.parent = (.ok (), made)) (hs : StoreEnds made directory p content ended) :
      WriteEnds tree directory p content ended

/-- Every write ends in one of these ways. -/
theorem writeEnds_write (tree : FileTree) (directory : List String) (p : Path) (content : ByteArray) :
    WriteEnds tree directory p content (tree.write directory p content) := by
  rw [write]
  split
  · next made hm => exact .stored made _ hm (storeEnds_store made directory p content)
  · next hs =>
    cases hm : tree.makeDirectories directory p.parent with
    | mk done made =>
      cases done with
      | ok _ => exact absurd hm (hs made)
      | error f => exact .stopped f made hm

theorem IsSound.of_write (h : tree.IsSound directory) {content : ByteArray} {done : Except Fault Unit}
    {tree' : FileTree} (hw : tree.write directory p content = (done, tree')) : tree'.IsSound directory := by
  have hmade := h.makeDirectories p.parent
  have hends := writeEnds_write tree directory p content
  rw [hw] at hends
  cases hends with
  | stopped f _ hm => rwa [hm] at hmade
  | stored made _ hm hs =>
    rw [hm] at hmade
    cases hs with
    | refused f _ => exact hmade
    | swallowed place _ _ => exact hmade
    | written place hl hp _ => exact hmade.put hp.1 (hmade.get?_dropLast_of_locate hl)
    | cut place hl hp _ => exact hmade.put hp.1 (hmade.get?_dropLast_of_locate hl)

/-- Writing keeps the tree sound, however it ends. -/
theorem IsSound.write (h : tree.IsSound directory) (p : Path) (content : ByteArray) :
    (tree.write directory p content).2.IsSound directory :=
  h.of_write rfl

/-- What bytes that are written to a path from the root leave, beside the directories on the way to it: nothing if
the file system refuses the path, nothing if a device swallows them, or the file, with all of them or with the first
ones alone. -/
inductive Leaves (tree : FileTree) (p : Path) (content : ByteArray) : Except Fault Unit × FileTree → Prop
  | refused (fault : FileFault) (made : FileTree) (hm : MadeAlong p.parts.dropLast tree made) :
      Leaves tree p content (.error (.file fault), made)
  | swallowed (made : FileTree) (hm : MadeAlong p.parts.dropLast tree made)
      (hd : tree.get? p.parts = some .device) : Leaves tree p content (.ok (), made)
  | written (made : FileTree) (hm : MadeAlong p.parts.dropLast tree made) (hp : made.TakesFile p.parts)
      (ht : tree.taken content = content) :
      Leaves tree p content (.ok (), made.put p.parts (.file content))
  | cut (made : FileTree) (hm : MadeAlong p.parts.dropLast tree made) (hp : made.TakesFile p.parts)
      (ht : tree.taken content ≠ content) :
      Leaves tree p content
        (.error (.file ⟨.fileTooLarge, p.text⟩), made.put p.parts (.file (tree.taken content)))

/-- What a write leaves, told by where the path leads. -/
theorem leaves_write (tree : FileTree) (directory : List String) (hroot : p.root = "/") (hp : ".." ∉ p.parts)
    (hn : p.parts.any Path.hasNull = false) (content : ByteArray) :
    Leaves tree p content (tree.write directory p content) := by
  have hleads : p.parts.dropLast <+: p.parts := List.dropLast_prefix _
  obtain ⟨hmade, hfile⟩ := makeDirectories_madeAlong tree directory (p := p.parent) hroot
    (fun hm => hp (hleads.subset hm)) (any_hasNull_of_leads hleads hn)
  have hplace {made : FileTree} {place : List String} (hl : made.locate directory p = .ok place) :
      place = p.parts := (locate_put .directory hroot hp hl).1
  -- each end of the write is told once more with the place that the path has in full
  have hends := writeEnds_write tree directory p content
  generalize tree.write directory p content = ended at hends ⊢
  cases hends with
  | stopped f made hm =>
    rw [hm] at hmade hfile
    obtain ⟨fault, rfl⟩ := hfile f rfl
    exact .refused fault made hmade
  | stored made _ hm hs =>
    rw [hm] at hmade
    cases hs with
    | refused f hf =>
      obtain ⟨fault, rfl⟩ : ∃ fault, f = .file fault :=
        hf.elim (fun hf => ((meets_locate made directory p).of_error hf).exists_file hn) fun hf => ⟨_, hf⟩
      exact .refused fault made hmade
    | swallowed place hl hd =>
      obtain rfl := hplace hl
      exact .swallowed made hmade (hmade.get?_eq_of_ne hd (by simp))
    | written place hl hp ht =>
      obtain rfl := hplace hl
      exact .written made hmade hp (hmade.taken_eq content ▸ ht)
    | cut place hl hp ht =>
      obtain rfl := hplace hl
      rw [hmade.taken_eq] at ht ⊢
      exact .cut made hmade hp ht

/-- Bytes can be written to a path from the root, and are kept: a file may be written there, no device swallows it,
and the bytes are not too many. -/
structure Writable (tree : FileTree) (directory : List String) (p : Path) (content : ByteArray) : Prop where
  opens : ∃ given, (tree.write directory p given).1 = .ok ()
  lasts : tree.get? p.parts ≠ some .device
  fits : tree.taken content = content

theorem hasNull_of_locate {place : List String} (hl : tree.locate directory p = .ok place) :
    p.parts.any Path.hasNull = false := by
  unfold locate at hl
  dsimp only at hl
  split at hl
  · cases hl
  · next hnull => simpa using hnull

/-- Where bytes can be written, the directories on the way can be made, and behind them is room for a file. -/
theorem Writable.exists_made {content : ByteArray} (h : tree.Writable directory p content) (hroot : p.root = "/")
    (hp : ".." ∉ p.parts) :
    p.parts.any Path.hasNull = false ∧ ∃ made, tree.makeDirectories directory p.parent = (.ok (), made) ∧
      MadeAlong p.parts.dropLast tree made ∧ made.locate directory p = .ok p.parts ∧ made.TakesFile p.parts := by
  obtain ⟨given, hgiven⟩ := h.opens
  -- some bytes can be written there, and whichever these are, the directories are made before them
  have hends := writeEnds_write tree directory p given
  generalize tree.write directory p given = ended at hgiven hends
  cases hends with
  | stopped f made _ => cases hgiven
  | stored made _ hm hs =>
    obtain ⟨place, hl, hput⟩ : ∃ place, made.locate directory p = .ok place ∧
        (made.get? place = some .device ∨ made.TakesFile place) := by
      cases hs with
      | refused f _ => cases hgiven
      | swallowed place hl hd => exact ⟨place, hl, .inl hd⟩
      | written place hl hp _ => exact ⟨place, hl, .inr hp⟩
      | cut place _ _ _ => cases hgiven
    obtain rfl : place = p.parts := (locate_put .directory hroot hp hl).1
    have hnull := hasNull_of_locate hl
    have hleads : p.parts.dropLast <+: p.parts := List.dropLast_prefix _
    have hmade := (makeDirectories_madeAlong tree directory (p := p.parent) hroot (fun hm => hp (hleads.subset hm))
      (any_hasNull_of_leads hleads hnull)).1
    rw [hm] at hmade
    exact ⟨hnull, made, hm, hmade, hl,
      hput.resolve_left fun hd => h.lasts (hmade.get?_eq_of_ne hd (by simp))⟩

/-- Bytes that can be written are written, and then the file is there and has them. -/
theorem Writable.exists_write {content : ByteArray} (h : tree.Writable directory p content) (hroot : p.root = "/")
    (hp : ".." ∉ p.parts) :
    ∃ tree', tree.write directory p content = (.ok (), tree') ∧ tree'.exists? directory p = .ok true ∧
      tree'.read directory p = .ok content := by
  obtain ⟨-, made, hm, hmade, hl, hput⟩ := h.exists_made hroot hp
  have hread := read_put content hroot hp hl hput.1
  refine ⟨made.put p.parts (.file content), ?_, exists?_of_read hread, hread⟩
  rw [write, hm]
  exact store_of_takesFile hl hput ((hmade.taken_eq content).trans h.fits)

/-- No way leads over a name that is too long. -/
theorem walk_of_nameLimit {name : String} (h : nameLimit < name.utf8ByteSize) (tree : FileTree)
    (place names : List String) : ∃ cause, tree.walk place (names ++ [name]) = .error cause := by
  induction names generalizing place with
  | nil =>
    rw [List.nil_append, walk]
    split
    · exact ⟨_, if_pos h⟩
    · exact ⟨_, rfl⟩
    · exact ⟨_, rfl⟩
  | cons first names ih =>
    rw [List.cons_append, walk]
    split
    · split
      · exact ⟨_, rfl⟩
      · exact ih _
    · exact ⟨_, rfl⟩
    · exact ⟨_, rfl⟩

/-- A file whose name is too long is refused after the directories on the way to it are made. -/
theorem write_of_nameLimit {name : String} (h : nameLimit < name.utf8ByteSize) (tree : FileTree)
    (directory names : List String) (root : String) (content : ByteArray) :
    ∃ f, tree.write directory ⟨root, names ++ [name]⟩ content =
      (.error f, (tree.makeDirectories directory ⟨root, names⟩).2) := by
  have hends := writeEnds_write tree directory ⟨root, names ++ [name]⟩ content
  have hparent : Path.parent ⟨root, names ++ [name]⟩ = ⟨root, names⟩ := by
    rw [Path.parent, List.dropLast_concat]
  generalize tree.write directory ⟨root, names ++ [name]⟩ content = written at hends ⊢
  -- the path leads nowhere in any tree, so only ends that need no place are left
  have hnowhere {made : FileTree} {place : List String}
      (hl : made.locate directory ⟨root, names ++ [name]⟩ = .ok place) : False := by
    obtain ⟨cause, hw⟩ := walk_of_nameLimit h made (if root.isEmpty then directory else []) names
    unfold locate at hl
    rw [hw] at hl
    dsimp only at hl
    split at hl
    · cases hl
    · split at hl <;> cases hl
  cases hends with
  | stopped f made hm => exact ⟨f, by rw [← hparent, hm]⟩
  | stored made _ hm hs =>
    cases hs with
    | refused f _ => exact ⟨f, by rw [← hparent, hm]⟩
    | swallowed place hl _ => exact (hnowhere hl).elim
    | written place hl _ _ => exact (hnowhere hl).elim
    | cut place hl _ _ => exact (hnowhere hl).elim

end StructuredQuery.FileTree
