import StructuredQuery.Proofs.Document.Decoding
import StructuredQuery.Toml.Decode

/-!
What TOML texts write. Every step of reading leaves a table of data and a place in the text, or is stopped at such
a place; only integers in a base other than ten may have more digits than can be written.
-/

namespace StructuredQuery.Toml

open Text Value

variable {text : List Char}

/-! ## Tables under construction -/

def KeepsData (change : Entries → Option Entries) : Prop :=
  ∀ es es', TableOf (IsDecoded True) es → change es = some es' → TableOf (IsDecoded True) es'

/-- A new entry of data keeps a table of data. -/
theorem keepsData_addEntry {value : Value} (key : String) (hv : value.IsDecoded True) :
    KeepsData (addEntry key value) := by
  intro es es' h he
  unfold addEntry at he
  split at he
  · cases he
  · obtain rfl := Option.some.inj he
    exact h.put key hv

theorem keepsData_addTable (key : String) : KeepsData (addTable key) := by
  have hempty : (Value.mapping []).IsDecoded True := .mapping (by simp) (by simp)
  intro es es' h he
  unfold addTable at he
  split at he
  · obtain rfl := Option.some.inj he
    exact h.put key (.list (List.forall_mem_singleton.2 hempty))
  · next items hg =>
    obtain rfl := Option.some.inj he
    refine h.put key (.list fun v hv => ?_)
    rcases List.mem_append.1 hv with hv | hv
    · exact (h.get? hg).items v hv
    · exact List.mem_singleton.1 hv ▸ hempty
  · cases he

/-- A change that keeps tables of data keeps arrays whose last table it changes. -/
theorem isDecoded_changeLast {change : Entries → Option Entries} (hchange : KeepsData change)
    {items items' : List Value} (h : ∀ v ∈ items, v.IsDecoded True) (hc : changeLast change items = some items') :
    ∀ v ∈ items', v.IsDecoded True := by
  unfold changeLast at hc
  split at hc
  · next entries hlast =>
    obtain ⟨es, hes, rfl⟩ := Option.map_eq_some_iff.1 hc
    have htable := hchange entries es (h _ (List.mem_of_getLast? hlast)).table hes
    intro v hv
    rcases List.mem_append.1 hv with hv | hv
    · exact h v (List.dropLast_subset items hv)
    · exact List.mem_singleton.1 hv ▸ htable.isDecoded
  · cases hc

/-- A change at the end of a path leaves data all along the path. -/
theorem keepsData_changeAt {change : Entries → Option Entries} (hchange : KeepsData change) (arrays : Bool)
    (path : List String) : KeepsData (changeAt arrays change path) := by
  induction path with
  | nil => exact hchange
  | cons key path ih =>
    intro es es' h he
    rw [changeAt] at he
    -- the way leads into a new table, a table that is there, or the last table of an array
    split at he
    · obtain ⟨inner, hinner, rfl⟩ := Option.map_eq_some_iff.1 he
      exact h.put key (ih _ _ .nil hinner).isDecoded
    · next inner hg =>
      obtain ⟨inner', hinner, rfl⟩ := Option.map_eq_some_iff.1 he
      exact h.put key (ih _ _ (h.get? hg).table hinner).isDecoded
    · next items hg =>
      split at he
      · obtain ⟨items', hitems, rfl⟩ := Option.map_eq_some_iff.1 he
        exact h.put key (.list (isDecoded_changeLast ih (h.get? hg).items hitems))
      · cases he
    · cases he

variable {s : State}

/-- The header of a table keeps the document data. -/
theorem tableOf_openTable {path : List String} (h : TableOf (IsDecoded True) s.entries) {s' : State}
    (ho : s.openTable path = .ok s') : TableOf (IsDecoded True) s'.entries := by
  unfold State.openTable at ho
  split at ho
  · cases ho
  · split at ho
    · cases ho
    · next entries he =>
      obtain rfl := Except.ok.inj ho
      -- the table is only made, by the way to it
      have hkeeps : KeepsData some := fun es es' h he => Option.some.inj he ▸ h
      exact keepsData_changeAt hkeeps true path _ _ h he

/-- The header of an array of tables keeps the document data. -/
theorem tableOf_openArray {first : String} {others : List String} (h : TableOf (IsDecoded True) s.entries)
    {s' : State} (ho : s.openArray first others = .ok s') : TableOf (IsDecoded True) s'.entries := by
  unfold State.openArray at ho
  dsimp only at ho
  split at ho
  · cases ho
  · split at ho
    · cases ho
    · next entries he =>
      obtain rfl := Except.ok.inj ho
      exact keepsData_changeAt (keepsData_addTable _) true _ _ _ h he

/-- A definition of data keeps the document data. -/
theorem tableOf_define {first : String} {others : List String} {value : Value}
    (h : TableOf (IsDecoded True) s.entries) (hv : value.IsDecoded True) {s' : State}
    (hd : s.define first others value = .ok s') : TableOf (IsDecoded True) s'.entries := by
  unfold State.define at hd
  dsimp only at hd
  split at hd
  · cases hd
  · split at hd
    · cases hd
    · split at hd
      · cases hd
      · next entries he =>
        obtain rfl := Except.ok.inj hd
        exact keepsData_changeAt (keepsData_addEntry _ hv) true _ _ _ h he

/-- A definition within a line keeps its table data. -/
theorem tableOf_inline {t t' : Inline} {first : String} {others : List String} {value : Value}
    (h : TableOf (IsDecoded True) t.entries) (hv : value.IsDecoded True)
    (hd : t.define first others value = .ok t') : TableOf (IsDecoded True) t'.entries := by
  unfold Inline.define at hd
  dsimp only at hd
  split at hd
  · cases hd
  · split at hd
    · cases hd
    · cases hd
    · next entries he _ =>
      obtain rfl := Except.ok.inj hd
      exact keepsData_changeAt (keepsData_addEntry _ hv) false _ _ _ h he

/-- What a change gives has a property, or it is reported at a place. -/
theorem meets_changed {α : Type} {P : α → Prop} {rest : List Char} (h : rest <:+ text) {change : Except String α}
    (hc : ∀ a, change = .ok a → P a) : Meets P (DecodeError.Stops text) (changed rest change) := by
  cases change with
  | error what => exact .malformed what h
  | ok a => exact hc a rfl

/-! ## Spaces and comments -/

/-- What is left of a text is the end of it, or reading stops. -/
abbrev Leaves (text : List Char) (r : Except DecodeError (List Char)) : Prop :=
  Meets (· <:+ text) (DecodeError.Stops text) r

theorem suffix_skipSpaces (cs : List Char) : skipSpaces cs <:+ cs :=
  List.dropWhile_suffix isSpace

theorem suffix_behind? {c : Char} {cs rest : List Char} (h : behind? c cs = some rest) : rest <:+ cs := by
  unfold behind? at h
  split at h
  · next d left =>
    split at h
    · obtain rfl := Option.some.inj h
      exact List.suffix_cons d left
    · cases h
  · cases h

theorem leaves_skipComment {cs : List Char} (h : cs <:+ text) : Leaves text (skipComment cs) := by
  unfold skipComment
  split
  · next rest =>
    have hleft := (List.dropWhile_suffix fun c => !isControl c).trans ((List.suffix_cons '#' rest).trans h)
    dsimp only
    split
    · exact hleft
    · exact .malformed _ hleft
  · exact h

/-- Spaces, line breaks and comments leave the end of the text. -/
theorem leaves_skipFiller {cs : List Char} (inComment : Bool) (h : cs <:+ text) :
    Leaves text (skipFiller inComment cs) := by
  fun_induction skipFiller inComment cs with
  | case1 => exact h
  | case3 => exact .malformed _ h
  | case7 => exact h
  | case2 rest ih => exact ih ((List.suffix_cons '\n' rest).trans h)
  | case4 c rest _ _ ih => exact ih ((List.suffix_cons c rest).trans h)
  | case5 _ c rest _ _ ih => exact ih ((List.suffix_cons c rest).trans h)
  | case6 _ rest _ _ ih => exact ih ((List.suffix_cons '#' rest).trans h)

/-! ## Strings -/

theorem reads_hexChar {cs : List Char} (length : Nat) (h : cs <:+ text) : Reads text (hexChar length cs) := by
  have hdrop := (List.drop_suffix length cs).trans h
  unfold hexChar
  refine (DecodeError.meets_require _ h _).bind fun n _ _ => ?_
  split
  · exact ⟨trivial, hdrop⟩
  · exact .malformed _ hdrop

theorem reads_foldedLine {cs : List Char} (c : Char) (h : cs <:+ text) : Reads text (foldedLine c cs) := by
  have hspaces := (suffix_skipSpaces cs).trans h
  unfold foldedLine
  split
  · exact ⟨trivial, (List.dropWhile_suffix isSpaceOrBreak).trans h⟩
  · split
    · exact ⟨trivial, List.nil_suffix⟩
    · next rest hs =>
      have hrest := (List.suffix_cons '\n' rest).trans (hs ▸ hspaces)
      exact ⟨trivial, (List.dropWhile_suffix isSpaceOrBreak).trans hrest⟩
    · exact .malformed _ hspaces

theorem reads_basicChar {cs : List Char} (multiline : Bool) (h : cs <:+ text) :
    Reads text (basicChar multiline cs) := by
  unfold basicChar
  split
  · next c rest =>
    have hrest : rest <:+ text := List.IsSuffix.trans ⟨['\\', c], rfl⟩ h
    split_ifs
    · exact reads_foldedLine c hrest
    · exact reads_hexChar 4 hrest
    · exact reads_hexChar 8 hrest
    · refine (DecodeError.meets_require _ hrest _).imp fun found hf => ⟨trivial, ?_⟩
      obtain ⟨_, -, rfl⟩ := Option.map_eq_some_iff.1 hf
      exact hrest
  · exact .malformed _ List.nil_suffix
  · next c rest _ _ =>
    split
    · exact .malformed _ h
    · exact ⟨trivial, (List.suffix_cons c rest).trans h⟩
  · exact .malformed _ List.nil_suffix

theorem suffix_basicEnd? {multiline : Bool} {cs rest : List Char} (h : basicEnd? multiline cs = some rest) :
    rest <:+ cs := by
  unfold basicEnd? at h
  split at h
  · next left =>
    split at h
    · split at h
      · next left' =>
        obtain rfl := Option.some.inj h
        exact ⟨['"', '"', '"'], rfl⟩
      · cases h
    · obtain rfl := Option.some.inj h
      exact List.suffix_cons '"' left
  · cases h

/-- The body of a basic string is read, or the text is malformed in it. -/
theorem reads_basicBody (multiline : Bool) (cs : List Char) (h : cs <:+ text) :
    Reads text (basicBody multiline cs) := by
  rw [basicBody]
  split
  · next rest he => exact ⟨trivial, (suffix_basicEnd? he).trans h⟩
  · refine (reads_basicChar multiline h).bind fun taken rest _ hrest => ?_
    dsimp only
    split
    · exact (reads_basicBody multiline rest hrest).bind fun body left _ hl => ⟨trivial, hl⟩
    · exact .malformed _ hrest
termination_by cs.length

theorem suffix_upTo? {quotes cs body rest : List Char} (h : upTo? quotes cs = some (body, rest)) : rest <:+ cs := by
  induction cs generalizing body with
  | nil => cases h
  | cons c cs ih =>
    rw [upTo?] at h
    split at h
    · obtain ⟨-, rfl⟩ := Prod.mk.inj (Option.some.inj h)
      exact List.drop_suffix _ _
    · obtain ⟨⟨inner, left⟩, hu, he⟩ := Option.map_eq_some_iff.1 h
      obtain ⟨-, rfl⟩ := Prod.mk.inj he
      exact (ih hu).trans (List.suffix_cons c cs)

theorem reads_literalBody {cs : List Char} (multiline : Bool) (h : cs <:+ text) :
    Reads text (literalBody multiline cs) := by
  unfold literalBody
  refine (DecodeError.meets_require _ List.nil_suffix _).bind ?_
  rintro ⟨body, rest⟩ - hu
  dsimp only
  split
  · exact ⟨trivial, (suffix_upTo? hu).trans h⟩
  · exact .malformed _ ((List.dropWhile_suffix _).trans h)

theorem suffix_dropBreak (cs : List Char) : dropBreak cs <:+ cs := by
  unfold dropBreak
  split
  · exact List.suffix_cons _ _
  · exact List.suffix_rfl

theorem reads_line {cs : List Char} (h : cs <:+ text) : Reads text (line cs) := by
  unfold line
  split
  · exact reads_basicBody false _ ((List.suffix_cons _ _).trans h)
  · exact reads_literalBody false ((List.suffix_cons _ _).trans h)
  · exact .malformed _ h

theorem reads_string {cs : List Char} (h : cs <:+ text) : Reads text (string cs) := by
  -- up to two more quotes may belong to a string of several lines
  have hmore {q : Char} {r : Except DecodeError (List Char × List Char)} (hr : Reads text r) :
      Reads text (r.map fun found => moreQuotes q found.1 found.2) :=
    hr.map fun found hf => ⟨trivial, (List.drop_suffix _ found.2).trans hf.2⟩
  unfold string
  split
  · next rest =>
    have hrest : rest <:+ text := List.IsSuffix.trans ⟨['"', '"', '"'], rfl⟩ h
    exact hmore (reads_basicBody true _ ((suffix_dropBreak rest).trans hrest))
  · next rest =>
    have hrest : rest <:+ text := List.IsSuffix.trans ⟨['\'', '\'', '\''], rfl⟩ h
    exact hmore (reads_literalBody true ((suffix_dropBreak rest).trans hrest))
  · exact reads_line h

/-! ## Keys -/

theorem reads_keyPart {cs : List Char} (h : cs <:+ text) : Reads text (keyPart cs) := by
  unfold keyPart
  refine Meets.map (P := fun found => True ∧ found.2 <:+ text) ?_ fun found hf => ⟨trivial, hf.2⟩
  cases hrun : run? isBareChar cs with
  | none => exact reads_line h
  | some found => exact ⟨trivial, (suffix_of_run? hrun).trans h⟩

/-- A key is read with all its parts, or the text is malformed in it. -/
theorem reads_key (cs : List Char) (h : cs <:+ text) : Reads text (key cs) := by
  rw [key]
  refine (reads_keyPart h).bind fun part rest _ hrest => ?_
  have hspaces := (suffix_skipSpaces rest).trans hrest
  dsimp only
  split
  · next left hs =>
    have hleft := (List.suffix_cons '.' left).trans (hs ▸ hspaces)
    split
    · refine (reads_key _ ((suffix_skipSpaces left).trans hleft)).bind fun parts left' _ hl => ⟨trivial, hl⟩
    · exact .malformed _ hleft
  · exact ⟨trivial, hspaces⟩
termination_by cs.length

theorem reads_keyEquals {cs : List Char} (h : cs <:+ text) : Reads text (keyEquals cs) := by
  unfold keyEquals
  refine (reads_key cs h).bind fun path rest _ hrest => ?_
  split
  · next left he =>
    obtain ⟨-, rfl⟩ := Prod.mk.inj he
    exact ⟨trivial, (suffix_skipSpaces left).trans ((List.suffix_cons '=' left).trans hrest)⟩
  · next he =>
    obtain ⟨-, rfl⟩ := Prod.mk.inj he
    exact .malformed _ hrest

/-! ## Points in time -/

theorem suffix_fixed? {length n : Nat} {cs rest : List Char} (h : fixed? length cs = some (n, rest)) :
    rest <:+ cs := by
  unfold fixed? at h
  dsimp only at h
  split at h
  · obtain ⟨-, rfl⟩ := Prod.mk.inj (Option.some.inj h)
    exact List.drop_suffix length cs
  · cases h

theorem suffix_dateParts? {cs rest : List Char} {parts : Nat × Nat × Nat}
    (h : dateParts? cs = some (parts, rest)) : rest <:+ cs := by
  simp only [dateParts?, Option.bind_eq_bind, Option.bind_eq_some_iff, Prod.exists] at h
  obtain ⟨year, rest₁, hyear, rest₂, hdash, month, rest₃, hmonth, rest₄, hdash', day, rest₅, hday, h⟩ := h
  have hrest : rest = rest₅ := by
    split at h
    · exact (Prod.mk.inj (Option.some.inj h)).2.symm
    · cases h
  subst hrest
  have hmonths : rest₃ <:+ cs :=
    (suffix_fixed? hmonth).trans ((suffix_behind? hdash).trans (suffix_fixed? hyear))
  exact (suffix_fixed? hday).trans ((suffix_behind? hdash').trans hmonths)

theorem suffix_microseconds (cs : List Char) : (microseconds cs).2 <:+ cs := by
  unfold microseconds
  split
  · next rest =>
    split
    · next hrun => exact (suffix_of_run? hrun).trans (List.suffix_cons '.' rest)
    · exact List.suffix_rfl
  · exact List.suffix_rfl

theorem suffix_time? {cs rest : List Char} {t : TimeOfDay} (h : time? cs = some (t, rest)) : rest <:+ cs := by
  simp only [time?, Option.bind_eq_bind, Option.bind_eq_some_iff, Prod.exists] at h
  obtain ⟨hour, rest₁, hhour, rest₂, hcolon, minute, rest₃, hminute, rest₄, hcolon', second, rest₅, hsecond, whole,
    _, he⟩ := h
  obtain ⟨-, rfl⟩ := Prod.mk.inj (Option.some.inj he)
  have hminutes : rest₃ <:+ cs :=
    (suffix_fixed? hminute).trans ((suffix_behind? hcolon).trans (suffix_fixed? hhour))
  have hseconds : rest₅ <:+ rest₃ := (suffix_fixed? hsecond).trans (suffix_behind? hcolon')
  exact (suffix_microseconds rest₅).trans (hseconds.trans hminutes)

theorem suffix_offsetSeconds? {n : Nat} {cs rest : List Char} (h : offsetSeconds? cs = some (n, rest)) :
    rest <:+ cs := by
  simp only [offsetSeconds?, Option.bind_eq_bind, Option.bind_eq_some_iff, Prod.exists] at h
  obtain ⟨hour, rest₁, hhour, rest₂, hcolon, minute, rest₃, hminute, he⟩ := h
  have hrest : rest = rest₃ := by
    split at he
    · exact (Prod.mk.inj (Option.some.inj he)).2.symm
    · cases he
  subst hrest
  exact (suffix_fixed? hminute).trans ((suffix_behind? hcolon).trans (suffix_fixed? hhour))

theorem suffix_offset (cs : List Char) : (offset cs).2 <:+ cs := by
  unfold offset
  split
  · exact List.suffix_cons _ _
  · exact List.suffix_cons _ _
  · split
    · next h => exact (suffix_offsetSeconds? h).trans (List.suffix_cons _ _)
    · exact List.suffix_rfl
  · split
    · next h => exact (suffix_offsetSeconds? h).trans (List.suffix_cons _ _)
    · exact List.suffix_rfl
  · exact List.suffix_rfl

theorem suffix_timeBehind? {cs rest : List Char} {t : TimeOfDay} (h : timeBehind? cs = some (t, rest)) :
    rest <:+ cs := by
  unfold timeBehind? at h
  split at h
  · next c left =>
    split at h
    · exact (suffix_time? h).trans (List.suffix_cons c left)
    · cases h
  · cases h

/-- A date, a time or a timestamp is data. -/
theorem decodes_moment? {cs : List Char} (h : cs <:+ text) {r : Except DecodeError (Value × List Char)}
    (hm : moment? cs = some r) : Decodes (IsDecoded True) text r := by
  obtain ⟨⟨⟨year, month, day⟩, rest⟩, hparts, rfl⟩ := Option.map_eq_some_iff.1 hm
  have hrest := (suffix_dateParts? hparts).trans h
  dsimp only
  split
  · exact .malformed _ h
  · split
    · exact ⟨.date _, hrest⟩
    · next ht => exact ⟨.timestamp _, (suffix_offset _).trans ((suffix_timeBehind? ht).trans hrest)⟩

/-! ## Numbers -/

/-- A row of digits is what stands in front of the rest, without its underscores. -/
theorem digitRow_eq {p : Char → Bool} (hp : p '_' = false) (cs : List Char) :
    ∃ literal, literal ++ (digitRow p cs).2 = cs ∧ (∀ c ∈ literal, p c ∨ c = '_') ∧
      literal.filter p = (digitRow p cs).1 := by
  fun_induction digitRow p cs with
  | case1 d rest hd ds left he ih =>
    rw [he] at ih
    obtain ⟨literal, happend, hall, hfilter⟩ := ih
    refine ⟨'_' :: d :: literal, by simp [← happend], ?_, by simp [hp, hd, hfilter]⟩
    exact List.forall_mem_cons.2 ⟨.inr rfl, List.forall_mem_cons.2 ⟨.inl hd, hall⟩⟩
  | case3 d rest _ hd ds left he ih =>
    rw [he] at ih
    obtain ⟨literal, happend, hall, hfilter⟩ := ih
    exact ⟨d :: literal, by simp [← happend], List.forall_mem_cons.2 ⟨.inl hd, hall⟩, by simp [hd, hfilter]⟩
  | _ => exact ⟨[], by simp⟩

/-- A row of digits is what stands in the text without its underscores. -/
theorem digits?_eq {p : Char → Bool} (hp : p '_' = false) {cs ds rest : List Char}
    (h : digits? p cs = some (ds, rest)) :
    ∃ literal, literal ++ rest = cs ∧ (∀ c ∈ literal, p c ∨ c = '_') ∧ literal.filter p = ds := by
  unfold digits? at h
  split at h
  · next d left =>
    split at h
    · next hd =>
      obtain ⟨rfl, rfl⟩ := Prod.mk.inj (Option.some.inj h)
      obtain ⟨literal, happend, hall, hfilter⟩ := digitRow_eq hp left
      refine ⟨d :: literal, ?_, List.forall_mem_cons.2 ⟨.inl hd, hall⟩, ?_⟩
      · rw [List.cons_append, happend]
      · rw [List.filter_cons_of_pos hd, hfilter]
    · cases h
  · cases h

theorem suffix_digits? {p : Char → Bool} (hp : p '_' = false) {cs ds rest : List Char}
    (h : digits? p cs = some (ds, rest)) : rest <:+ cs := by
  obtain ⟨literal, happend, -⟩ := digits?_eq hp h
  exact ⟨literal, happend⟩

/-- The digits before the point of a number stand in the text. -/
theorem holdsDigits_whole? {cs whole rest : List Char} (h : whole? cs = some (whole, rest)) :
    HoldsDigits whole cs ∧ rest <:+ cs := by
  unfold whole? at h
  split at h
  · next left =>
    obtain ⟨rfl, rfl⟩ := Prod.mk.inj (Option.some.inj h)
    have hzero : ['0'] <+: '0' :: left := ⟨left, rfl⟩
    have hdigit : ∀ c ∈ ['0'], c.isDigit ∨ c = '_' := List.forall_mem_singleton.2 (.inl rfl)
    exact ⟨⟨['0'], hzero.isInfix, hdigit, rfl⟩, List.suffix_cons '0' left⟩
  · obtain ⟨literal, rfl, hall, hfilter⟩ := digits?_eq (by decide) h
    exact ⟨⟨literal, (List.prefix_append literal rest).isInfix, hall, hfilter⟩, List.suffix_append literal rest⟩

theorem suffix_fraction (cs : List Char) : (fraction cs).2 <:+ cs := by
  unfold fraction
  split
  · next rest =>
    cases hd : digits? Char.isDigit rest with
    | none => exact List.suffix_rfl
    | some found => exact (suffix_digits? (by decide) hd).trans (List.suffix_cons '.' rest)
  · exact List.suffix_rfl

theorem suffix_power (cs : List Char) : (power cs).2 <:+ cs := by
  unfold power
  split
  · exact List.suffix_rfl
  · next e rest =>
    dsimp only
    split
    · split
      · next hd =>
        exact (suffix_digits? (by decide) hd).trans ((Numeral.suffix_takeSign rest).trans (List.suffix_cons e rest))
      · exact List.suffix_rfl
    · exact List.suffix_rfl

/-- The digits of a decimal number stand in the text. -/
theorem holdsDigits_decimal? {cs rest : List Char} {n : NumberText} (h : decimal? cs = some (n, rest)) :
    HoldsDigits n.whole cs ∧ rest <:+ cs := by
  obtain ⟨⟨whole, left⟩, hw, he⟩ := Option.map_eq_some_iff.1 h
  obtain ⟨rfl, rfl⟩ := Prod.mk.inj he
  have hsign := Numeral.suffix_takeSign cs
  obtain ⟨hdigits, hleft⟩ := holdsDigits_whole? hw
  refine ⟨hdigits.mono hsign.isInfix, ?_⟩
  exact (suffix_power _).trans ((suffix_fraction left).trans (hleft.trans hsign))

theorem decodes_special? {cs : List Char} {found : Value × List Char} (h : special? cs = some found) :
    found.1.IsDecoded True ∧ found.2 <:+ cs := by
  have hsign := Numeral.suffix_takeSign cs
  unfold special? at h
  split at h
  · next hs =>
    obtain rfl := Option.some.inj h
    rw [hs] at hsign
    exact ⟨.float _, List.IsSuffix.trans ⟨['i', 'n', 'f'], rfl⟩ hsign⟩
  · next hs =>
    obtain rfl := Option.some.inj h
    rw [hs] at hsign
    exact ⟨.float _, List.IsSuffix.trans ⟨['n', 'a', 'n'], rfl⟩ hsign⟩
  · cases h

theorem decodes_bool? {cs : List Char} {found : Value × List Char} (h : bool? cs = some found) :
    found.1.IsDecoded True ∧ found.2 <:+ cs := by
  unfold bool? at h
  split at h
  · obtain rfl := Option.some.inj h
    exact ⟨.bool _, ['t', 'r', 'u', 'e'], rfl⟩
  · obtain rfl := Option.some.inj h
    exact ⟨.bool _, ['f', 'a', 'l', 's', 'e'], rfl⟩
  · cases h

/-- An integer in another base than ten has no sign. -/
theorem based?_eq {cs rest : List Char} {n : Int} (h : based? cs = some (n, rest)) : 0 ≤ n ∧ rest <:+ cs := by
  have hnat {base : Nat} {p : Char → Bool} (hp : p '_' = false) {left : List Char}
      (h : (digits? p left).map (fun found => ((natInBase base found.1 : Int), found.2)) = some (n, rest)) :
      0 ≤ n ∧ rest <:+ left := by
    obtain ⟨⟨ds, _⟩, hd, he⟩ := Option.map_eq_some_iff.1 h
    obtain ⟨rfl, rfl⟩ := Prod.mk.inj he
    exact ⟨Int.natCast_nonneg _, suffix_digits? hp hd⟩
  have hmark {c : Char} (left : List Char) : left <:+ '0' :: c :: left := ⟨['0', c], rfl⟩
  unfold based? at h
  split at h
  · exact (hnat (by decide) h).imp_right fun hl => hl.trans (hmark _)
  · exact (hnat (by decide) h).imp_right fun hl => hl.trans (hmark _)
  · exact (hnat (by decide) h).imp_right fun hl => hl.trans (hmark _)
  · cases h

/-- A number is data, or an integer of too many digits stands in the text. -/
theorem decodes_numeric {cs : List Char} (h : cs <:+ text) : Decodes (IsDecoded True) text (numeric cs) := by
  unfold numeric
  split
  · next ht => exact ⟨.time _, (suffix_time? ht).trans h⟩
  · next hn _ =>
    obtain ⟨hnat, hrest⟩ := based?_eq hn
    exact ⟨.int (.inr ⟨hnat, trivial⟩), hrest.trans h⟩
  · next hn _ _ =>
    obtain ⟨hdigits, hrest⟩ := holdsDigits_decimal? hn
    exact (Value.meets_ofNumber (hdigits.mono h.isInfix)).bind fun v _ hv => ⟨hv, hrest.trans h⟩
  · next hs _ _ _ => exact (decodes_special? hs).imp_right fun hl => hl.trans h
  · exact .malformed _ h

/-! ## Values -/

theorem decodes_scalar {cs : List Char} (h : cs <:+ text) : Decodes (IsDecoded True) text (scalar cs) := by
  have htext : Decodes (IsDecoded True) text ((string cs).map fun found => (.text (String.ofList found.1), found.2)) :=
    (reads_string h).map fun found hf => ⟨.text _, hf.2⟩
  unfold scalar
  split
  · exact htext
  · exact htext
  · split
    · next hb => exact (decodes_bool? hb).imp_right fun hl => hl.trans h
    · cases hm : moment? cs with
      | some r => exact decodes_moment? h hm
      | none => exact decodes_numeric h

theorem suffix_of_front {cs rest : List Char} (h : front cs = .array rest ∨ front cs = .table rest) : rest <:+ cs := by
  unfold front at h
  split at h
  · obtain rfl := Front.array.inj (h.resolve_right (by simp))
    exact List.suffix_cons _ _
  · obtain rfl := Front.table.inj (h.resolve_left (by simp))
    exact List.suffix_cons _ _
  · simp at h

-- Along the reading itself, which goes from one place in the text to a later one.
mutual

/-- The value at the front of a text is data, and what is left is the end of the text. -/
theorem decodes_value (cs : List Char) (h : cs <:+ text) : Decodes (IsDecoded True) text (value cs) := by
  rw [value]
  split
  · exact decodes_scalar h
  · next rest hf =>
    refine (leaves_skipFiller false ((suffix_of_front (.inl hf)).trans h)).bind fun left _ hleft => ?_
    split
    · next hb => exact ⟨.list (by simp), (suffix_behind? hb).trans hleft⟩
    · split
      · exact (decodes_items left hleft).bind fun items _ hitems hl => ⟨.list hitems, hl⟩
      · exact .malformed _ hleft
  · next rest hf =>
    have hrest := (suffix_of_front (.inr hf)).trans h
    have hspaces := (suffix_skipSpaces rest).trans hrest
    split
    · next hb => exact ⟨.mapping (by simp) (by simp), (suffix_behind? hb).trans hspaces⟩
    · split
      · exact (decodes_fields ⟨[], []⟩ _ .nil hspaces).bind fun entries _ he hl => ⟨he.isDecoded, hl⟩
      · exact .malformed _ hrest
termination_by 2 * cs.length

/-- The items of an array are data. -/
theorem decodes_items (cs : List Char) (h : cs <:+ text) :
    Decodes (fun items => ∀ v ∈ items, v.IsDecoded True) text (items cs) := by
  rw [items]
  refine (decodes_value cs h).bind fun item rest hitem hrest => ?_
  have hone : ∀ v ∈ [item], v.IsDecoded True := List.forall_mem_singleton.2 hitem
  refine (leaves_skipFiller false hrest).bind fun left _ hleft => ?_
  split
  · next hb => exact ⟨hone, (suffix_behind? hb).trans hleft⟩
  · refine (DecodeError.meets_require _ hleft _).bind fun after _ hcomma => ?_
    refine (leaves_skipFiller false ((suffix_behind? hcomma).trans hleft)).bind fun next _ hnext => ?_
    split
    · next hb => exact ⟨hone, (suffix_behind? hb).trans hnext⟩
    · split
      · refine (decodes_items next hnext).bind fun items _ hitems hl => ?_
        exact ⟨List.forall_mem_cons.2 ⟨hitem, hitems⟩, hl⟩
      · exact .malformed _ hnext
termination_by 2 * cs.length + 1

/-- The entries of a table within a line are data. -/
theorem decodes_fields (table : Inline) (cs : List Char) (ht : TableOf (IsDecoded True) table.entries)
    (h : cs <:+ text) : Decodes (TableOf (IsDecoded True)) text (fields table cs) := by
  rw [fields]
  refine (reads_keyEquals h).bind fun path rest _ hrest => ?_
  dsimp only
  split
  · refine (decodes_value rest hrest).bind fun item left hitem hleft => ?_
    have hspaces := (suffix_skipSpaces left).trans hleft
    refine (meets_changed hleft fun table' hd => tableOf_inline ht hitem hd).bind fun table' _ htable => ?_
    split
    · next hb => exact ⟨htable, (suffix_behind? hb).trans hspaces⟩
    · refine (DecodeError.meets_require _ hspaces _).bind fun after _ hcomma => ?_
      have hafter := (suffix_behind? hcomma).trans hspaces
      split
      · exact decodes_fields table' _ htable ((suffix_skipSpaces after).trans hafter)
      · exact .malformed _ hafter
  · exact .malformed _ hrest
termination_by 2 * cs.length + 1

end

/-! ## Lines -/

/-- What is read from a place in a text leaves a state of data. -/
abbrev DecodesState (text : List Char) (r : Except DecodeError (State × List Char)) : Prop :=
  Decodes (fun s => TableOf (IsDecoded True) s.entries) text r

theorem decodes_header (h : TableOf (IsDecoded True) s.entries) {cs : List Char} (hc : cs <:+ text) :
    DecodesState text (header s cs) := by
  have hsettle : TableOf (IsDecoded True) s.settle.entries := h
  unfold header
  -- two brackets add a table to an array, which must be closed by two; one opens a table
  split
  · next rest =>
    have hrest := (suffix_skipSpaces rest).trans ((List.suffix_cons '[' rest).trans hc)
    refine (reads_key _ hrest).bind fun path left _ hleft => ?_
    split
    · next he =>
      obtain ⟨-, rfl⟩ := Prod.mk.inj he
      exact .malformed _ hleft
    · next he =>
      obtain ⟨-, rfl⟩ := Prod.mk.inj he
      refine (meets_changed hleft fun s' ho => tableOf_openArray hsettle ho).bind fun s' _ hs => ?_
      split
      · exact ⟨hs, List.IsSuffix.trans ⟨[']', ']'], rfl⟩ hleft⟩
      · exact .malformed _ hleft
  · refine (reads_key _ ((suffix_skipSpaces cs).trans hc)).bind fun path left _ hleft => ?_
    refine (meets_changed hleft fun s' ho => tableOf_openTable hsettle ho).bind fun s' _ hs => ?_
    split
    · exact ⟨hs, (List.suffix_cons _ _).trans hleft⟩
    · exact .malformed _ hleft

theorem decodes_definition (h : TableOf (IsDecoded True) s.entries) {cs : List Char} (hc : cs <:+ text) :
    DecodesState text (definition s cs) := by
  unfold definition
  refine (reads_keyEquals hc).bind fun path rest _ hrest => ?_
  refine (decodes_value rest hrest).bind fun item left hitem hleft => ?_
  exact (meets_changed hleft fun s' hd => tableOf_define h hitem hd).bind fun s' _ hs => ⟨hs, hleft⟩

/-- What a line says keeps the document data. -/
theorem decodes_statement (h : TableOf (IsDecoded True) s.entries) {cs : List Char} (hc : cs <:+ text) :
    DecodesState text (statement s cs) := by
  unfold statement
  split
  · exact ⟨h, hc⟩
  · exact ⟨h, hc⟩
  · exact ⟨h, hc⟩
  · exact decodes_header h ((List.suffix_cons _ _).trans hc)
  · split
    · exact decodes_definition h hc
    · exact .malformed _ hc

/-- A line leaves a state of data, and so do all lines after it. -/
theorem meets_lines (s : State) (cs : List Char) (h : TableOf (IsDecoded True) s.entries) (hc : cs <:+ text) :
    Meets (fun s' => TableOf (IsDecoded True) s'.entries) (DecodeError.Stops text) (lines s cs) := by
  rw [lines]
  refine (decodes_statement h ((suffix_skipSpaces cs).trans hc)).bind fun s' rest hs hrest => ?_
  refine (leaves_skipComment ((suffix_skipSpaces rest).trans hrest)).bind fun left _ hleft => ?_
  split
  · exact hs
  · next c left _ =>
    have hend := (List.suffix_cons c left).trans hleft
    split
    · split
      · exact meets_lines s' left hs hend
      · exact .malformed _ hend
    · exact .malformed _ hleft
termination_by cs.length

/-- A whole text writes a table of data, or it is malformed at a place or holds an integer of too many digits. -/
theorem meets_decode (text : String) :
    Meets (IsDecoded True) (DecodeError.Stops (joinBreaks text.toList)) (decode text) :=
  (meets_lines .empty (joinBreaks text.toList) .nil List.suffix_rfl).bind fun _ _ h => h.isDecoded

/-! ## Line breaks -/

/-- What stands on one line stands there before line breaks are joined. -/
theorem prefix_of_joinBreaks {row cs : List Char} (h : row <+: joinBreaks cs) (hrow : ∀ c ∈ row, c ≠ '\n') :
    row <+: cs := by
  induction row generalizing cs with
  | nil => exact List.nil_prefix
  | cons c row ih =>
    fun_cases joinBreaks cs with
    | case1 rest =>
      exact absurd (List.cons_prefix_cons.1 h).1 (hrow c List.mem_cons_self)
    | case2 d rest hne =>
      rw [joinBreaks.eq_2 d rest hne] at h
      obtain ⟨rfl, hrest⟩ := List.cons_prefix_cons.1 h
      exact List.cons_prefix_cons.2 ⟨rfl, ih hrest fun c hc => hrow c (List.mem_cons_of_mem _ hc)⟩
    | case3 => exact h

/-- A row without line breaks that stands in a text after its line breaks are joined stands in the text itself. -/
theorem infix_of_joinBreaks {row cs : List Char} (h : row <:+: joinBreaks cs) (hrow : ∀ c ∈ row, c ≠ '\n') :
    row <:+: cs := by
  fun_induction joinBreaks cs with
  | case1 rest ih =>
    rcases List.infix_cons_iff.1 h with hp | hi
    · cases row with
      | nil => exact List.nil_infix
      | cons c row => exact absurd (List.cons_prefix_cons.1 hp).1 (hrow c List.mem_cons_self)
    · exact (ih hi).trans (List.IsSuffix.isInfix ⟨['\r', '\n'], rfl⟩)
  | case2 c rest hne ih =>
    rcases List.infix_cons_iff.1 h with hp | hi
    · have hrest : row <+: joinBreaks (c :: rest) := by rwa [joinBreaks.eq_2 c rest hne]
      exact (prefix_of_joinBreaks hrest hrow).isInfix
    · exact (ih hi).trans (List.suffix_cons c rest).isInfix
  | case3 => exact h

/-- Integers do not reach across lines. -/
theorem holdsLongInteger_of_joinBreaks {cs : List Char} (h : HoldsLongInteger (joinBreaks cs)) :
    HoldsLongInteger cs := by
  obtain ⟨digits, ⟨literal, hl, hrow, hdigits⟩, hlong⟩ := h
  have hbreak : ∀ c ∈ literal, c ≠ '\n' := by
    rintro c hc rfl
    rcases hrow _ hc with hd | hd <;> exact absurd hd (by decide)
  exact ⟨digits, ⟨literal, infix_of_joinBreaks hl hbreak, hrow, hdigits⟩, hlong⟩

end StructuredQuery.Toml
