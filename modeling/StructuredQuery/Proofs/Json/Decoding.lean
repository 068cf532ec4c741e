import StructuredQuery.Json.Decode
import StructuredQuery.Proofs.Document.Decoding

/-!
What JSON texts write. Every integer among the data can be written again, as it was read from no more digits
than that; a text that is malformed is so at a place in it.
-/

namespace StructuredQuery

open Text

variable {text : List Char}

theorem NumberText.holdsDigits_of_take? {cs rest : List Char} {n : NumberText}
    (h : take? Char.isDigit cs = some (n, rest)) : HoldsDigits n.whole cs := by
  have hunsigned {negative : Bool} {cs : List Char} (h : takeUnsigned? Char.isDigit negative cs = some (n, rest)) :
      HoldsDigits n.whole cs := by
    simp only [takeUnsigned?, Option.map_eq_some_iff, Prod.exists, Prod.mk.injEq] at h
    obtain ⟨whole, left, hrun, rfl, -⟩ := h
    obtain ⟨rfl, -, hdigits, -⟩ := run?_eq_some_iff.1 hrun
    exact ⟨whole, (List.prefix_append whole left).isInfix, fun c hc => .inl (hdigits c hc),
      List.filter_eq_self.2 hdigits⟩
  unfold take? at h
  split at h
  · next cs => exact (hunsigned h).mono (List.suffix_cons '-' cs).isInfix
  · exact hunsigned h

namespace Json

theorem suffix_skipSpaces (cs : List Char) : skipSpaces cs <:+ cs :=
  List.dropWhile_suffix isSpace

theorem suffix_behind? {c : Char} {cs rest : List Char} (h : behind? c cs = some rest) : rest <:+ cs := by
  unfold behind? at h
  split at h
  · next d left hs =>
    split at h
    · obtain rfl := Option.some.inj h
      exact (List.suffix_cons d left).trans (hs ▸ suffix_skipSpaces cs)
    · cases h
  · cases h

/-! ## Strings -/

theorem suffix_unit? {cs rest : List Char} {n : Nat} (h : unit? cs = some (n, rest)) : rest <:+ cs := by
  unfold unit? at h
  split at h
  · next a b c d e left =>
    obtain ⟨_, -, he⟩ := Option.map_eq_some_iff.1 h
    obtain ⟨-, rfl⟩ := Prod.mk.inj he
    exact ⟨[a, b, c, d], rfl⟩
  · cases h

theorem suffix_lowHalf? {high n : Nat} {cs rest : List Char} (h : lowHalf? high cs = some (n, rest)) :
    rest <:+ cs := by
  unfold lowHalf? at h
  split at h
  · next left =>
    split at h
    · next hu =>
      split at h
      · obtain ⟨-, rfl⟩ := Prod.mk.inj (Option.some.inj h)
        exact (suffix_unit? hu).trans ⟨['\\', 'u'], rfl⟩
      · cases h
    · cases h
  · cases h

theorem suffix_unicode? {cs rest : List Char} {c : Char} (h : unicode? cs = some (c, rest)) : rest <:+ cs := by
  unfold unicode? at h
  split at h
  · cases h
  · next hu =>
    split at h
    · next hl =>
      obtain ⟨-, rfl⟩ := Prod.mk.inj (Option.some.inj h)
      exact (suffix_lowHalf? hl).trans (suffix_unit? hu)
    · obtain ⟨-, rfl⟩ := Prod.mk.inj (Option.some.inj h)
      exact suffix_unit? hu

/-- One character of a string is read, or the text is malformed where it begins. -/
theorem reads_char {opening cs : List Char} (ho : opening <:+ text) (h : cs <:+ text) :
    Reads text (char opening cs) := by
  unfold char
  split
  · next rest =>
    have hu : 'u' :: rest <:+ text := (List.suffix_cons '\\' ('u' :: rest)).trans h
    refine (DecodeError.meets_require _ hu _).imp fun found hf => ⟨trivial, ?_⟩
    exact (suffix_unicode? hf).trans ((List.suffix_cons 'u' rest).trans hu)
  · next c rest _ =>
    refine (DecodeError.meets_require _ h _).imp fun found hf => ⟨trivial, ?_⟩
    obtain ⟨_, -, rfl⟩ := Option.map_eq_some_iff.1 hf
    exact List.IsSuffix.trans ⟨['\\', c], rfl⟩ h
  · exact .malformed _ ho
  · next c rest _ _ _ =>
    split
    · exact .malformed _ h
    · exact ⟨trivial, (List.suffix_cons c rest).trans h⟩
  · exact .malformed _ ho

/-- The body of a string is read up to its quote, or the text is malformed where the string begins. -/
theorem reads_stringBody {opening : List Char} (ho : opening <:+ text) (cs : List Char) (h : cs <:+ text) :
    Reads text (stringBody opening cs) := by
  rw [stringBody]
  split
  · exact ⟨trivial, (List.tail_suffix cs).trans h⟩
  · refine (reads_char ho h).bind fun c rest _ hr => ?_
    dsimp only
    split
    · exact (reads_stringBody ho rest hr).bind fun body left _ hl => ⟨trivial, hl⟩
    · exact .malformed _ ho
termination_by cs.length

theorem reads_key {cs : List Char} (h : cs <:+ text) : Reads text (key cs) := by
  have hspaces := (suffix_skipSpaces cs).trans h
  unfold key
  split
  · next rest hs =>
    have hopening : '"' :: rest <:+ text := hs ▸ hspaces
    refine (reads_stringBody hopening rest ((List.suffix_cons '"' rest).trans hopening)).bind ?_
    intro body left _ hl
    have hbehind := (suffix_skipSpaces left).trans hl
    exact (DecodeError.meets_require _ hbehind _).bind fun left' _ hc => ⟨trivial, (suffix_behind? hc).trans hl⟩
  · exact .malformed _ hspaces

/-! ## Values -/

/-- A number is data, or its digits are too many. -/
theorem decodes_number {cs : List Char} (h : cs <:+ text) : Decodes (Value.IsDecoded False) text (number cs) := by
  unfold number
  refine (DecodeError.meets_require _ h _).bind ?_
  rintro ⟨n, rest⟩ - hn
  dsimp only
  split
  · have hzero : Integer.IsShort 0 := by
      change (Text.digitsOfNat 0).length ≤ Integer.digitLimit
      decide
    exact ⟨.int (.inl hzero), (List.drop_suffix _ cs).trans h⟩
  · have hdigits := (NumberText.holdsDigits_of_take? hn).mono h.isInfix
    exact (Value.meets_ofNumber hdigits).bind fun v _ hv => ⟨hv, (NumberText.suffix_take? hn).trans h⟩

theorem suffix_dropWord? {word : String} {cs rest : List Char} (h : dropWord? word cs = some rest) : rest <:+ cs := by
  unfold dropWord? at h
  split at h
  · obtain rfl := Option.some.inj h
    exact List.drop_suffix _ cs
  · cases h

/-- A value without parts is data. -/
theorem decodes_scalar {cs : List Char} (h : cs <:+ text) : Decodes (Value.IsDecoded False) text (scalar cs) := by
  unfold scalar
  split
  · next rest =>
    refine (reads_stringBody h rest ((List.suffix_cons '"' rest).trans h)).bind fun body left _ hl => ?_
    exact ⟨.text _, hl⟩
  · split
    · next found hw =>
      -- every word is a value without parts
      obtain ⟨⟨word, value⟩, hm, hv⟩ := List.exists_of_findSome?_eq_some hw
      obtain ⟨rest, hd, rfl⟩ := Option.map_eq_some_iff.1 hv
      refine ⟨?_, (suffix_dropWord? hd).trans h⟩
      simp only [words, List.mem_cons, Prod.mk.injEq, List.not_mem_nil, or_false] at hm
      rcases hm with ⟨-, rfl⟩ | ⟨-, rfl⟩ | ⟨-, rfl⟩ | ⟨-, rfl⟩ | ⟨-, rfl⟩ | ⟨-, rfl⟩
      · exact .null
      · exact .bool _
      · exact .bool _
      · exact .float _
      · exact .float _
      · exact .float _
    · exact decodes_number h

/-- Members make a table, in which the last of several equal keys counts. -/
theorem tableOf_members {members : List (String × Value)} (h : ∀ m ∈ members, m.2.IsDecoded False)
    {entries : List (Value × Value)} (he : Value.TableOf (Value.IsDecoded False) entries) :
    Value.TableOf (Value.IsDecoded False) (members.foldl (fun es e => Mapping.put (.text e.1) e.2 es) entries) := by
  induction members generalizing entries with
  | nil => exact he
  | cons m rest ih =>
    exact ih (fun m hm => h m (List.mem_cons_of_mem _ hm)) (he.put m.1 (h m List.mem_cons_self))

theorem suffix_of_front {cs rest : List Char} (h : front cs = .array rest ∨ front cs = .object rest) : rest <:+ cs := by
  unfold front at h
  split at h
  · obtain rfl := Front.array.inj (h.resolve_right (by simp))
    exact List.suffix_cons _ _
  · obtain rfl := Front.object.inj (h.resolve_left (by simp))
    exact List.suffix_cons _ _
  · simp at h

-- Along the reading itself, which goes from one place in the text to a later one.
mutual

/-- The value at the front of a text is data, and what is left is the end of the text. -/
theorem decodes_value (cs : List Char) (h : cs <:+ text) : Decodes (Value.IsDecoded False) text (value cs) := by
  have hspaces := (suffix_skipSpaces cs).trans h
  rw [value]
  split
  · exact decodes_scalar hspaces
  · next rest hf =>
    have hrest := (suffix_of_front (.inl hf)).trans hspaces
    split
    · next hb => exact ⟨.list (by simp), (suffix_behind? hb).trans hrest⟩
    · split
      · exact (decodes_elements rest hrest).bind fun items left hi hl => ⟨.list hi, hl⟩
      · exact .malformed _ hrest
  · next rest hf =>
    have hrest := (suffix_of_front (.inr hf)).trans hspaces
    split
    · next hb => exact ⟨.mapping (by simp) (by simp), (suffix_behind? hb).trans hrest⟩
    · split
      · exact (decodes_members rest hrest).bind fun entries left he hl => ⟨(tableOf_members he .nil).isDecoded, hl⟩
      · exact .malformed _ hrest
termination_by 2 * cs.length

/-- The items of an array are data. -/
theorem decodes_elements (cs : List Char) (h : cs <:+ text) :
    Decodes (fun items => ∀ v ∈ items, v.IsDecoded False) text (elements cs) := by
  rw [elements]
  refine (decodes_value cs h).bind fun item rest hitem hrest => ?_
  dsimp only
  split
  · next hb => exact ⟨List.forall_mem_singleton.2 hitem, (suffix_behind? hb).trans hrest⟩
  · refine (DecodeError.meets_require _ ((suffix_skipSpaces rest).trans hrest) _).bind fun left _ hc => ?_
    have hleft := (suffix_behind? hc).trans hrest
    split
    · refine (decodes_elements left hleft).bind fun items left' hitems hl => ?_
      exact ⟨List.forall_mem_cons.2 ⟨hitem, hitems⟩, hl⟩
    · exact .malformed _ hleft
termination_by 2 * cs.length + 1

/-- The members of an object are data. -/
theorem decodes_members (cs : List Char) (h : cs <:+ text) :
    Decodes (fun members => ∀ m ∈ members, m.2.IsDecoded False) text (members cs) := by
  rw [members]
  refine (reads_key h).bind fun key rest _ hrest => ?_
  dsimp only
  split
  · refine (decodes_value rest hrest).bind fun value rest' hvalue hrest' => ?_
    dsimp only
    split
    · next hb => exact ⟨List.forall_mem_singleton.2 hvalue, (suffix_behind? hb).trans hrest'⟩
    · refine (DecodeError.meets_require _ ((suffix_skipSpaces rest').trans hrest') _).bind fun left _ hc => ?_
      have hleft := (suffix_behind? hc).trans hrest'
      split
      · refine (decodes_members left hleft).bind fun entries left' hentries hl => ?_
        exact ⟨List.forall_mem_cons.2 ⟨hvalue, hentries⟩, hl⟩
      · exact .malformed _ hleft
  · exact .malformed _ hrest
termination_by 2 * cs.length + 1

end

/-- A whole text writes data, or it is malformed at a place or holds an integer of too many digits. -/
theorem meets_decode (text : String) :
    Meets (Value.IsDecoded False) (DecodeError.Stops text.toList) (decode text) := by
  unfold decode
  split
  · exact .malformed _ List.suffix_rfl
  · refine (decodes_value text.toList List.suffix_rfl).bind fun v rest hv hrest => ?_
    dsimp only
    split
    · exact hv
    · exact .malformed _ ((suffix_skipSpaces rest).trans hrest)

end Json

end StructuredQuery
