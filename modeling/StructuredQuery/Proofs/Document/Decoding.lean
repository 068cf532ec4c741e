import StructuredQuery.Document.DecodeError
import StructuredQuery.Proofs.Expression.Limits

/-!
What decoding gives, whatever the format: data, or an error that says at which place of the text it is malformed,
or that an integer in it has too many digits. A row of so many digits then stands in the text.
-/

namespace StructuredQuery

namespace Text

/-- A row of digits stands in a text, perhaps with underscores between them. -/
def HoldsDigits (digits text : List Char) : Prop :=
  ∃ literal, literal <:+: text ∧ (∀ c ∈ literal, c.isDigit ∨ c = '_') ∧ literal.filter Char.isDigit = digits

def HoldsLongInteger (text : List Char) : Prop :=
  ∃ digits, HoldsDigits digits text ∧ Integer.digitLimit < digits.length

/-- Digits in a part of a text stand in the text. -/
theorem HoldsDigits.mono {digits part text : List Char} (h : HoldsDigits digits part) (hp : part <:+: text) :
    HoldsDigits digits text := by
  obtain ⟨literal, hl, hrow, hdigits⟩ := h
  exact ⟨literal, hl.trans hp, hrow, hdigits⟩

end Text

open Text

/-- The errors of decoding a text: they name a place in it, or it holds an integer of too many digits. -/
inductive DecodeError.Stops (text : List Char) : DecodeError → Prop
  | malformed (what : String) {rest : List Char} (h : rest <:+ text) : Stops text (.malformed what rest)
  | digits (h : HoldsLongInteger text) : Stops text (.fault .digitLimit)

variable {text : List Char}

/-- What is read from a place in a text has a property and leaves a place in the text, or reading stops. -/
abbrev Decodes {α : Type} (P : α → Prop) (text : List Char) (r : Except DecodeError (α × List Char)) : Prop :=
  Meets (fun found => P found.1 ∧ found.2 <:+ text) (DecodeError.Stops text) r

/-- What is read from a place in a text leaves a place in the text, or reading stops. -/
abbrev Reads {α : Type} (text : List Char) (r : Except DecodeError (α × List Char)) : Prop :=
  Decodes (fun _ => True) text r

/-- Reading goes on in what is left. -/
theorem Decodes.bind {α β : Type} {P : α → Prop} {Q : β → Prop} {r : Except DecodeError (α × List Char)}
    {f : α × List Char → Except DecodeError β} (hr : Decodes P text r)
    (hf : ∀ a rest, P a → rest <:+ text → Meets Q (DecodeError.Stops text) (f (a, rest))) :
    Meets Q (DecodeError.Stops text) (r >>= f) :=
  Meets.bind hr fun found _ h => hf found.1 found.2 h.1 h.2

/-- What is missing is told with the rest of the text. -/
theorem DecodeError.meets_require {α : Type} {rest : List Char} (what : String) (h : rest <:+ text)
    (found : Option α) : Meets (fun a => found = some a) (Stops text) (require what rest found) := by
  cases found with
  | none => exact .malformed what h
  | some a => rfl

/-! ## Decoded values -/

variable {long : Prop}

/-- What decoding gives: words, texts, numbers, points in time, and rows and tables of these under texts. An integer
that cannot be written was given in another base than ten, and so without a minus. -/
inductive Value.IsDecoded (long : Prop) : Value → Prop
  | null : IsDecoded long .null
  | bool (b : Bool) : IsDecoded long (.bool b)
  | int {n : Int} (h : Integer.IsShort n ∨ 0 ≤ n ∧ long) : IsDecoded long (.int n)
  | float (x : Binary64) : IsDecoded long (.float x)
  | text (s : String) : IsDecoded long (.text s)
  | timestamp (t : Timestamp) : IsDecoded long (.timestamp t)
  | date (d : Date) : IsDecoded long (.date d)
  | time (t : TimeOfDay) : IsDecoded long (.time t)
  | list {items : List Value} (h : ∀ v ∈ items, IsDecoded long v) : IsDecoded long (.list items)
  | mapping {entries : List (Value × Value)} (hk : ∀ entry ∈ entries, ∃ s, entry.1 = .text s)
      (hv : ∀ entry ∈ entries, IsDecoded long entry.2) : IsDecoded long (.mapping entries)

theorem Value.IsDecoded.items {items : List Value} (h : (Value.list items).IsDecoded long) :
    ∀ v ∈ items, v.IsDecoded long := by
  cases h with
  | list h => exact h

/-- A number that stands in a text is an integer that can be written or a float, unless it has too many digits. -/
theorem Value.meets_ofNumber {n : NumberText} (h : HoldsDigits n.whole text) :
    Meets (Value.IsDecoded long) (DecodeError.Stops text) (liftM (Value.ofNumber n) : Except DecodeError Value) := by
  have hread {f : Fault} (hf : Integer.read n.negative n.whole = .error f) :
      f = .digitLimit ∧ Integer.digitLimit < n.whole.length := by
    unfold Integer.read at hf
    split at hf
    · cases hf
    · exact ⟨(Except.error.inj hf).symm, by omega⟩
  unfold Value.ofNumber
  split
  · cases hi : Integer.read n.negative n.whole with
    | error f =>
      obtain ⟨rfl, hlt⟩ := hread hi
      exact .digits ⟨n.whole, h, hlt⟩
    | ok i => exact .int (.inl (Integer.length_digitsOfNat_of_read hi))
  · exact .float _

/-! ## Tables under construction -/

namespace Value

variable {P : Value → Prop} {entries : List (Value × Value)} {value : Value}

theorem IsDecoded.table (h : (Value.mapping entries).IsDecoded long) : TableOf (IsDecoded long) entries := by
  cases h with
  | mapping hk hv => exact ⟨hk, hv⟩

/-- A table of decoded values is one. -/
theorem TableOf.isDecoded (h : TableOf (IsDecoded long) entries) : (Value.mapping entries).IsDecoded long :=
  .mapping h.key h.value

theorem TableOf.nil : TableOf P [] :=
  ⟨by simp, by simp⟩

/-- A value put under a text leaves a table of such values. -/
theorem TableOf.put (key : String) (h : TableOf P entries) (hv : P value) :
    TableOf P (Mapping.put (.text key) value entries) := by
  induction entries with
  | nil => exact ⟨by simp [Mapping.put], by simpa [Mapping.put] using hv⟩
  | cons entry rest ih =>
    obtain ⟨k, v⟩ := entry
    have hrest := ih ⟨fun e he => h.key e (List.mem_cons_of_mem _ he), fun e he =>
      h.value e (List.mem_cons_of_mem _ he)⟩
    have hk := h.key (k, v) List.mem_cons_self
    have hold := h.value (k, v) List.mem_cons_self
    rw [Mapping.put]
    split
    · exact ⟨List.forall_mem_cons.2 ⟨hk, fun e he => h.key e (List.mem_cons_of_mem _ he)⟩,
        List.forall_mem_cons.2 ⟨hv, fun e he => h.value e (List.mem_cons_of_mem _ he)⟩⟩
    · exact ⟨List.forall_mem_cons.2 ⟨hk, hrest.key⟩, List.forall_mem_cons.2 ⟨hold, hrest.value⟩⟩

/-- What stands under a key has the property. -/
theorem TableOf.get? {key : String} (h : TableOf P entries) (hg : Mapping.get? key entries = some value) :
    P value := by
  obtain ⟨entry, he, rfl⟩ := Option.map_eq_some_iff.1 hg
  exact h.value entry (List.mem_of_find?_eq_some he)

end Value

/-! ## Integers in data -/

inductive Value.Holds (n : Int) : Value → Prop
  | here : Holds n (.int n)
  | item {items : List Value} {v : Value} (hm : v ∈ items) (h : Holds n v) : Holds n (.list items)
  | part {items : List Value} {v : Value} (hm : v ∈ items) (h : Holds n v) : Holds n (.tuple items)
  | entry {entries : List (Value × Value)} {entry : Value × Value} (hm : entry ∈ entries)
      (h : Holds n entry.2) : Holds n (.mapping entries)
  | lower {r : Interval} (h : Holds n r.lower) : Holds n (.range r)
  | upper {r : Interval} (h : Holds n r.upper) : Holds n (.range r)

/-- What is decoded is limited by the integers that stand in it. -/
theorem Value.IsDecoded.limit {v : Value} (h : v.IsDecoded long) {limit : Prop}
    (hn : ∀ n, v.Holds n → Integer.IsShort n ∨ limit) : v.IsDecoded limit := by
  induction h with
  | null => exact .null
  | bool b => exact .bool b
  | int h => exact .int (h.elim .inl fun h => (hn _ .here).imp_right fun hl => ⟨h.1, hl⟩)
  | float x => exact .float x
  | text s => exact .text s
  | timestamp t => exact .timestamp t
  | date d => exact .date d
  | time t => exact .time t
  | list _ ih => exact .list fun v hv => ih v hv fun n hh => hn n (.item hv hh)
  | mapping hk _ ih => exact .mapping hk fun entry he => ih entry he fun n hh => hn n (.entry he hh)

/-- An integer is short, where no other may stand. -/
theorem Value.IsDecoded.isShort_of_holds {v : Value} (h : v.IsDecoded False) {n : Int} (hn : v.Holds n) :
    Integer.IsShort n := by
  induction hn with
  | here =>
    cases h with
    | int h => exact h.resolve_right And.right
  | item hm _ ih => exact ih (h.items _ hm)
  | entry hm _ ih => exact ih (h.table.value _ hm)
  | part | lower | upper => cases h

end StructuredQuery
