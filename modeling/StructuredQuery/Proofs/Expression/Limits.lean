import StructuredQuery.Proofs.Expression.Errors
import StructuredQuery.Proofs.Expression.Validity
import StructuredQuery.Proofs.Number.Reread
import StructuredQuery.Proofs.Query.Written

/-!
Why an expression cannot be written. Plain data are shown and written whatever they hold, but for integers of
too many digits; so what is made of them is refused by a rule, or can be written, unless there is such an
integer among them.
-/

namespace StructuredQuery

open Text

def Integer.IsShort (n : Int) : Prop :=
  (digitsOfNat n.natAbs).length ≤ digitLimit

/-- The only failure of a result is that an integer has too many digits, where one may. -/
def Limited {α : Type} (long : Prop) (r : Except Fault α) : Prop :=
  ∀ f, r = .error f → f = .digitLimit ∧ long

theorem limited_ok {α : Type} {long : Prop} (a : α) : Limited long (.ok a) := by
  intro f hf
  cases hf

/-- A row of steps keeps within the limit if each of them does. -/
theorem Limited.bind {α β : Type} {long : Prop} {r : Except Fault α} {f : α → Except Fault β}
    (hr : Limited long r) (hf : ∀ a, Limited long (f a)) : Limited long (r >>= f) := by
  cases r with
  | error fault =>
    intro f' h
    obtain rfl : fault = f' := Except.error.inj h
    exact hr fault rfl
  | ok a => exact hf a

theorem Limited.map {α β : Type} {long : Prop} {r : Except Fault α} (f : α → β) (hr : Limited long r) :
    Limited long (r.map f) := by
  cases r with
  | error fault =>
    intro f' h
    obtain rfl : fault = f' := Except.error.inj h
    exact hr fault rfl
  | ok a => exact limited_ok (f a)

/-- Where nothing is long, nothing fails. -/
theorem exists_of_limited_false {α : Type} {r : Except Fault α} (h : Limited False r) : ∃ a, r = .ok a := by
  cases r with
  | ok a => exact ⟨a, rfl⟩
  | error f => exact (h f rfl).2.elim

/-- An error that names a broken rule, or tells that an integer has too many digits, where one may. -/
def Error.RefusedOr (long : Prop) (e : Error) : Prop :=
  e.breaksRule ∨ e = .fault .digitLimit ∧ long

/-- What a decoded document holds: words, texts, numbers, points in time, rows and tables of these under texts,
and intervals between them. An integer that cannot be written was given in another base than ten, and so without
a minus. -/
inductive Value.IsData (long : Prop) : Value → Prop
  | null : IsData long .null
  | bool (b : Bool) : IsData long (.bool b)
  | int {n : Int} (h : Integer.IsShort n ∨ 0 ≤ n ∧ long) : IsData long (.int n)
  | float (x : Binary64) : IsData long (.float x)
  | text (s : String) : IsData long (.text s)
  | timestamp (t : Timestamp) : IsData long (.timestamp t)
  | date (d : Date) : IsData long (.date d)
  | time (t : TimeOfDay) : IsData long (.time t)
  | list {items : List Value} (h : ∀ v ∈ items, IsData long v) : IsData long (.list items)
  | tuple {items : List Value} (h : ∀ v ∈ items, IsData long v) : IsData long (.tuple items)
  | mapping {entries : List (Value × Value)} (hk : ∀ entry ∈ entries, ∃ s, entry.1 = .text s)
      (hv : ∀ entry ∈ entries, IsData long entry.2) : IsData long (.mapping entries)
  | range {r : Interval} (hl : IsData long r.lower) (hu : IsData long r.upper) : IsData long (.range r)

variable {long : Prop}

/-- Values of a property under texts. -/
structure Value.TableOf (P : Value → Prop) (entries : List (Value × Value)) : Prop where
  key : ∀ entry ∈ entries, ∃ s, entry.1 = .text s
  value : ∀ entry ∈ entries, P entry.2

theorem Value.IsData.table {entries : List (Value × Value)} (h : (Value.mapping entries).IsData long) :
    TableOf (IsData long) entries := by
  cases h with
  | mapping hk hv => exact ⟨hk, hv⟩

theorem Value.IsData.items {items : List Value} (h : (Value.list items).IsData long) :
    ∀ v ∈ items, v.IsData long := by
  cases h with
  | list h => exact h

theorem Value.IsData.parts {items : List Value} (h : (Value.tuple items).IsData long) :
    ∀ v ∈ items, v.IsData long := by
  cases h with
  | tuple h => exact h

/-- An integer is written unless it has too many digits. -/
theorem Integer.limited_write {n : Int} (h : IsShort n ∨ long) : Limited long (write n) := by
  intro f hf
  rcases h with h | h
  · rw [write_of_length h] at hf
    cases hf
  · refine ⟨?_, h⟩
    unfold write at hf
    split at hf
    · cases hf
    · exact (Except.error.inj hf).symm

/-! ## Data shown and written -/

theorem limited_shownItems {items : List Value} (h : ∀ v ∈ items, Limited long v.shown) :
    Limited long (shownItems items) := by
  induction items with
  | nil => exact limited_ok _
  | cons item rest ih =>
    rw [shownItems]
    apply (h item List.mem_cons_self).bind
    intro _
    exact (ih fun v hv => h v (List.mem_cons_of_mem _ hv)).bind fun _ => limited_ok _

theorem limited_shownEntries {entries : List (Value × Value)}
    (hk : ∀ entry ∈ entries, ∃ s, entry.1 = .text s) (hv : ∀ entry ∈ entries, Limited long entry.2.shown) :
    Limited long (shownEntries entries) := by
  induction entries with
  | nil => exact limited_ok _
  | cons entry rest ih =>
    obtain ⟨key, value⟩ := entry
    obtain ⟨s, hs⟩ := hk (key, value) List.mem_cons_self
    have hvalue := hv (key, value) List.mem_cons_self
    have hkey : Limited long key.shown := by
      rw [show key = .text s from hs, Value.shown]
      exact limited_ok _
    rw [shownEntries]
    refine hkey.bind fun _ => hvalue.bind fun _ => ?_
    refine (ih ?_ ?_).bind fun _ => limited_ok _
    · exact fun entry he => hk entry (List.mem_cons_of_mem _ he)
    · exact fun entry he => hv entry (List.mem_cons_of_mem _ he)

/-- Plain data can be shown in a message, but for integers of too many digits. -/
theorem Value.IsData.limited_shown {v : Value} (h : v.IsData long) : Limited long v.shown := by
  induction h with
  | int h =>
    rw [shown]
    exact Integer.limited_write (h.imp_right And.right)
  | list _ ih =>
    rw [shown]
    exact (limited_shownItems ih).bind fun _ => limited_ok _
  | tuple _ ih =>
    rw [shown]
    exact (limited_shownItems ih).bind fun _ => limited_ok _
  | mapping hk _ ih =>
    rw [shown]
    exact (limited_shownEntries hk ih).bind fun _ => limited_ok _
  | @range r _ _ ihl ihu =>
    obtain ⟨lower, lowerInclusive, upper, upperInclusive⟩ := r
    rw [shown, Interval.shown]
    exact ihl.bind fun _ => ihu.bind fun _ => limited_ok _
  | _ =>
    rw [shown]
    exact limited_ok _

theorem limited_writeBound {v : Value} (h : Limited long v.written) : Limited long (writeBound v v.written) := by
  unfold writeBound
  split
  · exact limited_ok _
  · split
    · exact h
    · exact h.map _

/-- An interval is written as its bounds are. -/
theorem Interval.limited_written {r : Interval} (hl : Limited long r.lower.written)
    (hu : Limited long r.upper.written) : Limited long r.written := by
  obtain ⟨lower, lowerInclusive, upper, upperInclusive⟩ := r
  have hside {v : Value} (hv : Limited long v.written) (missing : List Char) (f : List Char → List Char) :
      Limited long (if v.isNull then pure missing else (writeBound v v.written).map f) := by
    split
    · exact limited_ok _
    · exact (limited_writeBound hv).map _
  rw [Interval.written_mk]
  exact (hside hl _ _).bind fun _ => (hside hu _ _).bind fun _ => limited_ok _

/-- Plain data can be written in a query text, but for integers of too many digits. -/
theorem Value.IsData.limited_written {v : Value} (h : v.IsData long) : Limited long v.written := by
  have hshown := h.limited_shown
  -- an interval is written by its bounds, a text or a point in time without fail, and all else as it is shown
  induction h with
  | range hl hu ihl ihu =>
    rw [written]
    exact Interval.limited_written (ihl hl.limited_shown) (ihu hu.limited_shown)
  | text | timestamp | date | time =>
    rw [written]
    exact limited_ok _
  | _ =>
    rw [written]
    · exact hshown.map _
    all_goals simp

/-! ## Fields and expressions of data -/

/-- A field that can be written, as far as the digits of integers allow it. -/
abbrev FieldValue.Writable (long : Prop) (f : FieldValue) : Prop := Limited long f.written

theorem limited_writtenFields {fields : List FieldValue} (h : ∀ f ∈ fields, f.Writable long) :
    Limited long (writtenFields fields) := by
  induction fields with
  | nil => exact limited_ok _
  | cons f rest ih =>
    rw [writtenFields]
    apply (h f List.mem_cons_self).bind
    intro _
    exact (ih fun f hf => h f (List.mem_cons_of_mem _ hf)).bind fun _ => limited_ok _

/-- An expression is written as its fields are. -/
theorem Expression.limited_written {e : Expression} (h : ∀ f ∈ e.fields, f.Writable long) :
    Limited long e.written := by
  obtain ⟨operator, options, fields⟩ := e
  rw [Expression.written]
  exact (limited_writtenFields h).bind fun _ => limited_ok _

theorem Expression.limited_render {e : Expression} (h : Limited long e.written) : Limited long e.render :=
  h.map _

/-- Texts and numbers can be matched. -/
theorem limited_writeContent {v : Value} (h : Limited long v.written) (hk : v.text?.isSome || v.isNumber) :
    Limited long (writeContent v v.written) := by
  unfold writeContent
  split
  · exact h
  · exact h
  · exact limited_ok _
  · exact limited_ok _
  · cases hk
  · split
    · exact h
    · next hnumber =>
      split
      · exact limited_ok _
      · next htext => simp [hnumber, htext] at hk

theorem FieldValue.writable_of_content {value : Value} {name : Option String}
    (h : Limited long (writeContent value value.written)) : Writable long ⟨value, name⟩ := by
  rw [Writable, FieldValue.written]
  exact h.map _

theorem FieldValue.writable_expression {e : Expression} {name : Option String} (h : Limited long e.written) :
    Writable long ⟨.expression e, name⟩ := by
  apply writable_of_content
  rw [writeContent, Value.written]
  exact h

/-- An interval of plain bounds is plain data. -/
theorem Interval.isData_of_ofDescriptor {lower lowerExclusive upper upperExclusive : Value} {r : Interval}
    (hl : lower.IsData long) (hle : lowerExclusive.IsData long) (hu : upper.IsData long)
    (hue : upperExclusive.IsData long) (h : ofDescriptor lower lowerExclusive upper upperExclusive = .ok r) :
    (Value.range r).IsData long := by
  obtain ⟨-, rfl⟩ := ofDescriptor_eq_ok h
  exact .range (of_side .null hl hle) (of_side .null hu hue)

/-- What a field holds of data can be written, and what it cannot hold is refused. -/
theorem Value.IsData.content {v : Value} (h : v.IsData long) :
    Meets (fun w => Limited long (writeContent w w.written)) (Error.RefusedOr long) v.content := by
  have hwritten := h.limited_written
  have hrefused := h.limited_shown
  have hrange {r : Interval} (hr : Limited long (Value.range r).written) :
      Limited long (writeContent (.range r) (Value.range r).written) := by
    rw [writeContent]
    exact hr
  unfold Value.content
  split
  · exact limited_ok _
  · exact hrange hwritten
  · cases h
  -- a pair is made an interval, whose bounds are parts of the pair
  · next lower upper =>
    have hparts := h.parts
    have hmade : Meets (fun r => Limited long (Value.range r).written) (Error.RefusedOr long)
        (Interval.ofBounds lower upper) := by
      rw [Interval.ofBounds_eq]
      refine meets_iff.2 ⟨fun r hr => ?_, fun e he => .inl ((Interval.breaks_ofDescriptor _ _ _ _).of_error he)⟩
      have hdata := Interval.isData_of_ofDescriptor (hparts lower (by simp)) .null (hparts upper (by simp)) .null hr
      exact hdata.limited_written
    exact hmade.map fun _ hr => hrange hr
  · exact limited_ok _
  · cases h
  · cases h
  · split
    · next hkind => exact limited_writeContent hwritten hkind
    · refine v.meets_unusable (fun f hf => ?_) fun _ _ => .inl rfl
      exact .inr ⟨congrArg _ (hrefused f hf).1, (hrefused f hf).2⟩

/-- An option is made of plain data, but for an integer of too many digits. -/
theorem OperatorOption.limited_new {name : OptionName} {value : Value} (h : value.IsData long) :
    Limited long (new (.optionName name) value) := by
  have hword : Limited long value.word? := by
    unfold Value.word?
    split
    · exact limited_ok _
    · cases h
    · split
      · exact limited_ok _
      · split
        · exact (h.limited_written.map _).map _
        · exact limited_ok _
  by_cases hv : value = .null
  · rw [hv]
    exact limited_ok _
  · rw [new_optionName name hv]
    exact hword.map _

/-- An expression of writable fields can be written, or was refused. -/
theorem Expression.limited_ofConditions {operator : Operator} {conditions : List Condition}
    (h : ∀ c ∈ conditions, c.Holds (Value.IsData long) (fun _ => True) (FieldValue.Writable long)
      (Error.RefusedOr long)) :
    Meets (fun e => Limited long e.written) (Error.RefusedOr long) (ofConditions operator conditions) := by
  have hfault (name : OptionName) (value : Value) (f : Fault) (hv : value.IsData long)
      (hf : OperatorOption.new (.optionName name) value = .error f) : Error.RefusedOr long (.fault f) := by
    have hlimit := OperatorOption.limited_new hv f hf
    exact .inr ⟨congrArg _ hlimit.1, hlimit.2⟩
  refine (meets_ofConditions operator h (fun _ _ _ _ => trivial) hfault fun e he => .inl he.breaksRule).imp ?_
  rintro e ⟨-, -, hfields, -⟩
  exact limited_written hfields

/-- The reading of data gives fields that can be written, or refusals. -/
theorem readingInvariant_limited : ReadingInvariant (Value.IsData long) Value.IsName (fun _ => True)
    (FieldValue.Writable long) (Error.RefusedOr long) where
  option _ _ := trivial
  field _ h := by cases h
  items _ h := h.items
  parts _ h := h.parts
  entries es h entry he := by
    obtain ⟨s, hs⟩ := h.table.key entry he
    refine ⟨.inr ⟨s, by rw [hs]; rfl⟩, .tuple ?_⟩
    rw [hs]
    simpa using ⟨.text s, h.table.value entry he⟩
  unnamed := .inl rfl
  text _ s hs := .inr ⟨s, hs⟩
  named name value conditions hn hv hc := by
    -- a field is named by a text or not at all, so looking for its name does not fail
    have hnofault (f : Fault) : name.fieldName? ≠ .error f := by
      rcases hn with rfl | ⟨s, hs⟩
      · exact fun hf => by cases hf
      · rw [Value.fieldName?, Value.asText_of_text? hs]
        split <;> exact fun hf => by cases hf
    refine FieldValue.meets_ofNamed ?_ ?_ ?_ fun f hf => absurd hf (hnofault f)
    · intro operator _
      exact (Expression.limited_ofConditions hc).imp fun e he => FieldValue.writable_expression he
    · rintro n f - - rfl
      cases hv
    · intro n _ _ _
      exact hv.content.imp fun w hw => FieldValue.writable_of_content hw

/-- An expression that is made of data can be written, and one that is not made breaks a rule. -/
theorem Expression.limited_new {word : String} {conditions : Value} (h : conditions.IsData long) :
    Meets (fun e => Limited long e.render) (Error.RefusedOr long) (new (.text word) conditions) := by
  unfold new
  split
  · have hread := (readingInvariant_limited.reads conditions h).2
    exact (limited_ofConditions hread).imp fun e he => limited_render he
  · have htext : (Value.text word).asText = .ok word := Value.asText_of_text? rfl
    rw [htext]
    exact .inl rfl

end StructuredQuery
