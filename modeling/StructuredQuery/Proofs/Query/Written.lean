import StructuredQuery.Proofs.Expression.Spelled
import StructuredQuery.Proofs.Number.Reread
import StructuredQuery.Proofs.Number.Words
import StructuredQuery.Proofs.Query.Exact
import StructuredQuery.Value.Written

/-!
The parts of a query as they are written, read back. Every part is read as far as it was written whatever
comes behind it, as long as that cannot make it longer: a comma or bracket in an interval, and a space or
bracket in an expression.
-/

namespace StructuredQuery

open Query Text

structure Interval.Plain (r : Interval) : Prop where
  made : ∃ lower lowerExclusive upper upperExclusive,
    Interval.ofDescriptor lower lowerExclusive upper upperExclusive = .ok r
  lower : r.lower = .null ∨ r.lower.IsScalar
  upper : r.upper = .null ∨ r.upper.IsScalar

/-- What a field may hold to be read back: a scalar that is not taken over as it is, an interval, or an
expression. -/
inductive Value.Plain : Value → Prop
  | scalar {v : Value} (h : v.IsScalar) (ho : ∀ s, v.text? = some s → Text.isOpaque s.toList = false) :
      Plain v
  | interval {r : Interval} (h : r.Plain) : Plain (.range r)
  | expression {e : Expression} : Plain (.expression e)

theorem Value.isNumber_of_text? {v : Value} {s : String} (h : v.text? = some s) : v.isNumber = false := by
  cases v <;> simp [Value.text?] at h ⊢
  all_goals rfl

/-- A text is written between quotes. -/
theorem writeBound_text {v : Value} {s : String} (h : v.text? = some s) :
    writeBound v v.written = .ok (quote s.toList) := by
  have hn := Value.isNumber_of_text? h
  rw [Value.written_of_text? h]
  cases v <;> simp [Value.text?] at h <;> simp [writeBound, hn, Except.map]

/-- An integer is written in decimal. -/
theorem writeBound_int {n : Int} {text : String} (h : Integer.write n = .ok text) :
    writeBound (.int n) (Value.int n).written = .ok text.toList := by
  rw [Value.written]
  · simp [writeBound, Value.isNumber, Value.shown, h, Except.map]
  all_goals simp

/-- A float is written in the shortest form. -/
theorem writeBound_float {x : Binary64} (h : x.isFinite) :
    writeBound (.float x) (Value.float x).written = .ok x.write.toList := by
  rw [Value.written]
  · simp [writeBound, Value.isNumber, Value.shown, h, Except.map]
  all_goals simp

/-- A text that is taken as a number or string of some property. -/
def Query.TakesScalar (w : List Char) (P : Scalar → Prop) : Prop :=
  ∀ rest, Stops NumberText.isContinuation rest → ∃ s, scalar? (w ++ rest) = some (s, rest) ∧ P s

theorem Query.TakesScalar.imp {w : List Char} {P Q : Scalar → Prop} (h : TakesScalar w P)
    (hpq : ∀ s, P s → Q s) : TakesScalar w Q := by
  intro rest hr
  obtain ⟨s, hs, hp⟩ := h rest hr
  exact ⟨s, hs, hpq s hp⟩

/-- A quoted text is read as a string, with its escapes. -/
theorem Query.takesScalar_quote (s : List Char) : TakesScalar (quote s) (· = .text (escape s)) :=
  fun rest _ => ⟨_, scalar?_of_string? (string?_quote s rest), rfl⟩

/-- A scalar is written as one terminal, and read back as it is spelled. -/
theorem Value.IsScalar.exists_takesScalar {v : Value} (h : v.IsScalar) :
    ∃ w, writeBound v v.written = .ok w ∧ TakesScalar w fun s => s.value = .ok v.spelled := by
  cases h with
  | @text v s h =>
    refine ⟨_, writeBound_text h, (takesScalar_quote s.toList).imp ?_⟩
    rintro _ rfl
    rw [Value.spelled_of_text? h, Scalar.value, unescape_escape, String.ofList_toList]
  | @int n h =>
    refine ⟨_, writeBound_int (Integer.write_of_length h), fun rest hr => ?_⟩
    rw [String.toList_ofList]
    refine ⟨_, scalar?_of_number? (Integer.take?_digits n hr), ?_⟩
    have hread := Integer.read_of_length h
    simp only [Scalar.value, Value.ofNumber, NumberText.isInteger, List.isEmpty_nil, Option.isNone_none,
      Bool.and_self, if_true, hread]
    rfl
  | @float x h =>
    refine ⟨_, writeBound_float h, fun rest hr => ?_⟩
    obtain ⟨n, hn, hi, hv⟩ := Binary64.take?_write h hr
    refine ⟨_, scalar?_of_number? hn, ?_⟩
    simp only [Scalar.value, Value.ofNumber, hi, Bool.false_eq_true, if_false, hv]
    rfl

theorem frontOf_space {c : Char} (h : isSpace c) : frontOf c = .other := by
  simp only [isSpace, Bool.or_eq_true, decide_eq_true_eq] at h
  rcases h with (((rfl | rfl) | rfl) | rfl) | rfl <;> decide +kernel

/-- Nothing is skipped in front of a character that begins a terminal. -/
theorem skipSpaces_of_front {c : Char} {left : List Char} (h : frontOf c ≠ .other) :
    skipSpaces (c :: left) = c :: left := by
  refine dropWhile_of_stops (stops_cons.2 ?_)
  by_contra hs
  exact h (frontOf_space (by simpa using hs))

def boundText (v : Value) : Except Fault (List Char) :=
  if v.isNull then .ok [] else writeBound v v.written

/-- A bound that is there is written as it is. -/
theorem boundText_of_ne_null {v : Value} (h : v ≠ .null) : boundText v = writeBound v v.written := by
  simp only [boundText, Value.isNull_of_ne_null h, Bool.false_eq_true, if_false]

theorem Value.IsScalar.ne_null {v : Value} (h : v.IsScalar) : v ≠ .null := by
  rintro rfl
  cases h with | text h => cases h

namespace Query

/-- A text that is taken as a bound of some property, or nothing in the place of one. -/
def TakesBound (w : List Char) (P : Option Scalar → Prop) : Prop :=
  ∀ c left, (c = ',' ∨ c = ']' ∨ c = '}') → ∃ b, bound (skipSpaces (w ++ c :: left)) = (b, c :: left) ∧ P b

theorem TakesBound.imp {w : List Char} {P Q : Option Scalar → Prop} (h : TakesBound w P)
    (hpq : ∀ b, P b → Q b) : TakesBound w Q := by
  intro c left hc
  obtain ⟨b, hb, hp⟩ := h c left hc
  exact ⟨b, hb, hpq b hp⟩

/-- What ends a bound neither begins one nor makes one longer. -/
theorem frontOf_boundEnd {c : Char} (hc : c = ',' ∨ c = ']' ∨ c = '}') :
    (frontOf c = .comma ∨ frontOf c = .intervalEnd) ∧ NumberText.isContinuation c = false := by
  rcases hc with rfl | rfl | rfl <;> decide +kernel

theorem skipSpaces_boundEnd {c : Char} (hc : c = ',' ∨ c = ']' ∨ c = '}') (left : List Char) :
    skipSpaces (c :: left) = c :: left := by
  obtain ⟨hf, -⟩ := frontOf_boundEnd hc
  rcases hf with hf | hf <;> exact skipSpaces_of_front (by simp [hf])

theorem takesBound_nil : TakesBound [] (· = none) := by
  intro c left hc
  obtain ⟨hf, -⟩ := frontOf_boundEnd hc
  have hs : scalar? (c :: left) = none := by
    rcases hf with hf | hf <;> exact scalar?_eq_none (by simp [hf]) (by simp [hf])
  refine ⟨none, ?_, rfl⟩
  rw [List.nil_append, skipSpaces_boundEnd hc]
  simp only [bound, hs]

/-- A scalar is a bound of an interval. -/
theorem TakesScalar.bound {w : List Char} {P : Scalar → Prop} (h : TakesScalar w P) :
    TakesBound w fun b => ∃ s, b = some s ∧ P s := by
  intro c left hc
  obtain ⟨-, hstop⟩ := frontOf_boundEnd hc
  obtain ⟨s, hs, hp⟩ := h (c :: left) (stops_cons.2 hstop)
  obtain ⟨d, left', hd, hlead⟩ := exists_cons_of_scalar? hs
  have hskip : skipSpaces (w ++ c :: left) = w ++ c :: left := by
    rw [hd]
    rcases hlead with hl | hl <;> exact skipSpaces_of_front (by simp [hl])
  refine ⟨some s, ?_, s, rfl, hp⟩
  rw [hskip]
  simp only [Query.bound, hs, skipSpaces_boundEnd hc]

end Query

theorem Interval.written_mk (lower upper : Value) (lowerInclusive upperInclusive : Bool) :
    Interval.written ⟨lower, lowerInclusive, upper, upperInclusive⟩ =
      (if lower.isNull then pure ['{'] else
        (writeBound lower lower.written).map ((if lowerInclusive then '[' else '{') :: ·)) >>= fun low =>
      (if upper.isNull then pure ['}'] else
        (writeBound upper upper.written).map (· ++ [if upperInclusive then ']' else '}'])) >>= fun high =>
      pure (low ++ ',' :: high) := by
  rw [Interval.written]
  cases lower.isNull <;> cases upper.isNull <;> rfl

/-- One side of an interval: the text of its bound with a bracket, which is curly if the bound is missing. -/
theorem writtenSide {v : Value} {w : List Char} {inclusive : Bool} (bracket : Bool → List Char → List Char)
    (h : boundText v = .ok w) (hi : inclusive → v ≠ .null) :
    (if v.isNull then pure (bracket false []) else (writeBound v v.written).map (bracket inclusive)) =
      (.ok (bracket inclusive w) : Except Fault (List Char)) := by
  by_cases hv : v = .null
  · subst hv
    have hcurly : inclusive = false := by
      by_contra hc
      exact hi (by simpa using hc) rfl
    obtain rfl : [] = w := Except.ok.inj h
    rw [hcurly]
    rfl
  · rw [boundText_of_ne_null hv] at h
    rw [Value.isNull_of_ne_null hv, if_neg (by decide), h]
    rfl

/-- The text of an interval: its brackets, its bounds and a comma between them. -/
theorem Interval.written_of_boundText {r : Interval} {low high : List Char} (h : r.Valid)
    (hl : boundText r.lower = .ok low) (hu : boundText r.upper = .ok high) :
    r.written = .ok ((if r.lowerInclusive then '[' else '{') ::
      (low ++ ',' :: (high ++ [if r.upperInclusive then ']' else '}']))) := by
  obtain ⟨lower, lowerInclusive, upper, upperInclusive⟩ := r
  have hopening : (if lower.isNull then pure ['{'] else
      (writeBound lower lower.written).map ((if lowerInclusive then '[' else '{') :: ·)) =
        .ok ((if lowerInclusive then '[' else '{') :: low) :=
    writtenSide (fun i w => (if i then '[' else '{') :: w) hl h.lower
  have hclosing : (if upper.isNull then pure ['}'] else
      (writeBound upper upper.written).map (· ++ [if upperInclusive then ']' else '}'])) =
        .ok (high ++ [if upperInclusive then ']' else '}']) :=
    writtenSide (fun i w => w ++ [if i then ']' else '}']) hu h.upper
  rw [Interval.written_mk, hopening, hclosing]
  rfl

/-- An interval is written between its brackets, and taken as one of the bounds that its texts are taken as. -/
theorem Interval.exists_flatTerm? {r : Interval} {low high : List Char} {P Q : Option Scalar → Prop}
    (h : r.Valid) (hlow : boundText r.lower = .ok low) (hhigh : boundText r.upper = .ok high)
    (hl : TakesBound low P) (hu : TakesBound high Q) :
    ∃ w c left, r.written = .ok w ∧ w = c :: left ∧ frontOf c = .interval ∧ ∀ rest, ∃ b b',
      flatTerm? (w ++ rest) = some (.range r.lowerInclusive b b' r.upperInclusive, rest) ∧ P b ∧ Q b' := by
  refine ⟨_, _, _, Interval.written_of_boundText h hlow hhigh, rfl, ?_, fun rest => ?_⟩
  · cases r.lowerInclusive <;> decide +kernel
  · -- the comma ends the lower bound and the closing bracket the upper one
    obtain ⟨b, hb, hp⟩ := hl ',' (high ++ [if r.upperInclusive then ']' else '}'] ++ rest) (.inl rfl)
    obtain ⟨b', hb', hq⟩ := hu (if r.upperInclusive then ']' else '}') rest (by
      cases r.upperInclusive <;> simp)
    have hi : interval? r.lowerInclusive
        (low ++ ',' :: (high ++ [if r.upperInclusive then ']' else '}'] ++ rest)) =
        some (.range r.lowerInclusive b b' r.upperInclusive, rest) := by
      rw [List.append_assoc, List.singleton_append] at hb ⊢
      simp only [interval?, hb, upperBound?, hb']
      cases r.upperInclusive <;> rfl
    refine ⟨b, b', ?_, hp, hq⟩
    rw [List.cons_append, List.append_assoc, List.cons_append]
    cases hli : r.lowerInclusive with
    | true =>
      rw [hli] at hi
      exact hi
    | false =>
      rw [hli] at hi
      exact hi

def IsOpener (c : Char) : Prop := c = '(' ∨ c = '[' ∨ c = '{'

/-- What begins with a bracket is neither a name nor the end. -/
theorem IsOpener.front {c : Char} (h : IsOpener c) :
    frontOf c ≠ .name ∧ frontOf c ≠ .closing ∧ frontOf c ≠ .other := by
  rcases h with rfl | rfl | rfl <;> decide +kernel

/-- A text that looks like an expression or an interval begins like one. -/
theorem exists_opener_of_isOpaque {s : List Char} (h : isOpaque s) : ∃ c left, s = c :: left ∧ IsOpener c := by
  cases s with
  | nil => cases h
  | cons c left =>
    refine ⟨c, left, rfl, ?_⟩
    rw [isOpaque, Bool.or_eq_true] at h
    rcases h with h | h
    · rw [isParenthesized, Bool.and_eq_true] at h
      exact .inl (by simpa using h.1)
    · have hc : c ≠ ',' := by
        rintro rfl
        cases h
      -- the part in front of the comma is not empty and begins with a bracket
      unfold isRangeText at h
      dsimp only at h
      rw [List.takeWhile_cons_of_pos (by simpa using hc)] at h
      split at h
      · cases h
      · simp only [List.head?_cons, Bool.and_eq_true, Bool.or_eq_true] at h
        exact .inr (by simpa using h.1)

end StructuredQuery
