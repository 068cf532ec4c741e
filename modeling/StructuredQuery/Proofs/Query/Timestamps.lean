import StructuredQuery.Proofs.Query.Kept
import StructuredQuery.Proofs.Time.Iso

/-!
Timestamps in query text. A timestamp is written as the string of its ISO text, which is neither enclosed in
brackets nor like an interval, so a string is read in its place and is written as before. Only timestamps of the
same date, time and offset are written alike.
-/

namespace StructuredQuery

open Query Text

/-- A bound of an interval over timestamps, which may be missing, and what is read in its place. -/
inductive Value.ReadsBound : Value → Value → Prop
  | missing : ReadsBound .null .null
  | timestamp (t : Timestamp) : ReadsBound (.timestamp t) (.text (String.ofList t.iso))

/-- A timestamp or an interval over timestamps, and what is read in its place: a string of its text for each
timestamp. -/
inductive Value.ReadsDated : Value → Value → Prop
  | timestamp (t : Timestamp) : ReadsDated (.timestamp t) (.text (String.ofList t.iso))
  | interval {r : Interval} {lower upper : Value} (hr : r.Sound) (hl : ReadsBound r.lower lower)
      (hu : ReadsBound r.upper upper) :
      ReadsDated (.range r) (.range ⟨lower, r.lowerInclusive, upper, r.upperInclusive⟩)

namespace Value

variable {v read : Value}

theorem ReadsBound.isToken (h : ReadsBound v read) : v = .null ∨ v.IsToken := by
  cases h with
  | missing => exact .inl rfl
  | timestamp t => exact .inr (.timestamp t)

theorem ReadsBound.asRead_eq (h : ReadsBound v read) : v.asRead = read := by
  cases h with
  | missing => rfl
  | timestamp => rfl

/-- Values with timestamps can be printed. -/
theorem ReadsDated.printed (h : ReadsDated v read) : v.Printed := by
  cases h with
  | timestamp t => exact .token (.timestamp t) (by simp [text?])
  | interval hr hl hu => exact .interval ⟨hr, hl.isToken, hu.isToken⟩

/-- They are read back with texts in the places of the timestamps. -/
theorem ReadsDated.asRead_eq (h : ReadsDated v read) : v.asRead = read := by
  cases h with
  | timestamp => rfl
  | @interval r _ _ _ hl hu =>
    obtain ⟨lower, lowerInclusive, upper, upperInclusive⟩ := r
    rw [asRead, Interval.asRead, hl.asRead_eq, hu.asRead_eq]

end Value

/-- Two timestamps are written alike if and only if they have the same date, the same time and the same offset,
where an unknown one counts as none. In any expression that can be written a timestamp may be a value to match or
bound an interval; then the text is read with the string of its ISO text in its place, and what is read is written
with the same text, as far as the texts of decimals in it are those of integers or floats. -/
theorem Expression.reread_timestamps :
    (∀ a b : Timestamp, a.quoted = b.quoted ↔
      a.date = b.date ∧ a.time = b.time ∧ a.offset.getD .zero = b.offset.getD .zero) ∧
    (∀ v read : Value, v.ReadsDated read → v.Printed ∧ v.asRead = read) ∧
    ∀ e : Expression, e.Everywhere Printed → e.Everywhere KeepsDecimals →
      ∃ text, e.render = .ok text ∧ ofText text = .ok e.asRead ∧ e.asRead.render = .ok text := by
  refine ⟨fun a b => ?_, fun v read h => ⟨h.printed, h.asRead_eq⟩, fun e he hk => ?_⟩
  · rw [Timestamp.quoted_eq_iff, Timestamp.iso_eq_iff]
  · obtain ⟨ws, -, hw⟩ := he.exists_written
    have hrender : e.render = .ok _ := congrArg (Except.map String.ofList) hw
    exact ⟨_, hrender, he.reread_of_keepsDecimals hk hrender⟩

/-- The case of a timestamp with microseconds and no offset as a named value, and of one with an odd offset to the
west as a lower bound. -/
theorem Expression.reread_timestamps_offsets :
    let moment : Timestamp := ⟨⟨2013, 7, 1, by decide⟩, ⟨12, 30, 0, 250, by decide⟩, none⟩
    let west : Timestamp := ⟨⟨33, 1, 2, by decide⟩, ⟨3, 4, 5, 0, by decide⟩, some ⟨-3661, by decide⟩⟩
    let e : Expression :=
      ⟨.and, [], [⟨.timestamp moment, some "released"⟩, ⟨.range ⟨.timestamp west, false, .null, false⟩, none⟩]⟩
    let read : Expression := ⟨.and, [], [⟨.text "2013-07-01T12:30:00.000250+00:00", some "released"⟩,
      ⟨.range ⟨.text "0033-01-02T03:04:05-01:01:01", false, .null, false⟩, none⟩]⟩
    e.Everywhere Printed ∧ e.Everywhere KeepsDecimals ∧ e.asRead = read ∧
      ∃ text, e.render = .ok text ∧ ofText text = .ok e.asRead ∧ e.asRead.render = .ok text := by
  intro moment west e read
  have hreads : (Value.range ⟨.timestamp west, false, .null, false⟩).ReadsDated
      (.range ⟨.text (String.ofList west.iso), false, .null, false⟩) := by
    have hmade : Interval.ofDescriptor .null (.timestamp west) .null .null =
        .ok ⟨.timestamp west, false, .null, false⟩ := rfl
    exact .interval (Interval.sound_of_ofDescriptor hmade) (.timestamp west) .missing
  have hname : Terminal.fieldName.pattern.Matches "released".toList :=
    Terminal.matches_fieldName_iff.2 ⟨'r', "eleased".toList, by decide, List.all_eq_true.1 (by decide), rfl⟩
  have hprinted : e.Everywhere Printed := by
    refine .intro e ⟨rfl, by simp [e], ?_, ?_⟩ (by simp [e])
    · simpa [e] using ⟨hname, by decide⟩
    · simpa [e] using ⟨(Value.ReadsDated.timestamp moment).printed, hreads.printed⟩
  have hkeeps : e.Everywhere KeepsDecimals := by
    refine .intro e ?_ (by simp [e])
    simp [e, EachDecimal, Value.HasDecimal, Interval.HasDecimal]
  have hmoment : String.ofList moment.iso = "2013-07-01T12:30:00.000250+00:00" := by decide +kernel
  have hwest : String.ofList west.iso = "0033-01-02T03:04:05-01:01:01" := by decide +kernel
  have hread : e.asRead = read := by
    rw [show e.asRead = ⟨.and, [], [⟨.text (String.ofList moment.iso), some "released"⟩,
      ⟨.range ⟨.text (String.ofList west.iso), false, .null, false⟩, none⟩]⟩ from rfl, hmoment, hwest]
  exact ⟨hprinted, hkeeps, hread, reread_timestamps.2.2 e hprinted hkeeps⟩

end StructuredQuery
