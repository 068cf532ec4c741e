import StructuredQuery.Proofs.Number.DigitRows
import StructuredQuery.Text.Run
import StructuredQuery.Value.Written

/-!
The text of a timestamp tells its parts. No row of digits in it is followed by a digit, so each part ends where
its digits do. Microseconds, and the seconds of an offset, are left out only if there are none, and the character
in their place tells so.
-/

namespace StructuredQuery

open Text

variable {rest rest' : List Char}

/-- A padded number ends where its digits do. -/
theorem Text.paddedDigits_append_inj {width m n : Nat} (hr : Stops Char.isDigit rest)
    (hr' : Stops Char.isDigit rest') (h : paddedDigits width m ++ rest = paddedDigits width n ++ rest') :
    m = n ∧ rest = rest' := by
  have hrow : paddedDigits width m = paddedDigits width n :=
    eq_of_append isDigit_of_mem_paddedDigits isDigit_of_mem_paddedDigits hr hr' h
  rw [hrow] at h
  refine ⟨?_, List.append_cancel_left h⟩
  calc
    m = natOfDigits (paddedDigits width m) := (natOfDigits_paddedDigits width m).symm
    _ = natOfDigits (paddedDigits width n) := by rw [hrow]
    _ = n := natOfDigits_paddedDigits width n

/-- A padded number ends before any character but a digit. -/
theorem Text.paddedDigits_cons_inj {width m n : Nat} {c d : Char} (hc : c.isDigit = false) (hd : d.isDigit = false)
    (h : paddedDigits width m ++ c :: rest = paddedDigits width n ++ d :: rest') : m = n ∧ rest = rest' := by
  obtain ⟨hn, hrest⟩ := paddedDigits_append_inj (stops_cons.2 hc) (stops_cons.2 hd) h
  exact ⟨hn, (List.cons.inj hrest).2⟩

/-- Dates with the same text and a rest without digits are the same. -/
theorem Date.iso_append_inj {a b : Date} (hr : Stops Char.isDigit rest) (hr' : Stops Char.isDigit rest')
    (h : a.iso ++ rest = b.iso ++ rest') : a = b ∧ rest = rest' := by
  obtain ⟨year, month, day, _⟩ := a
  obtain ⟨year', month', day', _⟩ := b
  simp only [iso, List.append_assoc, List.cons_append] at h
  obtain ⟨rfl, hmonth⟩ := paddedDigits_cons_inj rfl rfl h
  obtain ⟨rfl, hday⟩ := paddedDigits_cons_inj rfl rfl hmonth
  obtain ⟨rfl, hrest⟩ := paddedDigits_append_inj hr hr' hday
  exact ⟨rfl, hrest⟩

/-- What may continue a time of day: a digit, or the point before the microseconds. -/
def TimeOfDay.isContinuation (c : Char) : Bool := c.isDigit || c = '.'

theorem TimeOfDay.stops_isDigit (h : Stops isContinuation rest) : Stops Char.isDigit rest := by
  intro c hc
  have hstop := h c hc
  rw [isContinuation, Bool.or_eq_false_iff] at hstop
  exact hstop.1

def TimeOfDay.fraction (microsecond : Nat) : List Char :=
  if microsecond = 0 then [] else '.' :: paddedDigits 6 microsecond

/-- The digits of a fraction tell the microseconds. -/
theorem TimeOfDay.fraction_append_inj {m n : Nat} (hr : Stops isContinuation rest)
    (hr' : Stops isContinuation rest') (h : fraction m ++ rest = fraction n ++ rest') : m = n ∧ rest = rest' := by
  -- a point begins the microseconds, and nothing that may follow a time of day begins with one
  have hpoint {left left' : List Char} (hl : Stops isContinuation left) (he : left = '.' :: left') : False := by
    rw [he] at hl
    exact absurd (stops_cons.1 hl) (by decide)
  unfold fraction at h
  split at h <;> split at h
  · next hm hn => exact ⟨hm.trans hn.symm, h⟩
  · exact (hpoint hr h).elim
  · exact (hpoint hr' h.symm).elim
  · exact paddedDigits_append_inj (stops_isDigit hr) (stops_isDigit hr') (List.cons.inj h).2

theorem TimeOfDay.stops_fraction (microsecond : Nat) (hr : Stops isContinuation rest) :
    Stops Char.isDigit (fraction microsecond ++ rest) := by
  unfold fraction
  split
  · exact stops_isDigit hr
  · exact stops_cons.2 rfl

theorem TimeOfDay.iso_eq (t : TimeOfDay) : t.iso = paddedDigits 2 t.hour ++ ':' :: (paddedDigits 2 t.minute ++
    ':' :: (paddedDigits 2 t.second ++ fraction t.microsecond)) := by
  simp [iso, fraction]

/-- Times with the same text in front of something else are the same. -/
theorem TimeOfDay.iso_append_inj {a b : TimeOfDay} (hr : Stops isContinuation rest)
    (hr' : Stops isContinuation rest') (h : a.iso ++ rest = b.iso ++ rest') : a = b ∧ rest = rest' := by
  obtain ⟨hour, minute, second, microsecond, _⟩ := a
  obtain ⟨hour', minute', second', microsecond', _⟩ := b
  simp only [iso_eq, List.append_assoc, List.cons_append] at h
  obtain ⟨rfl, hminute⟩ := paddedDigits_cons_inj rfl rfl h
  obtain ⟨rfl, hsecond⟩ := paddedDigits_cons_inj rfl rfl hminute
  obtain ⟨rfl, hfraction⟩ := paddedDigits_append_inj (stops_fraction _ hr) (stops_fraction _ hr') hsecond
  obtain ⟨rfl, hrest⟩ := fraction_append_inj hr hr' hfraction
  exact ⟨rfl, hrest⟩

def Offset.secondsText (n : Nat) : List Char :=
  if n % 60 = 0 then [] else ':' :: paddedDigits 2 (n % 60)

/-- The seconds of an offset are told by their text. -/
theorem Offset.secondsText_inj {m n : Nat} (h : secondsText m = secondsText n) : m % 60 = n % 60 := by
  unfold secondsText at h
  split at h <;> split at h
  · next hm hn => exact hm.trans hn.symm
  · cases h
  · cases h
  · have hrow := (List.cons.inj h).2
    exact (paddedDigits_append_inj (stops_nil _) (stops_nil _) (by simpa using hrow)).1

theorem Offset.stops_secondsText (n : Nat) : Stops Char.isDigit (secondsText n) := by
  unfold secondsText
  split
  · exact stops_nil _
  · exact stops_cons.2 rfl

theorem Offset.iso_eq (o : Offset) : o.iso = (if o.seconds < 0 then '-' else '+') ::
    (paddedDigits 2 (o.seconds.natAbs / 3600) ++ ':' :: (paddedDigits 2 (o.seconds.natAbs / 60 % 60) ++
      secondsText o.seconds.natAbs)) := by
  simp [iso, secondsText]

/-- The sign, the hours, the minutes and the seconds of an offset make it up. -/
theorem Offset.iso_inj {a b : Offset} (h : a.iso = b.iso) : a = b := by
  obtain ⟨s, _⟩ := a
  obtain ⟨t, _⟩ := b
  simp only [iso_eq] at h
  obtain ⟨hsign, hleft⟩ := List.cons.inj h
  obtain ⟨hhours, hleft⟩ := paddedDigits_cons_inj rfl rfl hleft
  obtain ⟨hminutes, hleft⟩ := paddedDigits_append_inj (stops_secondsText _) (stops_secondsText _) hleft
  have hseconds := secondsText_inj hleft
  have hmagnitude : s.natAbs = t.natAbs := by omega
  have hnegative : s < 0 ↔ t < 0 := by
    split at hsign <;> split at hsign
    · next hs ht => exact iff_of_true hs ht
    · cases hsign
    · cases hsign
    · next hs ht => exact iff_of_false hs ht
  obtain rfl : s = t := by omega
  rfl

theorem Offset.stops_iso (o : Offset) : Stops TimeOfDay.isContinuation o.iso := by
  refine stops_cons.2 ?_
  split <;> rfl

theorem Timestamp.iso_eq (t : Timestamp) :
    t.iso = t.date.iso ++ 'T' :: (t.time.iso ++ (t.offset.getD .zero).iso) := by
  simp [iso, isoWith, inUniversal]

/-- Timestamps have the same text if and only if they are the same date and time on clocks of the same offset,
where an unknown offset counts as none. -/
theorem Timestamp.iso_eq_iff {a b : Timestamp} :
    a.iso = b.iso ↔ a.date = b.date ∧ a.time = b.time ∧ a.offset.getD .zero = b.offset.getD .zero := by
  rw [iso_eq, iso_eq]
  constructor
  · intro h
    obtain ⟨hdate, hclock⟩ := Date.iso_append_inj (stops_cons.2 rfl) (stops_cons.2 rfl) h
    obtain ⟨htime, hoffset⟩ :=
      TimeOfDay.iso_append_inj (Offset.stops_iso _) (Offset.stops_iso _) (List.cons.inj hclock).2
    exact ⟨hdate, htime, Offset.iso_inj hoffset⟩
  · rintro ⟨hdate, htime, hoffset⟩
    rw [hdate, htime, hoffset]

/-- Quotes around the text of a timestamp tell nothing more. -/
theorem Timestamp.quoted_eq_iff {a b : Timestamp} : a.quoted = b.quoted ↔ a.iso = b.iso := by
  simp [quoted]

end StructuredQuery
