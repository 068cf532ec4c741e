import StructuredQuery.Text.Digit

/-!
Dates, times of day and timestamps, all of them valid by construction, and their ISO 8601 text.
-/

namespace StructuredQuery

open Text

/-- Every fourth year is a leap year, but of the full centuries only every fourth. -/
def isLeapYear (year : Nat) : Bool :=
  year % 4 = 0 && (year % 100 ≠ 0 || year % 400 = 0)

def daysInMonth (year month : Nat) : Nat :=
  if month = 2 then (if isLeapYear year then 29 else 28)
  else if month = 4 ∨ month = 6 ∨ month = 9 ∨ month = 11 then 30 else 31

structure Date where
  year : Nat
  month : Nat
  day : Nat
  valid : 1 ≤ year ∧ year ≤ 9999 ∧ 1 ≤ month ∧ month ≤ 12 ∧ 1 ≤ day ∧ day ≤ daysInMonth year month
deriving DecidableEq, Repr

structure TimeOfDay where
  hour : Nat
  minute : Nat
  second : Nat
  microsecond : Nat
  valid : hour < 24 ∧ minute < 60 ∧ second < 60 ∧ microsecond < 1000000
deriving DecidableEq, Repr

/-- A distance from universal time of less than a day, in seconds. -/
structure Offset where
  seconds : Int
  valid : -86400 < seconds ∧ seconds < 86400
deriving DecidableEq, Repr

/-- A date and a time of day, with the offset of the clock if it is known. -/
structure Timestamp where
  date : Date
  time : TimeOfDay
  offset : Option Offset
deriving DecidableEq, Repr

def Date.ofParts? (year month day : Nat) : Option Date :=
  if h : _ then some ⟨year, month, day, h⟩ else none

def TimeOfDay.ofParts? (hour minute second microsecond : Nat) : Option TimeOfDay :=
  if h : _ then some ⟨hour, minute, second, microsecond, h⟩ else none

def Offset.ofSeconds? (seconds : Int) : Option Offset :=
  if h : _ then some ⟨seconds, h⟩ else none

def Offset.zero : Offset := ⟨0, by decide⟩

def Date.iso (d : Date) : List Char :=
  paddedDigits 4 d.year ++ '-' :: paddedDigits 2 d.month ++ '-' :: paddedDigits 2 d.day

def TimeOfDay.iso (t : TimeOfDay) : List Char :=
  paddedDigits 2 t.hour ++ ':' :: paddedDigits 2 t.minute ++ ':' :: paddedDigits 2 t.second ++
    (if t.microsecond = 0 then [] else '.' :: paddedDigits 6 t.microsecond)

/-- A sign, hours and minutes; seconds only if there are any. -/
def Offset.iso (o : Offset) : List Char :=
  let n := o.seconds.natAbs
  (if o.seconds < 0 then '-' else '+') ::
    paddedDigits 2 (n / 3600) ++ ':' :: paddedDigits 2 (n / 60 % 60) ++
      (if n % 60 = 0 then [] else ':' :: paddedDigits 2 (n % 60))

namespace Timestamp

/-- The text of a timestamp with a chosen mark between date and time; no offset is written if none is
known. -/
def isoWith (separator : Char) (t : Timestamp) : List Char :=
  t.date.iso ++ separator :: t.time.iso ++ (t.offset.elim [] Offset.iso)

/-- A timestamp without a known offset is taken to be in universal time. -/
def inUniversal (t : Timestamp) : Timestamp :=
  { t with offset := some (t.offset.getD Offset.zero) }

def iso (t : Timestamp) : List Char :=
  t.inUniversal.isoWith 'T'

end Timestamp

def Date.ordinal (d : Date) : Nat :=
  let y := d.year - 1
  let months := (List.range (d.month - 1)).map fun m => daysInMonth d.year (m + 1)
  365 * y + y / 4 - y / 100 + y / 400 + months.foldl (· + ·) 0 + (d.day - 1)

def TimeOfDay.microseconds (t : TimeOfDay) : Nat :=
  ((t.hour * 60 + t.minute) * 60 + t.second) * 1000000 + t.microsecond

/-- Microseconds from the start of year 1 on the clock that the timestamp was read from. -/
def Timestamp.clock (t : Timestamp) : Int :=
  t.date.ordinal * 86400000000 + t.time.microseconds

/-- Two timestamps are equal if both offsets are unknown and the clocks agree, or both are known and
the instants agree. -/
def Timestamp.equal (a b : Timestamp) : Bool :=
  match a.offset, b.offset with
  | none, none => a.clock = b.clock
  | some o, some p => a.clock - o.seconds * 1000000 = b.clock - p.seconds * 1000000
  | _, _ => false

end StructuredQuery
