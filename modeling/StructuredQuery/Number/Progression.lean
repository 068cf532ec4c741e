/-!
Arithmetic progressions: the integers from a start by equal steps up to, but without, a stop.
-/

namespace StructuredQuery

structure Progression where
  start : Int
  stop : Int
  step : Int
  step_ne_zero : step ≠ 0
deriving DecidableEq, Repr

namespace Progression

def ofParts? (start stop step : Int) : Option Progression :=
  if h : step ≠ 0 then some ⟨start, stop, step, h⟩ else none

def length (p : Progression) : Nat :=
  if 0 < p.step then ((p.stop - p.start + p.step - 1) / p.step).toNat
  else ((p.start - p.stop - p.step - 1) / -p.step).toNat

def member (p : Progression) (i : Nat) : Int :=
  p.start + i * p.step

def first? (p : Progression) : Option Int :=
  if p.length = 0 then none else some p.start

def last? (p : Progression) : Option Int :=
  if p.length = 0 then none else some (p.member (p.length - 1))

/-- Two progressions are equal if they have the same members in the same order. -/
def equal (p q : Progression) : Bool :=
  p.length = q.length &&
    (p.length = 0 || (p.start = q.start && (p.length = 1 || p.step = q.step)))

end Progression

end StructuredQuery
