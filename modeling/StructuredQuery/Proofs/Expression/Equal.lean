import StructuredQuery.Proofs.Expression.Rules
import StructuredQuery.Value.Equal

/-!
What equal expressions have in common: their fields one by one, the expressions nested in these, and the
number of intervals among the fields without a name.
-/

namespace StructuredQuery

def Value.isInterval : Value → Bool
  | .range _ => true
  | _ => false

/-- An interval that is matched against no field by name. -/
def FieldValue.isOpenInterval (f : FieldValue) : Bool :=
  f.value.isInterval && f.name.isNone

/-- An interval equals nothing but intervals. -/
theorem Value.isInterval_of_equal {a b : Value} (h : a.equal b = .ok true) : a.isInterval = b.isInterval := by
  by_cases ha : a.isInterval
  · obtain ⟨r, rfl⟩ : ∃ r, a = .range r := by cases a <;> first | exact ⟨_, rfl⟩ | cases ha
    cases b <;> first | rfl | simp [Value.equal, quantity?, text?] at h
  · by_cases hb : b.isInterval
    · obtain ⟨r, rfl⟩ : ∃ r, b = .range r := by cases b <;> first | exact ⟨_, rfl⟩ | cases hb
      cases a <;> first | rfl | simp [Value.equal, quantity?, text?] at h
    · rw [Bool.not_eq_true] at ha hb
      rw [ha, hb]

theorem FieldValue.equal_eq_true {f g : FieldValue} (h : f.equal g = .ok true) :
    f.value.equal g.value = .ok true ∧ f.name = g.name := by
  obtain ⟨value, name⟩ := f
  obtain ⟨value', name'⟩ := g
  rw [FieldValue.equal] at h
  obtain ⟨same, he, h⟩ := bind_eq_ok_iff.1 h
  cases same with
  | true => exact ⟨he, by simpa using Except.ok.inj h⟩
  | false => cases h

namespace Expression

/-- Rows that are equal are equal in one place, if it is the same in both. -/
theorem equal_of_fieldsEqual {xs ys : List FieldValue} {f g : FieldValue} {as bs : List FieldValue}
    (hl : xs.length = ys.length) (h : fieldsEqual (xs ++ g :: as) (ys ++ f :: bs) = .ok true) :
    g.equal f = .ok true := by
  induction xs generalizing ys with
  | nil =>
    obtain rfl : ys = [] := List.length_eq_zero_iff.1 hl.symm
    rw [List.nil_append, List.nil_append, fieldsEqual] at h
    obtain ⟨same, he, h⟩ := bind_eq_ok_iff.1 h
    cases same with
    | true => exact he
    | false => cases h
  | cons x xs ih =>
    obtain ⟨y, ys, rfl⟩ := List.exists_cons_of_length_eq_add_one hl.symm
    rw [List.cons_append, List.cons_append, fieldsEqual] at h
    obtain ⟨same, -, h⟩ := bind_eq_ok_iff.1 h
    cases same with
    | true => exact ih (by simpa using hl) h
    | false => cases h

theorem fieldsEqual_of_equal {e e' : Expression} (h : e'.equal e = .ok true) :
    fieldsEqual e'.fields e.fields = .ok true := by
  obtain ⟨operator, options, fields⟩ := e
  obtain ⟨operator', options', fields'⟩ := e'
  rw [Expression.equal] at h
  split at h
  · exact h
  · cases h

def openIntervals (e : Expression) : Nat :=
  e.fields.countP FieldValue.isOpenInterval

/-- Equal rows of fields hold as many intervals without a name. -/
theorem countP_of_fieldsEqual {fs gs : List FieldValue} (h : fieldsEqual fs gs = .ok true) :
    fs.countP FieldValue.isOpenInterval = gs.countP FieldValue.isOpenInterval := by
  induction fs generalizing gs with
  | nil => cases gs with
    | nil => rfl
    | cons => cases h
  | cons f fs ih =>
    cases gs with
    | nil => cases h
    | cons g gs =>
      rw [fieldsEqual] at h
      obtain ⟨same, he, h⟩ := bind_eq_ok_iff.1 h
      cases same with
      | false => cases h
      | true =>
        obtain ⟨hvalue, hname⟩ := FieldValue.equal_eq_true he
        have hfirst : f.isOpenInterval = g.isOpenInterval := by
          rw [FieldValue.isOpenInterval, FieldValue.isOpenInterval, Value.isInterval_of_equal hvalue, hname]
        rw [List.countP_cons, List.countP_cons, hfirst, ih h]

/-- Two expressions differ in the number of such intervals, or they have nested expressions in the same place
that do. -/
inductive Apart : Expression → Expression → Prop
  | here {e e' : Expression} (h : e.openIntervals ≠ e'.openIntervals) : Apart e e'
  | nested {e e' inner inner' : Expression} {before before' after after' : List FieldValue}
      {name name' : Option String} (h : e.fields = before ++ ⟨.expression inner, name⟩ :: after)
      (h' : e'.fields = before' ++ ⟨.expression inner', name'⟩ :: after')
      (hl : before.length = before'.length) (hi : Apart inner inner') : Apart e e'

/-- Expressions that are apart are different. -/
theorem Apart.ne {e e' : Expression} (h : e.Apart e') : e ≠ e' := by
  induction h with
  | here h =>
    rintro rfl
    exact h rfl
  | nested h h' hl _ ih =>
    rintro rfl
    obtain ⟨-, htail⟩ := List.append_inj (h.symm.trans h') hl
    obtain ⟨hfield, -⟩ := List.cons.inj htail
    simp only [FieldValue.mk.injEq, Value.expression.injEq] at hfield
    exact ih hfield.1

/-- Expressions that are apart do not count as equal. -/
theorem Apart.equal_ne {e e' : Expression} (h : e.Apart e') : e.equal e' ≠ .ok true := by
  induction h with
  | here h =>
    intro he
    exact h (countP_of_fieldsEqual (fieldsEqual_of_equal he))
  | nested h h' hl _ ih =>
    intro he
    have hfields := fieldsEqual_of_equal he
    rw [h, h'] at hfields
    obtain ⟨hvalue, -⟩ := FieldValue.equal_eq_true (equal_of_fieldsEqual hl hfields)
    rw [Value.equal] at hvalue
    exact ih hvalue

end Expression

end StructuredQuery
