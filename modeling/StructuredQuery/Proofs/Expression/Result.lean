import Mathlib.Data.List.Forall2
import StructuredQuery.Error

/-!
What is known of a result: its value has one property if there is one, and its error another.
-/

namespace StructuredQuery

variable {ε α β : Type} {P : α → Prop} {Q : β → Prop} {E : ε → Prop}

/-- Two steps give a value if and only if the first gives one from which the second gives it. -/
theorem bind_eq_ok_iff {r : Except ε α} {f : α → Except ε β} {b : β} :
    (r >>= f) = .ok b ↔ ∃ a, r = .ok a ∧ f a = .ok b := by
  constructor
  · intro h
    cases r with
    | error e => cases h
    | ok a => exact ⟨a, rfl, h⟩
  · rintro ⟨a, rfl, h⟩
    exact h

theorem bind_eq_error_iff {r : Except ε α} {f : α → Except ε β} {e : ε} :
    (r >>= f) = .error e ↔ r = .error e ∨ ∃ a, r = .ok a ∧ f a = .error e := by
  constructor
  · intro h
    cases r with
    | error e' => exact .inl (congrArg _ (Except.error.inj h))
    | ok a => exact .inr ⟨a, rfl, h⟩
  · rintro (rfl | ⟨a, rfl, h⟩)
    · rfl
    · exact h

theorem map_eq_ok_iff {r : Except ε α} {f : α → β} {b : β} :
    r.map f = .ok b ↔ ∃ a, r = .ok a ∧ f a = b := by
  cases r <;> simp [Except.map]

theorem map_eq_error_iff {r : Except ε α} {f : α → β} {e : ε} : r.map f = .error e ↔ r = .error e := by
  cases r <;> simp [Except.map]

theorem mapError_eq_ok_iff {ε' : Type} {r : Except ε α} {f : ε → ε'} {a : α} :
    r.mapError f = .ok a ↔ r = .ok a := by
  cases r <;> simp [Except.mapError]

theorem mapError_eq_error_iff {ε' : Type} {r : Except ε α} {f : ε → ε'} {e : ε'} :
    r.mapError f = .error e ↔ ∃ cause, r = .error cause ∧ f cause = e := by
  cases r <;> simp [Except.mapError]

/-- A row of results gives a row of values if each of them gives its value. -/
theorem mapM_ok_iff_forall₂ {f : α → Except ε β} {xs : List α} {ys : List β} :
    xs.mapM f = .ok ys ↔ List.Forall₂ (fun x y => f x = .ok y) xs ys := by
  induction xs generalizing ys with
  | nil =>
    rw [List.forall₂_nil_left_iff]
    exact ⟨fun h => (Except.ok.inj h).symm, fun h => h ▸ rfl⟩
  | cons x xs ih =>
    rw [List.mapM_cons, List.forall₂_cons_left_iff, bind_eq_ok_iff]
    constructor
    · rintro ⟨y, hy, h⟩
      obtain ⟨rest, hrest, h⟩ := bind_eq_ok_iff.1 h
      exact ⟨y, rest, hy, ih.1 hrest, (Except.ok.inj h).symm⟩
    · rintro ⟨y, rest, hy, hrest, rfl⟩
      exact ⟨y, hy, bind_eq_ok_iff.2 ⟨rest, ih.2 hrest, rfl⟩⟩

theorem eq_ok_of_toOption {r : Except ε α} {a : α} (h : r.toOption = some a) : r = .ok a := by
  cases r with
  | error e => cases h
  | ok b => exact congrArg _ (Option.some.inj h)

/-- The failure that a result ends with. -/
def fault? : Except Error α → Option Fault
  | .error (.fault f) => some f
  | _ => none

theorem eq_error_of_fault? {r : Except Error α} {f : Fault} (h : fault? r = some f) : r = .error (.fault f) := by
  unfold fault? at h
  split at h
  · obtain rfl := Option.some.inj h
    rfl
  · cases h

/-- The value of a result has the first property, and its error the second. -/
def Meets (P : α → Prop) (E : ε → Prop) : Except ε α → Prop
  | .ok a => P a
  | .error e => E e

/-- A postcondition is one of the results and one of the errors. -/
theorem meets_iff {r : Except ε α} :
    Meets P E r ↔ (∀ a, r = .ok a → P a) ∧ ∀ e, r = .error e → E e := by
  cases r <;> simp [Meets]

theorem Meets.of_ok {r : Except ε α} {a : α} (h : Meets P E r) (hr : r = .ok a) : P a := by
  rw [hr] at h
  exact h

theorem Meets.of_error {r : Except ε α} {e : ε} (h : Meets P E r) (hr : r = .error e) : E e := by
  rw [hr] at h
  exact h

/-- Steps in a row: the second one starts where the first one ends. -/
theorem Meets.bind {r : Except ε α} {f : α → Except ε β} (hr : Meets P E r)
    (hf : ∀ a, r = .ok a → P a → Meets Q E (f a)) : Meets Q E (r >>= f) := by
  cases r with
  | error e => exact hr
  | ok a => exact hf a rfl hr

/-- A function of the result carries the postcondition over. -/
theorem Meets.map {r : Except ε α} {f : α → β} (hr : Meets P E r) (hf : ∀ a, P a → Q (f a)) :
    Meets Q E (r.map f) := by
  cases r with
  | error e => exact hr
  | ok a => exact hf a hr

theorem Meets.imp {r : Except ε α} {P' : α → Prop} (hr : Meets P E r) (h : ∀ a, P a → P' a) :
    Meets P' E r := by
  cases r with
  | error e => exact hr
  | ok a => exact h a hr

theorem Meets.imp_error {r : Except ε α} {E' : ε → Prop} (hr : Meets P E r) (h : ∀ e, E e → E' e) :
    Meets P E' r := by
  cases r with
  | error e => exact h e hr
  | ok a => exact hr

/-- A row of results gives a row of values, or an error of one of them. -/
theorem meets_mapM {f : α → Except ε β} {xs : List α} (h : ∀ x ∈ xs, Meets Q E (f x)) :
    Meets (fun ys => ∀ y ∈ ys, Q y) E (xs.mapM f) := by
  induction xs with
  | nil => exact fun y hy => absurd hy (by simp)
  | cons x xs ih =>
    rw [List.mapM_cons]
    apply (h x List.mem_cons_self).bind
    intro y _ hy
    refine (ih fun x hx => h x (List.mem_cons_of_mem _ hx)).bind fun ys _ hys => ?_
    intro z hz
    rcases List.mem_cons.1 hz with rfl | hz
    · exact hy
    · exact hys z hz

/-- A failure is passed on as an error. -/
theorem Meets.liftM {r : Except Fault α} {E : Error → Prop} (h : Meets P (fun f => E (.fault f)) r) :
    Meets P E (liftM r : Except Error α) := by
  cases r with
  | error f => exact h
  | ok a => exact h

theorem meets_liftM {r : Except Fault α} {E : Error → Prop} (hr : ∀ a, r = .ok a → P a)
    (he : ∀ f, r = .error f → E (.fault f)) : Meets P E (liftM r : Except Error α) :=
  (meets_iff.2 ⟨hr, he⟩).liftM

/-- A result that is a given value, or an error if a condition fails. -/
abbrev GivesIf (p : Prop) (r : Except ε α) (a : α) : Prop := Meets (· = a) (fun _ => ¬p) r

section GivesIf

variable {p q : Prop} {r : Except ε α} {a : α}

/-- If the condition fails, the result is the same or an error. -/
theorem givesIf_iff : GivesIf p r a ↔ (∀ b, r = .ok b → b = a) ∧ (p → r = .ok a) := by
  cases r with
  | error e => simp [Meets]
  | ok b => simpa [Meets] using fun hb _ => hb

theorem givesIf_of_eq (h : r = .ok a) : GivesIf p r a :=
  givesIf_iff.2 ⟨fun _ hb => (Except.ok.inj (h.symm.trans hb)).symm, fun _ => h⟩

theorem GivesIf.of_imp (h : GivesIf p r a) (hqp : q → p) : GivesIf q r a := by
  rw [givesIf_iff] at h ⊢
  exact h.imp_right fun hp hq => hp (hqp hq)

/-- Of two steps in a row both must give their results. -/
theorem GivesIf.bind {f : α → Except ε β} {b : β} (hr : GivesIf p r a) (hf : GivesIf p (f a) b) :
    GivesIf p (r >>= f) b := by
  refine Meets.bind hr ?_
  rintro _ - rfl
  exact hf

theorem GivesIf.map (f : α → β) (hr : GivesIf p r a) : GivesIf p (r.map f) (f a) := by
  refine Meets.map hr ?_
  rintro _ rfl
  rfl

theorem givesIf_liftM {r : Except Fault α} (h : GivesIf p r a) : GivesIf p (liftM r : Except Error α) a := by
  cases r with
  | error f => exact h
  | ok b => exact h

end GivesIf

end StructuredQuery
