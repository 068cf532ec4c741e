import StructuredQuery.CommandLine.Program
import StructuredQuery.Proofs.Query.Contained

/-!
How the command `check` ends. It prints the canonical form, or says what is wrong with the query or with the
arguments; a failure leaves it for an integer of too many digits, or for lines in JSON that are to be indented
too far.
-/

namespace StructuredQuery

/-- Lines that are not indented too far can be put between brackets. -/
theorem Json.exists_enclose {indent : Int} (h : indent < largestText) (left right : String)
    (lines : List String) : ∃ text, enclose left right indent lines = .ok text := by
  have hcount : ¬ largestCount ≤ indent := by
    have hle : largestText ≤ largestCount := by decide
    omega
  unfold enclose indentation
  rw [if_neg hcount, if_neg (by omega)]
  cases lines.isEmpty
  · exact ⟨_, rfl⟩
  · exact ⟨_, rfl⟩

/-- The failure of indenting lines too far. -/
def Json.indentFault (indent : Int) : Fault :=
  if largestCount ≤ indent then .overflow else .outOfMemory

/-- Indentation of that width cannot be built. -/
theorem Json.enclose_of_le {indent : Int} (h : largestText ≤ indent) (left right : String)
    (lines : List String) : enclose left right indent lines = .error (indentFault indent) := by
  unfold enclose indentation indentFault
  split
  · rfl
  · rfl

theorem Error.isForeseen_of_breaksRule {e : Error} (h : e.breaksRule) : e.isForeseen := by
  cases e <;> first | rfl | cases h

theorem Error.isForeseen_of_isUnreadable {e : Error} (h : e.isUnreadable) : e.isForeseen := by
  cases e <;> first | rfl | cases h

namespace CommandLine

open Query

/-- A foreseen cause is answered, so it does not leave the program. -/
theorem answer_of_isForeseen {e : Error} (h : e.isForeseen) (reply : Error → Outcome) :
    answer reply e = .ok (reply e) := by
  cases e <;> first | rfl | cases h

/-- What is printed for a query that is accepted: its canonical form, with a note if that is not what was given, or
an object that holds it. -/
inductive PrintedForm (c : Config) (v : Verbosity) (format query canonical : String) (e : Expression) : String → Prop
  | alone (h : format ≠ "json") (hs : v.quiet = true ∨ canonical.toList = Text.trim query.toList) :
      PrintedForm c v format query canonical e (lines [canonical])
  | noted (h : format ≠ "json") (hq : v.quiet = false) (hs : canonical.toList ≠ Text.trim query.toList) :
      PrintedForm c v format query canonical e (lines [canonical, "Query is valid (normalized)"])
  | object {object : String} (h : format = "json")
      (ho : Json.encodeObject c.indent [("query", canonical), ("operator", e.operator.text)] = .ok object) :
      PrintedForm c v format query canonical e (object ++ "\n")

inductive CheckEnds (c : Config) (v : Verbosity) (a : Arguments) (query : String) : Except Escape Outcome → Prop
  /-- No query is given, or a format that is none is asked for. -/
  | misused (explanation : String) (h : formatOption? a c = none ∨ a.others = []) :
      CheckEnds c v a query (.ok (.usage explanation))
  /-- The query is accepted, and its canonical form is printed. -/
  | accepted (format : String) (e : Expression) (canonical printed : String)
      (hf : formatOption? a c = some format) (hr : Expression.ofText query = .ok e)
      (hw : e.render = .ok canonical) (hp : PrintedForm c v format query canonical e printed) :
      CheckEnds c v a query (.ok (.success printed))
  /-- The query is not of the grammar. -/
  | unreadable (err : Error) (hr : Expression.ofText query = .error err) (h : err.isUnreadable) :
      CheckEnds c v a query (.ok (.failure 1 err.message none))
  /-- The query breaks a rule. -/
  | refused (err : Error) (hr : Expression.ofText query = .error err) (h : err.breaksRule) :
      CheckEnds c v a query (.ok (.failure 2 err.message none))
  /-- An integer in the query has too many digits. -/
  | digits (hr : Expression.ofText query = .error (.fault .digitLimit)) (h : HoldsLongInteger query) :
      CheckEnds c v a query (.error (.of .digitLimit))
  /-- The query is accepted, and the lines in JSON are to be indented too far. -/
  | indented (e : Expression) (hr : Expression.ofText query = .ok e) (hf : formatOption? a c = some "json")
      (hi : Json.largestText ≤ c.indent) : CheckEnds c v a query (.error (.of (Json.indentFault c.indent)))

/-- A query that has been read ends the command as printing its form does. -/
theorem checkEnds_printChecked {c : Config} {v : Verbosity} {a : Arguments} {format query canonical : String}
    {e : Expression} (hf : formatOption? a c = some format) (hr : Expression.ofText query = .ok e)
    (hw : e.render = .ok canonical) : CheckEnds c v a query (printChecked c v format query e) := by
  rw [printChecked, hw]
  by_cases hjson : format = "json"
  · subst hjson
    let members := [("query", canonical), ("operator", e.operator.text)]
    change CheckEnds c v a query
      ((liftM (Json.encodeObject c.indent members) : Except Escape String) >>= fun object =>
        .ok (.success (object ++ "\n")))
    by_cases hi : Json.largestText ≤ c.indent
    · rw [Json.encodeObject, Json.enclose_of_le hi]
      exact .indented e hr hf hi
    · obtain ⟨object, hobject⟩ : ∃ object, Json.encodeObject c.indent members = .ok object :=
        Json.exists_enclose (Int.not_le.1 hi) _ _ _
      rw [hobject]
      exact .accepted _ e canonical _ hf hr hw (.object rfl hobject)
  · have hprinted : PrintedForm c v format query canonical e
        (lines (canonical :: if !v.quiet && decide (canonical.toList ≠ Text.trim query.toList) then
          ["Query is valid (normalized)"] else [])) := by
      split
      · next hnote =>
        rw [Bool.and_eq_true, Bool.not_eq_true', decide_eq_true_eq] at hnote
        exact .noted hjson hnote.1 hnote.2
      · next hnote =>
        refine .alone hjson ?_
        rw [Bool.and_eq_true, Bool.not_eq_true', decide_eq_true_eq, not_and_or, Bool.not_eq_false, not_not] at hnote
        exact hnote
    simp only [if_neg hjson]
    exact .accepted format e canonical _ hf hr hw hprinted

/-- Error containment of the reader. A text stands for an expression, which can be written, or the error says
that it is not of the grammar or that a rule is broken, or else the text holds an integer of too many digits;
such a text is never accepted. So the command `check` ends with the canonical form, with 1 for a text that is
not of the grammar and with 2 for a broken rule. What leaves it otherwise are the failures of an integer of too
many digits in the query and of lines in JSON that are to be indented too far. -/
theorem ofText_contained (text : String) (c : Config) (v : Verbosity) (a : Arguments) :
    Meets (fun e => ∃ canonical, e.render = .ok canonical)
      (fun err => err.isUnreadable ∨ err.breaksRule ∨ err = .fault .digitLimit ∧ HoldsLongInteger text)
      (Expression.ofText text) ∧
    (HoldsLongInteger text → ∀ e, Expression.ofText text ≠ .ok e) ∧
    CheckEnds c v a (" ".intercalate a.others) (check c v a) := by
  refine ⟨Expression.meets_ofText text, fun h => Expression.ofText_ne_ok_of_holdsLongInteger h, ?_⟩
  unfold check
  split
  · next hf => exact .misused _ (.inl hf)
  · next format hf =>
    split
    · next ho => exact .misused _ (.inr (List.isEmpty_iff.1 ho))
    · have hread := Expression.meets_ofText (" ".intercalate a.others)
      dsimp only
      split
      · next e hr =>
        obtain ⟨canonical, hw⟩ := hread.of_ok hr
        exact checkEnds_printChecked hf hr hw
      · next err hr =>
        rcases hread.of_error hr with hu | hb | ⟨rfl, hl⟩
        · rw [answer_of_isForeseen (Error.isForeseen_of_isUnreadable hu), if_pos hu]
          exact .unreadable err hr hu
        · rw [answer_of_isForeseen (Error.isForeseen_of_breaksRule hb), Error.isUnreadable_of_breaksRule hb]
          exact .refused err hr hb
        · exact .digits hr hl

/-- An integer of 4301 digits is a query that leaves both the reader and the command by a failure. -/
theorem ofText_escapes :
    let query := String.ofList ('(' :: ("and ".toList ++ List.replicate 4301 '1' ++ [')']))
    Expression.ofText query = .error (.fault .digitLimit) ∧
      check .default ⟨false, false, false⟩ ⟨[], [query]⟩ = .error (.of .digitLimit) := by
  intro query
  have hread : Expression.ofText query = .error (.fault .digitLimit) := by
    apply Expression.ofText_of_long_digits
    · intro c hc
      rw [List.eq_of_mem_replicate hc]
      decide
    · rw [List.length_replicate]
      decide
  refine ⟨hread, ?_⟩
  have hformat : formatOption? ⟨[], [query]⟩ .default = some "text" := rfl
  rw [check, hformat]
  simp only [List.isEmpty_cons, Bool.false_eq_true, if_false, String.intercalate_singleton, hread]
  rfl

end CommandLine

end StructuredQuery
