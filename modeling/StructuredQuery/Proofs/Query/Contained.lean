import StructuredQuery.Proofs.Expression.Limits
import StructuredQuery.Proofs.Query.Accepted

/-!
What can become of a query text. It cannot be read, it breaks a rule, or it stands for an expression, which can
then be written. Only a text with an integer of too many digits escapes this: it is never accepted, and unless
a rule is broken first, the answer is a failure that no rule foresees.
-/

namespace StructuredQuery

open Query

/-! ## What is read can be written -/

/-- Whatever the grammar can spell is written without fail. -/
theorem Value.IsScalar.limited_written {v : Value} (h : v.IsScalar) : Limited False v.written := by
  cases h with
  | text h =>
    rw [written_of_text? h]
    exact limited_ok _
  | int h => exact (IsData.int (.inl h)).limited_written
  | float => exact (IsData.float _).limited_written

theorem Interval.Plain.limited_written {r : Interval} (h : r.Plain) : Limited False r.written := by
  have hbound {v : Value} (hv : v = .null ∨ v.IsScalar) : Limited False v.written := by
    rcases hv with rfl | hv
    · exact Value.IsData.null.limited_written
    · exact hv.limited_written
  exact Interval.limited_written (hbound h.lower) (hbound h.upper)

/-- Every expression that is read can be written. -/
theorem Expression.Everywhere.exists_render_of_readable {e : Expression} (h : e.Everywhere Readable) :
    ∃ canonical, e.render = .ok canonical := by
  apply exists_of_limited_false
  apply limited_render
  induction h with
  | intro e here _ ih =>
    -- a field is written if the interval, the number or the nested expression in it is
    apply limited_written
    intro f hf
    have hread := (here.fields f hf).value
    have hnested := ih f hf
    obtain ⟨value, name⟩ := f
    cases hread with
    | text s => exact FieldValue.writable_of_content (limited_ok _)
    | int h =>
      have hw := (Value.IsScalar.int h).limited_written
      exact FieldValue.writable_of_content (limited_writeContent hw rfl)
    | float h =>
      have hw := (Value.IsScalar.float h).limited_written
      exact FieldValue.writable_of_content (limited_writeContent hw h)
    | interval h =>
      apply FieldValue.writable_of_content
      rw [writeContent, Value.written]
      exact h.limited_written
    | expression e => exact FieldValue.writable_expression (hnested e rfl)

/-! ## Integers of too many digits -/

namespace Query

/-- A long integer is a failure of its node. -/
theorem ScalarNode.mem_failure {s : ScalarNode} {token : Token} (ht : token ∈ s.numbers)
    (hl : token.IsLongInteger) : Error.fault .digitLimit ∈ failure s.value := by
  cases s with
  | number t =>
    obtain rfl := List.mem_singleton.1 ht
    rw [ScalarNode.value_of_isLongInteger hl, failure]
    exact List.mem_singleton.2 rfl
  | string => exact absurd ht List.not_mem_nil

theorem mem_failure_boundNodeValue {b : Option ScalarNode} {token : Token} (ht : token ∈ boundNumbers b)
    (hl : token.IsLongInteger) : Error.fault .digitLimit ∈ failure (boundNodeValue b) := by
  cases b with
  | none => exact absurd ht List.not_mem_nil
  | some s => exact ScalarNode.mem_failure ht hl

-- Along the nodes: the failure of a number is one of every node that it is in.
mutual

/-- A long integer is a failure of every node that it stands in. -/
theorem TermNode.mem_failures : ∀ {t : TermNode} {token : Token}, token ∈ t.numbers → token.IsLongInteger →
    Error.fault .digitLimit ∈ t.failures
  | .scalar s, _, ht, hl => by
    rw [TermNode.numbers] at ht
    rw [TermNode.failures]
    exact ScalarNode.mem_failure ht hl
  | .range .., _, ht, hl => by
    rw [TermNode.numbers] at ht
    rw [TermNode.failures, List.append_assoc]
    rcases List.mem_append.1 ht with ht | ht
    · exact List.mem_append_left _ (mem_failure_boundNodeValue ht hl)
    · exact List.mem_append_right _ (List.mem_append_left _ (mem_failure_boundNodeValue ht hl))
  | .expr _, _, ht, hl => by
    rw [TermNode.numbers] at ht
    rw [TermNode.failures]
    exact ExprNode.mem_failures ht hl

theorem ItemNode.mem_failures : ∀ {i : ItemNode} {token : Token}, token ∈ i.numbers → token.IsLongInteger →
    Error.fault .digitLimit ∈ i.failures
  | .option .., _, ht, _ => by
    rw [ItemNode.numbers] at ht
    exact absurd ht List.not_mem_nil
  | .named .., _, ht, hl => by
    rw [ItemNode.numbers] at ht
    rw [ItemNode.failures]
    exact List.mem_append_left _ (TermNode.mem_failures ht hl)
  | .bare _, _, ht, hl => by
    rw [ItemNode.numbers] at ht
    rw [ItemNode.failures]
    exact TermNode.mem_failures ht hl

theorem mem_itemsFailures : ∀ {items : List ItemNode} {token : Token}, token ∈ itemsNumbers items →
    token.IsLongInteger → Error.fault .digitLimit ∈ itemsFailures items
  | [], _, ht, _ => by
    rw [itemsNumbers] at ht
    exact absurd ht List.not_mem_nil
  | _ :: _, _, ht, hl => by
    rw [itemsNumbers] at ht
    rw [itemsFailures]
    rcases List.mem_append.1 ht with ht | ht
    · exact List.mem_append_left _ (ItemNode.mem_failures ht hl)
    · exact List.mem_append_right _ (mem_itemsFailures ht hl)

theorem ExprNode.mem_failures : ∀ {e : ExprNode} {token : Token}, token ∈ e.numbers → token.IsLongInteger →
    Error.fault .digitLimit ∈ e.failures
  | .node .., _, ht, hl => by
    rw [ExprNode.numbers] at ht
    rw [ExprNode.failures]
    exact List.mem_append_left _ (mem_itemsFailures ht hl)

end

/-- A text of the grammar with an integer of too many digits among its numbers. -/
def HoldsLongInteger (text : String) : Prop :=
  ∃ node, Derivation (Text.trim text.toList) node ∧ ∃ token ∈ node.numbers, token.IsLongInteger

end Query

namespace Expression

/-- A text with an integer of too many digits is not accepted. -/
theorem ofText_ne_ok_of_holdsLongInteger {text : String} (h : HoldsLongInteger text) (e : Expression) :
    ofText text ≠ .ok e := by
  obtain ⟨node, hd, token, ht, hl⟩ := h
  intro he
  have hfirst := node.failsFirst
  rw [← ofText_of_derivation hd, he] at hfirst
  have hmem := ExprNode.mem_failures ht hl
  -- what is accepted has no failure in any of its nodes
  rw [hfirst.eq_nil] at hmem
  exact absurd hmem List.not_mem_nil

/-- What is read can be written; and what is not read breaks the grammar or a rule, or holds an integer of too
many digits. -/
theorem meets_ofText (text : String) :
    Meets (fun e => ∃ canonical, e.render = .ok canonical)
      (fun err => err.isUnreadable ∨ err.breaksRule ∨ err = .fault .digitLimit ∧ HoldsLongInteger text)
      (ofText text) := by
  by_cases hd : ∃ node, Derivation (Text.trim text.toList) node
  · obtain ⟨node, hd⟩ := hd
    rw [ofText_of_derivation hd]
    have hvalue : Meets (Everywhere Readable)
        (fun err => err.breaksRule ∨ err = .fault .digitLimit ∧ HoldsLongInteger text) node.value :=
      DerivesExpr.meets (fun _ => .inl) hd fun token ht hl => .inr ⟨rfl, node, hd, token, ht, hl⟩
    exact (hvalue.imp fun e he => he.exists_render_of_readable).imp_error fun err he => .inr he
  · obtain ⟨err, he, hu⟩ := ofText_of_not_derivation hd
    rw [he]
    exact .inl hu

/-- A row of digits under an operator is an integer, which has too many of them if they are more than may be
read. -/
theorem ofText_of_long_digits {ds : List Char} (hd : ∀ c ∈ ds, Text.isDecimalDigit c)
    (hl : Integer.digitLimit < ds.length) :
    ofText (String.ofList ('(' :: ("and ".toList ++ ds ++ [')']))) = .error (.fault .digitLimit) := by
  have hne : ds ≠ [] := List.ne_nil_of_length_pos (by omega)
  have hopening : Takes .leftRound ('(' :: ("and ".toList ++ ds ++ [')'])) ⟨[], ['(']⟩
      ("and ".toList ++ ds ++ [')']) :=
    (takes_char_iff rfl).2 ⟨rfl, rfl⟩
  have hoperator : Takes .operator ("and ".toList ++ ds ++ [')']) ⟨[], "and".toList⟩ (' ' :: (ds ++ [')'])) :=
    takes_iff.2 ⟨rfl, Pattern.longest_plus_one_iff.2 rfl⟩
  have hnumber : Takes .number (' ' :: (ds ++ [')'])) ⟨[' '], ds⟩ [')'] := by
    have hspells : NumberText.Spells ⟨false, ds, [], none⟩ ds :=
      ⟨hne, hd, by simp, [], .none, by simp [NumberText.fractionText]⟩
    have htake : number? (ds ++ [')']) = some (⟨false, ds, [], none⟩, [')']) :=
      hspells.take? (Text.stops_cons.2 (by decide))
    have hlongest := Terminal.longest_number_iff.2 ⟨_, htake, rfl⟩
    refine ⟨by simp [isSpace], ds ++ [')'], rfl, hlongest⟩
  have hclosing : Takes .rightRound [')'] ⟨[], [')']⟩ [] := (takes_char_iff rfl).2 ⟨rfl, rfl⟩
  have hderivation : Derivation ('(' :: ("and ".toList ++ ds ++ [')']))
      (.node ⟨[], ['(']⟩ ⟨[], "and".toList⟩ [.bare (.scalar (.number ⟨[' '], ds⟩))] ⟨[], [')']⟩) :=
    .node hopening hoperator (.cons (.bare (.scalar (.number hnumber))) .nil) hclosing
  have hlong : Token.IsLongInteger ⟨[' '], ds⟩ := ⟨false, ds, rfl, hd, hl⟩
  have hread : ofText (String.ofList ('(' :: ("and ".toList ++ ds ++ [')']))) = _ :=
    ofText_of_derivation (by rwa [String.toList_ofList, trim_bracketed])
  rw [hread, ExprNode.value, itemNodeValues, ItemNode.value, TermNode.value,
    ScalarNode.value_of_isLongInteger hlong]
  rfl

end Expression

end StructuredQuery
