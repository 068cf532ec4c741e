import StructuredQuery.Document.Load
import StructuredQuery.Proofs.Document.Rows
import StructuredQuery.Proofs.Json.Decoding
import StructuredQuery.Proofs.Toml.Decoding

/-!
The normal form of conditions. What the data of a document stand for has no tables, and rows only as the values of
named pairs; and conditions of this form stand for themselves.
-/

namespace StructuredQuery.Document

inductive IsBasic : Value → Prop
  | null : IsBasic .null
  | bool (b : Bool) : IsBasic (.bool b)
  | int (n : Int) : IsBasic (.int n)
  | float (x : Binary64) : IsBasic (.float x)
  | text (s : String) : IsBasic (.text s)
  | timestamp (t : Timestamp) : IsBasic (.timestamp t)
  | date (d : Date) : IsBasic (.date d)
  | time (t : TimeOfDay) : IsBasic (.time t)

/-- A value without rows, over values without parts: one of these, an interval between two, or a pair of two. -/
inductive IsPart (P : Value → Prop) : Value → Prop
  | single {v : Value} (h : P v) : IsPart P v
  | range {r : Interval} (hl : P r.lower) (hu : P r.upper) : IsPart P (.range r)
  | bounds {lower upper : Value} (hl : P lower) (hu : P upper) : IsPart P (.tuple [lower, upper])

/-- A condition in normal form, over values without parts and keys. Only under a key there may be a row, and then of
such conditions. -/
inductive IsNormal (P : Value → Prop) (IsKey : String → Prop) : Value → Prop
  | part {v : Value} (h : IsPart P v) : IsNormal P IsKey v
  | named {key : String} {v : Value} (hk : IsKey key) (h : IsPart P v) : IsNormal P IsKey (.tuple [.text key, v])
  | nested {key : String} {vs : List Value} (hk : IsKey key) (h : ∀ v ∈ vs, IsNormal P IsKey v) :
      IsNormal P IsKey (.tuple [.text key, .list vs])

/-- A value stands in data: it is the whole, or stands in an item of a row or under a key of a table. -/
inductive StandsIn (v : Value) : Value → Prop
  | whole : StandsIn v v
  | item {items : List Value} {item : Value} (hm : item ∈ items) (h : StandsIn v item) : StandsIn v (.list items)
  | entry {entries : List (Value × Value)} {entry : Value × Value} (hm : entry ∈ entries)
      (h : StandsIn v entry.2) : StandsIn v (.mapping entries)

def HasKey (data : Value) (key : String) : Prop :=
  ∃ entries value, StandsIn (.mapping entries) data ∧ (.text key, value) ∈ entries

theorem HasKey.of_item {items : List Value} {item : Value} {key : String} (hm : item ∈ items) (h : HasKey item key) :
    HasKey (.list items) key := by
  obtain ⟨es, value, hin, he⟩ := h
  exact ⟨es, value, .item hm hin, he⟩

theorem HasKey.of_entry {entries : List (Value × Value)} {entry : Value × Value} {key : String}
    (hm : entry ∈ entries) (h : HasKey entry.2 key) : HasKey (.mapping entries) key := by
  obtain ⟨es, value, hin, he⟩ := h
  exact ⟨es, value, .entry hm hin, he⟩

/-! ## From data to the normal form -/

section

variable {long : Prop} {P : Value → Prop} {IsKey : String → Prop}

/-- What may stand under a name in normal form. -/
inductive IsNormalValue (P : Value → Prop) (IsKey : String → Prop) : Value → Prop
  | part {v : Value} (h : IsPart P v) : IsNormalValue P IsKey v
  | list {vs : List Value} (h : ∀ v ∈ vs, IsNormal P IsKey v) : IsNormalValue P IsKey (.list vs)

/-- A normal value under a key is a normal condition. -/
theorem IsNormalValue.pair {key : String} {v : Value} (h : IsNormalValue P IsKey v) (hk : IsKey key) :
    IsNormal P IsKey (.tuple [.text key, v]) := by
  cases h with
  | part h => exact .named hk h
  | list h => exact .nested hk h

abbrev GivesNormal (P : Value → Prop) (IsKey : String → Prop) (r : Except Error (List Value)) : Prop :=
  Meets (fun vs => ∀ v ∈ vs, IsNormal P IsKey v) (fun e => e.breaksRule) r

abbrev GivesValue (P : Value → Prop) (IsKey : String → Prop) (r : Except Error Value) : Prop :=
  Meets (IsNormalValue P IsKey) (fun e => e.breaksRule) r

/-- Rows in normal form make one together. -/
theorem GivesNormal.join {r s : Except Error (List Value)} (hr : GivesNormal P IsKey r) (hs : GivesNormal P IsKey s) :
    GivesNormal P IsKey (join r s) := by
  refine hr.bind fun xs _ hx => hs.bind fun ys _ hy => ?_
  intro v hv
  rcases List.mem_append.1 hv with hv | hv
  · exact hx v hv
  · exact hy v hv

theorem givesNormal_singleton {v : Value} (hv : IsNormal P IsKey v) : GivesNormal P IsKey (.ok [v]) :=
  List.forall_mem_singleton.2 hv

theorem givesNormal_nil : GivesNormal P IsKey (.ok []) :=
  fun _ hv => absurd hv List.not_mem_nil

/-- The entries of a table are pairs of a key and a value. -/
theorem givesNormal_pairs {entries : List (Value × Value)}
    (hk : ∀ entry ∈ entries, ∃ key, entry.1 = .text key ∧ IsKey key)
    (hn : ∀ entry ∈ entries, ∀ name, GivesValue P IsKey (namedValue name entry.2)) :
    GivesNormal P IsKey (pairs entries) := by
  induction entries with
  | nil =>
    rw [pairs]
    exact givesNormal_nil
  | cons entry rest ih =>
    obtain ⟨key, value⟩ := entry
    obtain ⟨name, rfl, hname⟩ := hk (key, value) List.mem_cons_self
    have hvalue := hn (.text name, value) List.mem_cons_self name
    have hrest := ih (fun entry he => hk entry (List.mem_cons_of_mem _ he)) fun entry he =>
      hn entry (List.mem_cons_of_mem _ he)
    rw [pairs_cons, pair_text]
    exact GivesNormal.join (Meets.map hvalue fun w hw => givesNormal_singleton (hw.pair hname)) hrest

/-- A value without parts stands for itself. -/
theorem meets_normal_single {v : Value} (h : P v) (hs : isScalar v) :
    GivesNormal P IsKey (conditions v) ∧ ∀ name, GivesValue P IsKey (namedValue name v) := by
  have hm (entries : List (Value × Value)) : v ≠ .mapping entries := fun he => by cases he ▸ hs
  have hl (items : List Value) : v ≠ .list items := fun he => by cases he ▸ hs
  have hpart : IsPart P v := .single h
  constructor
  · rw [conditions]
    · exact givesNormal_singleton (.part hpart)
    · exact hm
    · exact hl
  · intro name
    rw [namedValue]
    · split
      · exact .list (givesNormal_singleton (.part hpart))
      · exact .part hpart
    · exact hm
    · exact hl

/-- What has a family has no parts. -/
theorem isScalar_of_family? {v : Value} {family : Family} (h : v.family? = some family) : isScalar v := by
  cases v with
  | list | tuple | mapping => cases h
  | _ => rfl

variable (hP : ∀ v : Value, v.IsDecoded long → isScalar v → P v)

include hP

/-- A table of nothing but bounds gives an interval of them, or its bounds break a rule. -/
theorem meets_ofMapping {entries : List (Value × Value)} (h : Value.TableOf (Value.IsDecoded long) entries)
    (hr : isRangeTable entries) :
    Meets (fun r => IsPart P (.range r)) (fun e => e.breaksRule) (Interval.ofMapping entries) := by
  have hkeys : ((entries.map (·.1)).filter fun key => !Interval.isDescriptorKey key) = [] := by
    rw [isRangeTable, Bool.and_eq_true] at hr
    refine List.filter_eq_nil_iff.2 fun key hk => ?_
    obtain ⟨entry, he, rfl⟩ := List.mem_map.1 hk
    simp [List.all_eq_true.1 hr.2 entry he]
  have hbound (key : String) : ((Mapping.get? key entries).getD .null).IsDecoded long := by
    cases hg : Mapping.get? key entries with
    | none => exact .null
    | some v => exact h.get? hg
  unfold Interval.ofMapping
  simp only [hkeys, List.isEmpty_nil, if_true]
  refine meets_iff.2 ⟨fun r hmade => ?_, fun e he => (Interval.breaks_ofDescriptor _ _ _ _).of_error he⟩
  -- a bound that is there has a family, and so no parts
  obtain ⟨family, hlower, hupper⟩ := (Interval.valid_of_ofDescriptor hmade).family
  have hside {v : Value} (hd : v.IsDecoded long) (hf : v ≠ .null → v.family? = some family) : P v := by
    by_cases hn : v = .null
    · exact hn ▸ hP .null .null rfl
    · exact hP v hd (isScalar_of_family? (hf hn))
  obtain ⟨-, rfl⟩ := Interval.ofDescriptor_eq_ok hmade
  exact .range (hside (Interval.of_side .null (hbound _) (hbound _)) hlower)
    (hside (Interval.of_side .null (hbound _) (hbound _)) hupper)

/-- An array of bounds is a pair of basic values. -/
theorem isPart_of_bounds? {items : List Value} {lower upper : Value} (h : ∀ v ∈ items, v.IsDecoded long)
    (hb : bounds? items = some (lower, upper)) : IsPart P (.tuple [lower, upper]) := by
  unfold bounds? at hb
  split at hb
  · next low high =>
    split at hb
    · next hscalar =>
      obtain ⟨rfl, rfl⟩ := Prod.mk.inj (Option.some.inj hb)
      obtain ⟨hlow, hhigh⟩ := Bool.and_eq_true_iff.1 hscalar
      exact .bounds (hP _ (h _ (by simp)) hlow) (hP _ (h _ (by simp)) hhigh)
    · cases hb
  · cases hb

/-- An array among conditions is such a pair, or nothing is left of it. -/
theorem givesNormal_ofArray {items : List Value} (h : ∀ v ∈ items, v.IsDecoded long) :
    GivesNormal P IsKey (.ok (ofArray items)) := by
  unfold ofArray
  split
  · next hb => exact givesNormal_singleton (.part (isPart_of_bounds? hP h hb))
  · exact givesNormal_nil

/-- The conditions of an array are those of its tables, and its bounds and other items. -/
theorem givesNormal_conditionsOfItems {items : List Value} (h : ∀ v ∈ items, v.IsDecoded long)
    (ht : ∀ v ∈ items, GivesNormal P IsKey (conditions v)) : GivesNormal P IsKey (conditionsOfItems items) := by
  induction items with
  | nil =>
    rw [conditionsOfItems]
    exact givesNormal_nil
  | cons item rest ih =>
    have hitem := h item List.mem_cons_self
    have htable := ht item List.mem_cons_self
    have hrest := ih (fun v hv => h v (List.mem_cons_of_mem _ hv)) fun v hv => ht v (List.mem_cons_of_mem _ hv)
    rw [conditionsOfItems_cons]
    refine GivesNormal.join ?_ hrest
    cases hitem with
    | mapping =>
      rw [conditionsOfItems_mapping, conditionsOfItems, join_ok_nil]
      exact htable
    | list hparts =>
      rw [conditionsOfItems_list, conditionsOfItems, join_ok_nil]
      exact givesNormal_ofArray hP hparts
    | _ => exact givesNormal_singleton (.part (.single (hP _ (h _ List.mem_cons_self) rfl)))

/-- The conditions that decoded data stand for, and their value under a name, are in normal form over the data
without parts and the keys of tables, or a rule is broken. -/
theorem meets_normal {v : Value} (h : v.IsDecoded long) (hk : ∀ key, HasKey v key → IsKey key) :
    GivesNormal P IsKey (conditions v) ∧ ∀ name, GivesValue P IsKey (namedValue name v) := by
  have hoperator {v : Value} {name : String} {operator : Operator} (ho : Operator.ofText? name = some operator)
      (hc : GivesNormal P IsKey (conditions v)) : GivesValue P IsKey (namedValue name v) := by
    -- under an operator the conditions are kept as a list, also when there is one only
    rw [namedValue_operator ho]
    exact hc.map fun _ => .list
  induction h with
  | @mapping entries htexts hvalues ih =>
    have hkeys : ∀ entry ∈ entries, ∃ key, entry.1 = .text key ∧ IsKey key := by
      intro entry he
      obtain ⟨key, hkey⟩ := htexts entry he
      exact ⟨key, hkey, hk key ⟨entries, entry.2, .whole, hkey ▸ he⟩⟩
    have hpairs : GivesNormal P IsKey (pairs entries) :=
      givesNormal_pairs hkeys fun entry he => (ih entry he fun key hkey => hk key (.of_entry he hkey)).2
    have hrange (hr : isRangeTable entries) := meets_ofMapping hP ⟨htexts, hvalues⟩ hr
    have hconditions : GivesNormal P IsKey (conditions (.mapping entries)) := by
      rw [conditions]
      split
      · next hr => exact (hrange hr).map fun r hpart => givesNormal_singleton (.part hpart)
      · exact hpairs
    refine ⟨hconditions, fun name => ?_⟩
    -- a table of bounds under a name for a field is the interval itself, without a list around it
    cases ho : Operator.ofText? name with
    | some operator => exact hoperator ho hconditions
    | none =>
      rw [namedValue]
      simp only [ho, Option.isSome_none, Bool.false_eq_true, if_false]
      split
      · next hr => exact (hrange hr).map fun r hpart => .part hpart
      · exact hpairs.map fun _ => .list
  | @list items hitems ih =>
    have hrow : GivesNormal P IsKey (conditionsOfItems items) :=
      givesNormal_conditionsOfItems hP hitems fun v hv => (ih v hv fun key hkey => hk key (.of_item hv hkey)).1
    refine ⟨by rwa [conditions], fun name => ?_⟩
    rw [namedValue]
    split
    · next hb =>
      split at hb
      · cases hb
      · exact .part (isPart_of_bounds? hP hitems hb)
    · exact hrow.map fun _ => .list
  | null => exact meets_normal_single (hP _ .null rfl) rfl
  | bool b => exact meets_normal_single (hP _ (.bool b) rfl) rfl
  | int h => exact meets_normal_single (hP _ (.int h) rfl) rfl
  | float x => exact meets_normal_single (hP _ (.float x) rfl) rfl
  | text s => exact meets_normal_single (hP _ (.text s) rfl) rfl
  | timestamp t => exact meets_normal_single (hP _ (.timestamp t) rfl) rfl
  | date d => exact meets_normal_single (hP _ (.date d) rfl) rfl
  | time t => exact meets_normal_single (hP _ (.time t) rfl) rfl

end

/-! ## The normal form -/

/-- Conditions that are neither tables nor rows stand for themselves. -/
theorem conditionsOfItems_eq_self {vs : List Value} (hm : ∀ v ∈ vs, ∀ entries, v ≠ .mapping entries)
    (hl : ∀ v ∈ vs, ∀ items, v ≠ .list items) : conditionsOfItems vs = .ok vs := by
  induction vs with
  | nil => rw [conditionsOfItems]
  | cons v rest ih =>
    have hrest := ih (fun w hw => hm w (List.mem_cons_of_mem _ hw)) fun w hw => hl w (List.mem_cons_of_mem _ hw)
    rw [conditionsOfItems, hrest]
    · rfl
    · exact hm v List.mem_cons_self
    · exact hl v List.mem_cons_self

/-- A condition in normal form is neither a table nor a row. -/
theorem IsNormal.ne {IsKey : String → Prop} {v : Value} (h : IsNormal IsBasic IsKey v) :
    (∀ entries, v ≠ .mapping entries) ∧ ∀ items, v ≠ .list items := by
  cases h with
  | part h =>
    cases h with
    | single h => cases h <;> simp
    | range | bounds => simp
  | named | nested => simp

/-- A decoded scalar is a basic value. -/
theorem isBasic_of_isDecoded {long : Prop} {v : Value} (h : v.IsDecoded long) (hs : isScalar v) : IsBasic v := by
  cases h with
  | list | mapping => cases hs
  | null => exact .null
  | bool b => exact .bool b
  | int => exact .int _
  | float x => exact .float x
  | text s => exact .text s
  | timestamp t => exact .timestamp t
  | date d => exact .date d
  | time t => exact .time t

/-- What stands in decoded data is decoded. -/
theorem isDecoded_of_standsIn {long : Prop} {v data : Value} (h : data.IsDecoded long) (hv : StandsIn v data) :
    v.IsDecoded long := by
  induction hv with
  | whole => exact h
  | item hm _ ih => exact ih (h.items _ hm)
  | entry hm _ ih => exact ih (h.table.value _ hm)

/-- A text that can be decoded gives decoded data. -/
theorem exists_isDecoded {text source : String} {format : Format} {data : Value}
    (h : decode text format source = .ok data) : ∃ long, data.IsDecoded long := by
  have hok {stop : DecodeError → Error} {decoded : Except DecodeError Value}
      (h : decoded.mapError stop = .ok data) : decoded = .ok data := by
    cases decoded with
    | error e => cases h
    | ok v => exact congrArg _ (Except.ok.inj h)
  cases format with
  | json => exact ⟨False, (Json.meets_decode text).of_ok (hok h)⟩
  | toml => exact ⟨True, (Toml.meets_decode text).of_ok (hok h)⟩

/-- The conditions that a value in a decoded document stands for are in normal form, over basic values and the keys
of its tables, and stand for themselves. -/
theorem conditions_normal {text source : String} {format : Format} {data v : Value} {vs : List Value}
    (hd : decode text format source = .ok data) (hv : StandsIn v data) (h : conditions v = .ok vs) :
    (∀ w ∈ vs, IsNormal IsBasic (HasKey v) w) ∧ conditions (.list vs) = .ok vs := by
  obtain ⟨long, hdata⟩ := exists_isDecoded hd
  have hnormal : ∀ w ∈ vs, IsNormal IsBasic (HasKey v) w :=
    (meets_normal (fun _ => isBasic_of_isDecoded) (isDecoded_of_standsIn hdata hv) fun _ hk => hk).1.of_ok h
  refine ⟨hnormal, ?_⟩
  rw [conditions]
  exact conditionsOfItems_eq_self (fun w hw => (hnormal w hw).ne.1) fun w hw => (hnormal w hw).ne.2

/-- The case of an array of bounds under an operator, which stands in a JSON text. -/
theorem conditions_normal_nested :
    let data := Value.mapping [(.text "not", .list [.list [.text "a", .text "b"]])]
    let vs := [Value.tuple [.text "not", .list [.tuple [.text "a", .text "b"]]]]
    decode "\x7b\"not\": [[\"a\", \"b\"]]\x7d" .json "<stdin>" = .ok data ∧ StandsIn data data ∧
      conditions data = .ok vs ∧ (∀ w ∈ vs, IsNormal IsBasic (HasKey data) w) ∧ conditions (.list vs) = .ok vs := by
  intro data vs
  have hdecode : decode "\x7b\"not\": [[\"a\", \"b\"]]\x7d" .json "<stdin>" = .ok data := by
    with_unfolding_all rfl
  have hconditions : conditions data = .ok vs := rfl
  exact ⟨hdecode, .whole, hconditions, conditions_normal hdecode .whole hconditions⟩

end StructuredQuery.Document
