import StructuredQuery.Proofs.Document.NormalForm

/-!
What can become of the text of a document. It is decoded to data, or it is malformed; its tables give queries of
data, or are refused for their shape or for their bounds; and the queries give expressions that can be written,
or break a rule. Only an integer of too many digits escapes this.
-/

namespace StructuredQuery.Document

variable {long : Prop}

/-- What is no query document, breaks a rule, or holds an integer of too many digits, where one may. -/
def Fails (long : Prop) (e : Error) : Prop :=
  e.isDocument ∨ e.RefusedOr long

/-- An integer of too many digits in the text of a document: a row of digits at which decoding stops. In TOML it may
be written in another base than ten, and then it is decoded. -/
inductive LongIntegerIn (text : String) : Format → Prop
  | json (h : Json.decode text = .error (.fault .digitLimit)) (hl : Text.HoldsLongInteger text.toList) :
      LongIntegerIn text .json
  | toml (h : Toml.decode text = .error (.fault .digitLimit)) (hl : Text.HoldsLongInteger text.toList) :
      LongIntegerIn text .toml
  | data {data : Value} {n : Int} (h : Toml.decode text = .ok data) (hn : data.Holds n)
      (hs : ¬ Integer.IsShort n) : LongIntegerIn text .toml

/-- A text is decoded to data, unless it is malformed. -/
theorem meets_decode {text : String} {format : Format} (source : String) (hlong : LongIntegerIn text format → long) :
    Meets (Value.IsDecoded long) (Fails long) (decode text format source) := by
  -- both formats turn the stops of their readers into errors of the document
  have hstops {stop : DecodeError → Error} (hm : ∀ what rest, (stop (.malformed what rest)).isDocument)
      (hf : stop (.fault .digitLimit) = .fault .digitLimit) {cs : List Char} {decoded : Except DecodeError Value}
      (hd : Meets (Value.IsDecoded long) (DecodeError.Stops cs) decoded)
      (hl : decoded = .error (.fault .digitLimit) → Text.HoldsLongInteger cs → long) :
      Meets (Value.IsDecoded long) (Fails long) (decoded.mapError stop) := by
    cases decoded with
    | ok data => exact hd
    | error e =>
      cases hd with
      | malformed what => exact .inl (hm what _)
      | digits hdigits => exact .inr (.inr ⟨hf, hl rfl hdigits⟩)
  cases format with
  | json =>
    have hdecode : Meets (Value.IsDecoded long) (DecodeError.Stops text.toList) (Json.decode text) :=
      (Json.meets_decode text).imp fun data hd => hd.limit fun n hn => .inl (hd.isShort_of_holds hn)
    exact hstops (fun _ _ => rfl) rfl hdecode fun he hl => hlong (.json he hl)
  | toml =>
    -- an integer of another base than ten may be read though it is long, and then the document holds it
    have hdata (data : Value) (hd : Toml.decode text = .ok data) : data.IsDecoded long := by
      refine ((Toml.meets_decode text).of_ok hd).limit fun n hn => ?_
      by_cases hs : Integer.IsShort n
      · exact .inl hs
      · exact .inr (hlong (.data hd hn hs))
    have hdecode : Meets (Value.IsDecoded long) (DecodeError.Stops (Toml.joinBreaks text.toList)) (Toml.decode text) :=
      meets_iff.2 ⟨hdata, fun e he => (Toml.meets_decode text).of_error he⟩
    exact hstops (fun _ _ => rfl) rfl hdecode fun he hl =>
      hlong (.toml he (Toml.holdsLongInteger_of_joinBreaks hl))

end StructuredQuery.Document
