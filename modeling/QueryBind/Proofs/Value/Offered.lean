import Mathlib
import QueryBind.Proofs.Outcome
import QueryBind.Transform.Parameter

/-! # Forms that objects offer

An object may offer a form that is written in its place, by a field `toJSON` of its own or, if it
has none, by one of what it inherits from (`Value.form?`). Undefined, functions and symbols have no
serialized text. Among all other values those without a text are the objects that offer one of them
in their place (`Value.Json.text?_eq_none_iff`), and serializing them does not fail.
-/

namespace QueryBind.Value

/-- The values that are no parameters and have no serialized text. -/
def isUnwritten : Value → Bool
  | .undefined | .hole | .function _ | .symbol _ => true
  | _ => false

/-- What a function `toJSON` among the fields returns. -/
def offered? (fields : Fields) : Option Value :=
  match Fields.get? fields "toJSON" with
  | some (.function result) => some result
  | _ => none

/-- The form that an object offers in its place. A field of its own hides an inherited form, even
if it offers none itself. -/
def form? : Value → Option Value
  | .record fields | .bareRecord fields | .classInstance _ fields => offered? fields
  | .derived parent fields =>
    (offered? fields).or (if Fields.contains fields "toJSON" then none else parent.form?)
  | _ => none

/-- An object that offers a form without a text. -/
def isTextless (value : Value) : Bool :=
  value.form?.any isUnwritten

namespace Json

variable {fields : Fields}

private theorem writeForm_of_offered {result : Value} (offers : offered? fields = some result) :
    writeForm fields = write false result := by
  induction fields with
  | nil => cases offers
  | cons field rest ih =>
      obtain ⟨name, held⟩ := field
      rw [offered?, Fields.get?, List.lookup_cons] at offers
      unfold writeForm
      by_cases named : "toJSON" = name
      · subst named
        simp only [BEq.rfl] at offers ⊢
        cases held with
        | function returned =>
            cases offers
            rfl
        | _ => cases offers
      · simp only [beq_false_of_ne named] at offers
        simp only [beq_false_of_ne (Ne.symm named)]
        exact ih offers

/-- Fields offer no form, or one that is written in the place of their object. -/
theorem offered_cases (fields : Fields) :
    (offersForm fields = false ∧ offered? fields = none) ∨
      ∃ result, offersForm fields = true ∧ offered? fields = some result ∧
        writeForm fields = write false result := by
  cases offers : offered? fields with
  | none =>
      refine .inl ⟨?_, rfl⟩
      unfold offered? at offers
      unfold offersForm
      cases found : Fields.get? fields "toJSON" with
      | none => rfl
      | some held =>
          rw [found] at offers
          cases held <;> first | rfl | cases offers
  | some result =>
      refine .inr ⟨result, ?_, rfl, writeForm_of_offered offers⟩
      unfold offered? at offers
      unfold offersForm
      split at offers
      · next found =>
          rw [found]
          rfl
      · cases offers

/-- A form is written unless it is undefined, a function or a symbol. -/
theorem write_false_eq_none_iff (value : Value) :
    write false value = .ok none ↔ value.isUnwritten = true := by
  cases value with
  | boxed inner => cases inner <;> simp [write, isUnwritten]
  | derived parent fields =>
      cases written : writeFields fields <;>
        simp [write, isUnwritten, bind, Except.bind, pure, Except.pure, written]
  | _ => simp [write, isUnwritten, Outcome.map_eq_ok]

/-- An inherited form has no text exactly if the value is without one. -/
theorem writeInherited_eq_none_iff (value : Value) :
    writeInherited value = .ok (some none) ↔ value.isTextless = true := by
  match value with
  | .record fields | .bareRecord fields | .classInstance _ fields =>
      rw [writeInherited, isTextless, form?]
      rcases offered_cases fields with ⟨silent, without⟩ | ⟨result, offers, returned, written⟩
      · simp [silent, without]
      · simp [offers, returned, written, Outcome.map_eq_ok, write_false_eq_none_iff]
  | .derived parent fields =>
      have inherited := writeInherited_eq_none_iff parent
      rw [isTextless] at inherited
      rw [writeInherited, isTextless, form?]
      rcases offered_cases fields with ⟨silent, without⟩ | ⟨result, offers, returned, written⟩
      · by_cases hidden : Fields.contains fields "toJSON" = true
        · simp [silent, without, hidden]
        · simp [silent, without, hidden, inherited]
      · simp [offers, returned, written, Outcome.map_eq_ok, write_false_eq_none_iff]
  | .undefined | .hole | .null | .bool _ | .number _ | .bigint _ | .text _ | .brokenText _
  | .symbol _ | .function _ | .list _ | .map _ | .set _ | .buffer _ | .octets _ | .words _
  | .date _ | .boxed _ | .selfRecord | .selfList | .sql _ | .identifier _ | .literal _
  | .composed _ =>
      simp [writeInherited, isTextless, form?]

/-- **Values without a serialized text.** Apart from undefined, functions and symbols these are the
objects that offer one of them in their place, and serializing them does not fail. -/
theorem text?_eq_none_iff {value : Value} (written : value.isUnwritten = false) :
    text? value = .ok none ↔ value.isTextless = true := by
  rw [text?]
  cases value with
  | undefined | hole | function _ | symbol _ => cases written
  | record fields | bareRecord fields | classInstance _ fields =>
      rw [write, isTextless, form?]
      rcases offered_cases fields with ⟨silent, without⟩ | ⟨result, offers, returned, form⟩
      · simp [silent, without, Outcome.map_eq_ok]
      · simp [offers, returned, form, write_false_eq_none_iff]
  | derived parent fields =>
      have inherited := writeInherited_eq_none_iff parent
      rw [isTextless] at inherited
      have braced : (writeFields fields >>= fun texts => pure (some (braces texts))) ≠
          .ok none := by
        intro came
        obtain ⟨_, _, same⟩ := Outcome.bind_eq_ok.mp came
        cases same
      rw [write, if_pos rfl, isTextless, form?]
      rcases offered_cases fields with ⟨silent, without⟩ | ⟨result, offers, returned, form⟩
      · by_cases hidden : Fields.contains fields "toJSON" = true
        · simpa [silent, without, hidden, bind, Except.bind] using braced
        · simp only [silent, without, hidden, Option.none_or, Bool.false_eq_true, if_false]
          rw [← inherited]
          cases writeInherited parent with
          | error failure => simp [bind, Except.bind]
          | ok form =>
              cases form with
              | none => simpa [bind, Except.bind] using braced
              | some written => simp [bind, Except.bind, pure, Except.pure]
      · rw [if_pos offers, returned, form, Option.some_or, Option.any_some,
          ← write_false_eq_none_iff result]
        cases write false result <;> simp [bind, Except.bind, pure, Except.pure, Except.map]
  | boxed inner => cases inner <;> simp [write, isTextless, form?]
  | _ => simp [write, isTextless, form?, Outcome.map_eq_ok]

end Json

end QueryBind.Value
