import Mathlib
import QueryBind.Proofs.Binding.Effect
import QueryBind.Proofs.Execution.Faults
import QueryBind.Proofs.Statement.Fitting
import QueryBind.Proofs.Statement.Numbering

/-! # Refusals

A conversion that fails with an error of the library refuses its query or its parameters. None of
the errors that the library's functions come to is the one that failed executions are reported
with. A failure that is no error of the library, or that one, escapes (`Outcome.Escapes`): an
executor cannot tell it from a failure of its client.
-/

namespace QueryBind

open Outcome (FailsOnly failsOnly_ok failsOnly_error)

/-- An error of the library that is not about a failed execution. -/
def QueryError.IsRefusal (error : QueryError) : Prop :=
  error.errorClass ≠ .execution

/-- A fault with the report of a refusal. -/
def Fault.IsRefusal (fault : Fault) : Prop :=
  ∃ report, fault.report? = some report ∧ report.code ≠ .text ErrorClass.execution.code

private theorem QueryError.IsRefusal.fault {error : QueryError} (refusal : error.IsRefusal) :
    (Fault.query error).IsRefusal := by
  refine ⟨error.report, rfl, fun same => refusal ?_⟩
  have code : error.errorClass.code = ErrorClass.execution.code := Value.text.inj same
  cases kind : error.errorClass with
  | execution => rfl
  | _ =>
      rw [kind] at code
      exact absurd code (by decide)

/-- Ordinary errors are refusals. -/
theorem QueryError.IsOrdinary.isRefusal {error : QueryError} (ordinary : error.IsOrdinary) :
    error.IsRefusal := by
  cases error with
  | execution => exact ordinary.elim
  | _ => exact ne_of_beq_false rfl

/-- An error about the number of parameters. -/
def QueryError.IsMiscount (error : QueryError) : Prop :=
  ∃ expected actual, error = .paramCount expected actual

private theorem QueryError.IsMiscount.isRefusal {error : QueryError} (miscount : error.IsMiscount) :
    error.IsRefusal := by
  obtain ⟨expected, actual, rfl⟩ := miscount
  exact ne_of_beq_false rfl

/-- What fails in ordinary ways only is refused only. -/
theorem Outcome.FailsOnly.refuses {α : Type} {outcome : Except QueryError α}
    (fails : FailsOnly QueryError.IsOrdinary outcome) : FailsOnly QueryError.IsRefusal outcome :=
  fails.imp fun _ => QueryError.IsOrdinary.isRefusal

/-- A value of the wrong kind is no refusal. -/
theorem Fault.IsWrongKind.not_isRefusal {fault : Fault} (wrong : fault.IsWrongKind) :
    ¬ fault.IsRefusal := by
  rintro ⟨report, told, _⟩
  cases fault with
  | wrongKind message code => cases told
  | _ => exact wrong.elim

/-- The report that an executor makes of a fault is the one of a failed execution, unless the fault
is a refusal. -/
theorem Fault.code_wrapped_iff {fault : Fault} {report : Report}
    (wrapped : fault.wrapped = .ok report) :
    report.code = .text ErrorClass.execution.code ↔ ¬ fault.IsRefusal := by
  cases fault with
  | query error | reported given =>
      cases wrapped
      simp [IsRefusal, report?]
  | plain message code | wrongKind message code =>
      cases wrapped
      simp [IsRefusal, report?]
      rfl
  | range message =>
      cases wrapped
      simp [IsRefusal, report?]
      rfl
  | thrown value =>
      obtain ⟨text, _, rfl⟩ := Outcome.map_eq_ok.mp wrapped
      simp [IsRefusal, report?]
      rfl

namespace Outcome

variable {α β : Type} {outcome : Except Fault α}

/-- A failure that is no refusal. -/
def Escapes (outcome : Except Fault α) : Prop :=
  ∃ fault, outcome = .error fault ∧ ¬ fault.IsRefusal

/-- A success does not escape. -/
theorem not_escapes_ok (value : α) : ¬ Escapes (.ok value) := by
  rintro ⟨_, same, _⟩
  cases same

/-- A fault escapes if it is no refusal. -/
theorem escapes_error {fault : Fault} :
    Escapes (.error fault : Except Fault α) ↔ ¬ fault.IsRefusal := by
  constructor
  · rintro ⟨_, same, escapes⟩
    cases same
    exact escapes
  · exact fun escapes => ⟨fault, rfl, escapes⟩

/-- A refusal does not escape. -/
theorem not_escapes_query {error : QueryError} (refusal : error.IsRefusal) :
    ¬ Escapes (.error (.query error) : Except Fault α) :=
  fun escapes => escapes_error.mp escapes refusal.fault

/-- A value of the wrong kind escapes. -/
theorem escapes_wrongKind (message : String) (code : Value) :
    Escapes (.error (.wrongKind message code) : Except Fault α) :=
  escapes_error.mpr (Fault.IsWrongKind.not_isRefusal trivial)

/-- The first step escapes, or it comes to a value with which the second one does. -/
theorem escapes_bind {next : α → Except Fault β} :
    Escapes (outcome >>= next) ↔
      Escapes outcome ∨ ∃ value, outcome = .ok value ∧ Escapes (next value) := by
  cases outcome with
  | error fault => simp [bind, Except.bind, escapes_error]
  | ok value => simp [bind, Except.bind, not_escapes_ok]

/-- What is made of a success does not matter. -/
theorem escapes_return {f : α → β} :
    Escapes (outcome >>= fun value => pure (f value)) ↔ Escapes outcome := by
  rw [escapes_bind]
  exact or_iff_left fun ⟨_, _, returned⟩ => not_escapes_ok _ returned

/-- Of two outcomes that are joined the second one is not looked at unless the first one comes to a
value. -/
theorem escapes_join {γ : Type} {second : Except Fault β} {join : α → β → γ} :
    Escapes (outcome >>= fun first => second >>= fun other => pure (join first other)) ↔
      Escapes outcome ∨ (∃ first, outcome = .ok first) ∧ Escapes second := by
  rw [escapes_bind]
  simp only [escapes_return, exists_and_right]

/-- What is made of a success does not matter. -/
theorem escapes_map {f : α → β} : Escapes (outcome.map f) ↔ Escapes outcome := by
  cases outcome with
  | error fault => exact escapes_error.trans escapes_error.symm
  | ok value => simp [Except.map, not_escapes_ok]

/-- The library's own errors do not escape. -/
theorem not_escapes_mapError {refused : Except QueryError α}
    (fails : FailsOnly QueryError.IsRefusal refused) :
    ¬ Escapes (refused.mapError Fault.query) := by
  cases refused with
  | ok value => exact not_escapes_ok value
  | error error => exact not_escapes_query (fails error rfl)

end Outcome

/-! ## Queries and their parameters -/

/-- Parameters are refused for their shape or their names, or for their number. -/
theorem Params.valuesFor_fails (scan : Scan) (order : Option (List String)) (held : Params) :
    FailsOnly (fun error => error.IsOrdinary ∨ error.IsMiscount) (valuesFor scan order held) := by
  cases held with
  | sequence values =>
      rw [valuesFor]
      split
      · exact failsOnly_error (.inr ⟨_, _, rfl⟩)
      · split
        · exact failsOnly_error (.inl trivial)
        · exact failsOnly_ok _
  | mapping entries =>
      rw [valuesFor]
      split
      · exact failsOnly_error (.inl trivial)
      · dsimp only
        split
        · exact failsOnly_ok _
        · exact failsOnly_error (.inl trivial)

/-- Taking values from parameters is refused or succeeds. -/
theorem Params.valuesFor_refuses (scan : Scan) (order : Option (List String)) (held : Params) :
    FailsOnly QueryError.IsRefusal (valuesFor scan order held) :=
  (valuesFor_fails scan order held).imp fun _ =>
    Or.rec QueryError.IsOrdinary.isRefusal QueryError.IsMiscount.isRefusal

section Scanned

variable {encoding : String} {codec : Text.Codec} (selected : Encoding.codec encoding = .ok codec)

include selected

/-- Scanning fails in ordinary ways only. -/
theorem Scan.ofBytes_fails (collapse : Bool) (query : Bytes) :
    FailsOnly QueryError.IsOrdinary (ofBytes encoding collapse query) := by
  intro error failed
  obtain ⟨_, token, after, _, _, _, rfl⟩ :=
    (ofBytes_eq_error_iff selected collapse query error).mp failed
  unfold Token.offence
  split
  · trivial
  split
  · trivial
  split
  · trivial
  · trivial

/-- Assembling fails in ordinary ways only. -/
theorem Statement.ofBytes_fails (query : Bytes) (variant : Variant) :
    FailsOnly QueryError.IsOrdinary (ofBytes encoding query variant) := by
  cases variant with
  | server =>
      refine FailsOnly.map ?_ _
      refine (Scan.ofBytes_fails selected true query).bind fun scan => ?_
      refine FailsOnly.bind ?_ fun _ => failsOnly_ok _
      intro error failed
      obtain ⟨slot, _, rfl⟩ := Assignment.extend_eq_error_iff.mp failed
      trivial
  | client => exact ((Scan.ofBytes_fails selected false query).map _).map _

end Scanned

end QueryBind
