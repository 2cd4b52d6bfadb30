import Mathlib
import QueryBind.Proofs.Binding.Denotation
import QueryBind.Proofs.Binding.Rebinding
import QueryBind.Proofs.Statement.Agreement
import QueryBind.Proofs.Statement.Fitting
import QueryBind.Proofs.Transform.Sequence

/-! # The state of a bound query

The fields of a bound query agree with one another after any calls. What a member holds was left by
its last conversion, and its parameters are dropped or are those of one binding of the parsed query
(`Family.View.Stands`). For a server the counts then agree because markers, formats and dumped
values are counted alike, and a value that was never there is missing from all that is sent; for a
client because a template takes a literal for every slot.
-/

namespace QueryBind

namespace Binding

private theorem unbound_unbound (binding : Binding) :
    binding.unbound.unbound = binding.unbound := by
  cases binding <;> rfl

private theorem unbound_bare (bytes : Bytes) (variant : Variant) :
    (bare bytes variant).unbound = bare bytes variant := by
  cases variant <;> rfl

private theorem statement?_bare (bytes : Bytes) (variant : Variant) :
    (bare bytes variant).statement? = none := by
  cases variant <;> rfl

end Binding

namespace Family

namespace View

/-- What a member holds goes back to its last conversion. -/
structure Stands (view : View) (last : Option (Value × Value)) : Prop where
  /-- The query that further parameters are bound to is the one that was converted last. -/
  parsed : ∀ parsed, view.binding.statement? = some parsed → ∃ query given bytes,
    last = some (query, given) ∧
    Ground.queryBytes view.transformer view.encoding query given = .ok bytes ∧
    Statement.ofBytes view.encoding bytes view.binding.variant = .ok parsed
  /-- The parameters are dropped, or are those that this query was bound to. -/
  bound : view.binding.unbound = view.binding ∨ ∃ parsed params,
    view.binding.statement? = some parsed ∧ parsed.bindTo view.transformer params = .ok view.binding

/-- A conversion that succeeds leaves a binding that stands. -/
theorem stands_of_conversion {view : View} {query given : Value} {binding : Binding}
    (came : view.result (.convert query given) = .ok binding) :
    Stands { view with binding } (some (query, given)) := by
  have kept : binding.variant = view.binding.variant := (Call.keeps came).1
  obtain ⟨bytes, source, ⟨_, rfl⟩ | ⟨_, parsed, assembled, binds⟩⟩ := Binding.ofQuery_eq_ok came
  · refine ⟨?_, .inl (Binding.unbound_bare _ _)⟩
    intro parsed held
    rw [Binding.statement?_bare] at held
    cases held
  · have there := (Binding.statement?_of_bindTo binds).1
    refine ⟨?_, .inr ⟨parsed, given, there, binds⟩⟩
    intro other held
    cases there.symm.trans held
    rw [← kept] at assembled
    exact ⟨query, given, bytes, rfl, source, assembled⟩

/-- So does a dump that succeeds. -/
theorem Stands.dump {view : View} {last : Option (Value × Value)} (stands : view.Stands last)
    {params : Value} {binding : Binding} (came : view.result (.dump params) = .ok binding) :
    Stands { view with binding } last := by
  have kept : binding.variant = view.binding.variant := (Call.keeps came).1
  change view.binding.rebound view.transformer params = .ok binding at came
  unfold Binding.rebound at came
  split at came
  · cases came
    refine ⟨?_, .inl (Binding.unbound_unbound _)⟩
    intro parsed held
    rw [Binding.statement?_unbound] at held
    rw [Binding.variant_unbound]
    exact stands.parsed parsed held
  · split at came
    · cases came
    · next parsed held =>
        have there := (Binding.statement?_of_bindTo came).1
        refine ⟨?_, .inr ⟨parsed, params, there, came⟩⟩
        intro other again
        cases there.symm.trans again
        rw [kept]
        exact stands.parsed parsed held

/-- One call keeps what goes back to the last conversion, or is the last conversion. -/
theorem Stands.next {view : View} {last : Option (Value × Value)} (stands : view.Stands last)
    (call : Call) : (view.next call).Stands ((view.record call).conversion?.or last) := by
  cases came : view.result call with
  | error fault =>
      rw [conversion?_of_error came, Option.none_or, next_of_error came]
      exact stands
  | ok binding =>
      rw [next_of_ok came]
      cases call with
      | convert query given =>
          rw [conversion?_convert came, Option.some_or]
          exact stands_of_conversion came
      | dump params =>
          rw [conversion?_dump, Option.none_or]
          exact stands.dump came

end View

end Family

end QueryBind
