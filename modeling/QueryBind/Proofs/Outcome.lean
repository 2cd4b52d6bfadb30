/-! # Outcomes

What has to have happened if steps that may fail came to a value, and which errors they can fail
with.
-/

namespace QueryBind.Outcome

variable {ε φ α β : Type} {outcome : Except ε α}

/-- A sequence of two steps succeeds exactly if both do. -/
theorem bind_eq_ok {next : α → Except ε β} {result : β} :
    outcome >>= next = .ok result ↔ ∃ value, outcome = .ok value ∧ next value = .ok result := by
  cases outcome with
  | error fault =>
      constructor
      · intro came
        cases came
      · rintro ⟨_, came, _⟩
        cases came
  | ok value =>
      constructor
      · intro came
        exact ⟨value, rfl, came⟩
      · rintro ⟨_, same, came⟩
        cases same
        exact came

/-- A sequence of two steps fails exactly if the first step does, or the second one behind it. -/
theorem bind_eq_error {next : α → Except ε β} {fault : ε} :
    outcome >>= next = .error fault ↔
      outcome = .error fault ∨ ∃ value, outcome = .ok value ∧ next value = .error fault := by
  cases outcome with
  | error other =>
      constructor
      · intro failed
        exact .inl (congrArg _ (Except.error.inj failed))
      · rintro (same | ⟨_, came, _⟩)
        · exact congrArg _ (Except.error.inj same)
        · cases came
  | ok value =>
      constructor
      · intro failed
        exact .inr ⟨value, rfl, failed⟩
      · rintro (failed | ⟨_, same, failed⟩)
        · cases failed
        · cases same
          exact failed

/-- What is made of a success. -/
theorem map_eq_ok {f : α → β} {result : β} :
    outcome.map f = .ok result ↔ ∃ value, outcome = .ok value ∧ f value = result := by
  cases outcome with
  | error fault =>
      constructor
      · intro came
        cases came
      · rintro ⟨_, came, _⟩
        cases came
  | ok value =>
      constructor
      · intro came
        exact ⟨value, rfl, Except.ok.inj came⟩
      · rintro ⟨_, same, rfl⟩
        cases same
        rfl

/-- Two outcomes that are joined come to a value if both do. -/
theorem exists_join_eq_ok {γ : Type} {second : Except ε β} {join : α → β → γ} :
    (∃ result, (outcome >>= fun first => second >>= fun other => pure (join first other)) =
        .ok result) ↔
      (∃ first, outcome = .ok first) ∧ ∃ other, second = .ok other := by
  simp only [bind_eq_ok]
  constructor
  · rintro ⟨_, first, came, other, behind, _⟩
    exact ⟨⟨first, came⟩, other, behind⟩
  · rintro ⟨⟨first, came⟩, other, behind⟩
    exact ⟨_, first, came, other, behind, rfl⟩

/-- What is made of a success does not change a failure. -/
theorem map_eq_error {f : α → β} {fault : ε} :
    outcome.map f = .error fault ↔ outcome = .error fault := by
  cases outcome with
  | error other => exact ⟨fun came => congrArg _ (Except.error.inj came), fun came => came ▸ rfl⟩
  | ok value =>
      constructor
      · intro came
        cases came
      · intro came
        cases came

/-- A success has a value. -/
theorem exists_of_isOk (came : outcome.isOk = true) : ∃ value, outcome = .ok value := by
  cases outcome with
  | error fault => cases came
  | ok value => exact ⟨value, rfl⟩

/-- Renaming errors does not change a success. -/
theorem mapError_ok (f : ε → φ) (value : α) :
    (.ok value : Except ε α).mapError f = .ok value :=
  rfl

/-- Renaming errors does not change a success. -/
theorem mapError_eq_ok {f : ε → φ} {value : α} :
    outcome.mapError f = .ok value ↔ outcome = .ok value := by
  cases outcome with
  | error fault =>
      constructor
      · intro came
        cases came
      · intro came
        cases came
  | ok other =>
      constructor
      · intro came
        cases came
        rfl
      · intro came
        cases came
        rfl

/-- Not all parts are there exactly if one is missing. -/
theorem mapM_id_eq_none_iff (parts : List (Option α)) : parts.mapM id = none ↔ none ∈ parts := by
  induction parts with
  | nil => simp
  | cons part rest ih =>
      rw [List.mapM_cons]
      cases part with
      | none => simp
      | some item =>
          cases joined : rest.mapM id with
          | none => simp [ih.mp joined]
          | some others => simp [← ih, joined]

/-- Parts that are all there. -/
theorem mapM_id_eq_some_iff {parts : List (Option α)} {items : List α} :
    parts.mapM id = some items ↔ parts = items.map some := by
  induction parts generalizing items with
  | nil => cases items <;> simp
  | cons part rest ih =>
      rw [List.mapM_cons]
      cases part with
      | none => cases items <;> simp
      | some item =>
          cases items with
          | nil => cases rest.mapM id <;> simp
          | cons first others =>
              rw [List.map_cons, List.cons.injEq, ← ih]
              cases rest.mapM id <;> simp

/-- An outcome that is a value, or an error of an allowed kind. -/
def FailsOnly (allowed : ε → Prop) (outcome : Except ε α) : Prop :=
  ∀ error, outcome = .error error → allowed error

section FailsOnly

variable {allowed : ε → Prop}

/-- A success does not fail. -/
theorem failsOnly_ok (value : α) : FailsOnly allowed (.ok value : Except ε α) :=
  nofun

/-- An allowed error is allowed. -/
theorem failsOnly_error {error : ε} (kind : allowed error) :
    FailsOnly allowed (.error error : Except ε α) := by
  rintro _ ⟨⟩
  exact kind

/-- Two steps fail in the ways in which either does. -/
theorem FailsOnly.bind (fails : FailsOnly allowed outcome) {next : α → Except ε β}
    (later : ∀ value, FailsOnly allowed (next value)) : FailsOnly allowed (outcome >>= next) := by
  cases outcome with
  | error error => exact failsOnly_error (fails error rfl)
  | ok value => exact later value

/-- What is made of a success adds no failures. -/
theorem FailsOnly.map (fails : FailsOnly allowed outcome) (f : α → β) :
    FailsOnly allowed (outcome.map f) := by
  cases outcome with
  | error error => exact failsOnly_error (fails error rfl)
  | ok value => exact failsOnly_ok (f value)

/-- More errors may be allowed. -/
theorem FailsOnly.imp (fails : FailsOnly allowed outcome) {other : ε → Prop}
    (weaker : ∀ error, allowed error → other error) : FailsOnly other outcome :=
  fun error failed => weaker error (fails error failed)

/-- The error of a step that also leaves something. -/
theorem FailsOnly.of_fst {γ : Type} {ran : Except ε α × β} (fails : FailsOnly allowed ran.1)
    {error : ε} {left : β} (failed : ran = (.error error, left)) :
    FailsOnly allowed (.error error : Except ε γ) := by
  rw [failed] at fails
  exact failsOnly_error (fails error rfl)

/-- Errors that are renamed are allowed under their new names. -/
theorem FailsOnly.mapError {kind : φ → Prop} {outcome : Except φ α}
    (fails : FailsOnly kind outcome) {wrap : φ → ε}
    (wraps : ∀ error, kind error → allowed (wrap error)) :
    FailsOnly allowed (outcome.mapError wrap) := by
  cases outcome with
  | error error => exact failsOnly_error (wraps error (fails error rfl))
  | ok value => exact failsOnly_ok value

/-- Errors that are wrapped have the kind of their wrapping. -/
theorem failsOnly_mapError {wrap : φ → ε} (kind : ∀ error, allowed (wrap error))
    (outcome : Except φ α) : FailsOnly allowed (outcome.mapError wrap) :=
  FailsOnly.mapError (fun _ _ => trivial) fun error (_ : True) => kind error

end FailsOnly

end QueryBind.Outcome
