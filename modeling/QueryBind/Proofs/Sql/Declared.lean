import QueryBind.Proofs.Outcome
import QueryBind.Sql.Composable

/-! # Queries and parameters as they are declared

A rendering function is declared to return a buffer. One that forgets to return anything yields
nothing, which is seen where its bytes are wanted; any other result is outside of what is said here,
and so is an object that inherits from one of another kind and passes for it without being one
(`Sql.isDeclared`, `Value.isGenuine`). Among declared queries those that yield nothing are known by
their rendering functions (`Sql.rendering_eq_none_iff`).
-/

namespace QueryBind

namespace Value

/-- The object at the end of a chain of heirs. -/
def origin : Value → Value
  | .derived parent _ => origin parent
  | value => value

/-- Whether the heirs of an object are what they look like. Records and composable objects of the
library are used by their fields; all other objects have a kind of their own, which is not
inherited. -/
def hasGenuineHeirs : Value → Bool
  | .record _ | .bareRecord _ | .classInstance _ _ | .selfRecord => true
  | .sql _ | .identifier _ | .literal _ | .composed _ => true
  | _ => false

mutual

/-- No object in a value inherits from one of another kind. -/
def isGenuine : Value → Bool
  | .list items | .set items | .composed items => areGenuine items
  | .map entries => entriesGenuine entries
  | .record fields | .bareRecord fields | .classInstance _ fields => fieldsGenuine fields
  | .derived parent fields =>
    parent.origin.hasGenuineHeirs && isGenuine parent && fieldsGenuine fields
  | .literal inner | .boxed inner | .function inner => isGenuine inner
  | _ => true

/-- No item passes for one of another kind. -/
def areGenuine : List Value → Bool
  | [] => true
  | item :: rest => isGenuine item && areGenuine rest

/-- No key and no value of a map does. -/
def entriesGenuine : List (Value × Value) → Bool
  | [] => true
  | (key, value) :: rest => isGenuine key && isGenuine value && entriesGenuine rest

/-- No field does. -/
def fieldsGenuine : List (String × Value) → Bool
  | [] => true
  | (_, value) :: rest => isGenuine value && fieldsGenuine rest

end

/-- The field that an object of the library is rendered from. An heir with such a field of its own
is rendered from that. -/
def contentField? : Value → Option String
  | .sql _ => some "text"
  | .identifier _ => some "names"
  | .literal _ => some "value"
  | .composed _ => some "items"
  | _ => none

/-- The field of an object that renders it, its own or an inherited one. Objects of the library have
functions of their own kind. -/
def renderer? : Value → Option Value
  | .record fields | .bareRecord fields | .classInstance _ fields => Fields.get? fields "asBytes"
  | .derived parent fields => (Fields.get? fields "asBytes").or (renderer? parent)
  | _ => none

end Value

namespace Sql

/-- Whether a rendering function, if it is one, returns a buffer or nothing. -/
def isDeclaredRenderer : Value → Bool
  | .function (.buffer _) | .function .undefined => true
  | .function _ => false
  | _ => true

mutual

/-- A query that is put together as it is declared: all rendering functions in it return buffers, if
they return anything, what it inherits from can be inherited from, and so it is with the values of
its literals. -/
def isDeclared : Value → Bool
  | .composed items => areDeclared items
  | .literal value => value.isGenuine
  | .record fields | .bareRecord fields | .classInstance _ fields =>
    (Fields.get? fields "asBytes").all isDeclaredRenderer
  | .derived parent fields =>
    parent.origin.hasGenuineHeirs &&
      parent.origin.contentField?.all (fun name => !Fields.contains fields name) &&
      (Fields.get? fields "asBytes").all isDeclaredRenderer && isDeclared parent
  | _ => true

/-- All items are. -/
def areDeclared : List Value → Bool
  | [] => true
  | item :: rest => isDeclared item && areDeclared rest

end

/-- An object whose rendering function returns nothing. -/
def YieldsNothing (item : Value) : Prop :=
  item.renderer? = some (.function .undefined)

/-- A declared rendering yields nothing exactly if it is a function that returns nothing. -/
theorem renderOwn_eq_none_iff {own : Value} (declared : isDeclaredRenderer own = true) :
    renderOwn own = .ok none ↔ own = .function .undefined := by
  constructor
  · intro yields
    cases own with
    | function result =>
        cases result with
        | undefined => rfl
        | buffer bytes => cases yields
        | _ => cases declared
    | _ => cases yields
  · rintro rfl
    rfl

private theorem map_some_ne_ok_none {ε α : Type} (outcome : Except ε α) :
    outcome.map some ≠ .ok none := by
  intro same
  obtain ⟨_, _, never⟩ := Outcome.map_eq_ok.mp same
  cases never

/-- A declared object yields nothing exactly if its rendering function returns nothing. -/
theorem rendering_eq_none_iff (transformer : Transformer) {item : Value}
    (declared : isDeclared item = true) :
    rendering transformer item = .ok none ↔ YieldsNothing item := by
  have own (fields : Fields)
      (sound : (Fields.get? fields "asBytes").all isDeclaredRenderer = true) :
      ((Fields.get? fields "asBytes").map renderOwn).getD (.error noRendering) = .ok none ↔
        Fields.get? fields "asBytes" = some (.function .undefined) := by
    cases found : Fields.get? fields "asBytes" with
    | none => exact iff_of_false nofun nofun
    | some held =>
        rw [found] at sound
        exact (renderOwn_eq_none_iff sound).trans (Option.some_inj).symm
  match item with
  | .sql source =>
      rw [rendering]
      exact iff_of_false (map_some_ne_ok_none _) nofun
  | .literal value =>
      rw [rendering]
      exact iff_of_false (map_some_ne_ok_none _) nofun
  | .identifier names =>
      rw [rendering]
      refine iff_of_false (fun same => ?_) nofun
      obtain ⟨_, _, later⟩ := Outcome.bind_eq_ok.mp same
      obtain ⟨_, _, never⟩ := Outcome.bind_eq_ok.mp later
      cases never
  | .composed items =>
      rw [rendering]
      refine iff_of_false (fun same => ?_) nofun
      obtain ⟨_, _, later⟩ := Outcome.bind_eq_ok.mp same
      obtain ⟨_, _, never⟩ := Outcome.bind_eq_ok.mp later
      cases never
  | .record fields | .bareRecord fields | .classInstance _ fields =>
      rw [rendering]
      exact own fields declared
  | .derived parent fields =>
      rw [isDeclared, Bool.and_eq_true_iff, Bool.and_eq_true_iff] at declared
      obtain ⟨⟨_, sound⟩, inherited⟩ := declared
      rw [rendering, YieldsNothing, Value.renderer?]
      cases found : Fields.get? fields "asBytes" with
      | none => exact rendering_eq_none_iff transformer inherited
      | some held =>
          rw [found] at sound
          exact (renderOwn_eq_none_iff sound).trans (Option.some_inj).symm
  | .undefined | .hole | .null | .bool _ | .number _ | .bigint _ | .text _ | .brokenText _
  | .symbol _ | .function _ | .list _ | .map _ | .set _ | .buffer _ | .octets _ | .words _
  | .date _ | .boxed _ | .selfRecord | .selfList =>
      refine iff_of_false (fun same => ?_) nofun
      cases same

end Sql

end QueryBind
