import QueryBind.Converter.Basic

/-! # The shared converter

Where no converter is given, one is shared. It is made with the standard configuration when
it is first asked for, and can be replaced or dropped. Converters are numbered as they come,
so that two answers can be seen to be the same converter.
-/

namespace QueryBind

/-- The place of the shared converter. -/
structure Shared where
  /-- How many converters have been here. -/
  seen : Nat := 0
  /-- The converter with its number. -/
  current : Option (Nat × Converter) := none

namespace Shared

/-- The place with this converter in it. -/
def install (shared : Shared) (converter : Converter) : Shared :=
  ⟨shared.seen + 1, some (shared.seen, converter)⟩

/-- The place with no converter in it. -/
def reset (shared : Shared) : Shared :=
  { shared with current := none }

/-- The shared converter with its number. -/
def get (shared : Shared) : Except Fault ((Nat × Converter) × Shared) :=
  match shared.current with
  | some held => .ok (held, shared)
  | none => do
    let fresh ← Converter.make .undefined
    return ((shared.seen, fresh), shared.install fresh)

/-- Changes the shared converter and keeps its number. -/
def update (shared : Shared) (converter : Converter) : Shared :=
  { shared with current := shared.current.map fun held => (held.1, converter) }

end Shared

end QueryBind
