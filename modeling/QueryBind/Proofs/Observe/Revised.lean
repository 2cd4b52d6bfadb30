import QueryBind.Observe.Trace
import QueryBind.Proofs.Value.Merging

/-! # Spans with another value

Two runs may differ in nothing but the value that an attribute of one span takes. Revising that
value in the spans of one run then gives the spans of the other. A revision takes back the value
that an attribute was defined with (`Span.revise_define`), and all that happens to a span otherwise
may happen before or after it.
-/

namespace QueryBind

namespace Fields

/-- The fields with another value for a name, if it is there. -/
def revise (fields : Fields) (name : String) (value : Value) : Fields :=
  fields.map fun field => (field.1, if field.1 = name then value else field.2)

private theorem revise_of_not_mem {fields : Fields} {name : String} (absent : name ∉ fields.names)
    (value : Value) : fields.revise name value = fields := by
  refine (List.map_congr_left fun field among => ?_).trans (List.map_id fields)
  have other : field.1 ≠ name := fun same => absent (same ▸ List.mem_map_of_mem among)
  rw [if_neg other]
  rfl

/-- What a name is revised to does not show once it is defined. -/
theorem define_revise (fields : Fields) (name : String) (first second : Value) :
    (fields.revise name first).define name second = fields.define name second := by
  cases known : fields.contains name with
  | false =>
      rw [revise_of_not_mem (contains_eq_false_iff.mp known)]
  | true =>
      have still : (fields.revise name first).contains name = true := by
        rw [← known, contains, contains, revise, List.any_map]
        rfl
      rw [define, define, known, still, if_pos rfl, if_pos rfl, revise, List.map_map]
      refine List.map_congr_left fun field _ => ?_
      by_cases same : field.1 = name <;> simp [same]

/-- A name that was defined is revised. -/
theorem revise_define (fields : Fields) (name : String) (first second : Value) :
    (fields.define name first).revise name second = fields.define name second := by
  have mapped := map_define (fun other held => if other = name then second else held) fields name
    first
  rw [if_pos rfl] at mapped
  exact mapped.trans (define_revise fields name second second)

/-- Another name may be defined before or after a revision. -/
theorem revise_define_of_ne (fields : Fields) {name other : String} (different : other ≠ name)
    (held value : Value) :
    (fields.define other held).revise name value =
      (fields.revise name value).define other held := by
  have mapped := map_define (fun own given => if own = name then value else given) fields other held
  rw [if_neg different] at mapped
  exact mapped

end Fields

namespace Span

/-- The span with another value for an attribute, if it has it. -/
def revise (span : Span) (name : String) (value : Value) : Span :=
  { span with attributes := { span.attributes with
      fields := span.attributes.fields.revise name value } }

variable (span : Span) (name : String) (value : Value)

/-- A value that was defined is revised. -/
theorem revise_define (held : Value) :
    (span.define name held).revise name value = span.define name value :=
  congrArg (fun fields => { span with attributes := { span.attributes with fields } })
    (Fields.revise_define span.attributes.fields name held value)

variable {name} in
/-- Another attribute may be defined before or after a revision. -/
theorem revise_define_of_ne {other : String} (different : other ≠ name) (held : Value) :
    (span.define other held).revise name value = (span.revise name value).define other held :=
  congrArg (fun fields => { span with attributes := { span.attributes with fields } })
    (Fields.revise_define_of_ne span.attributes.fields different held value)

private theorem revise_fail (error : Origin) :
    (span.fail error).revise name value = (span.revise name value).fail error := by
  have status : (span.revise name value).status = span.status := rfl
  unfold fail
  rw [status]
  split <;> rfl

end Span

namespace Tracer

variable (tracer : Tracer) (index : Nat)

/-- Two changes of one span are one. -/
theorem modify_modify (first second : Span → Span) :
    (tracer.modify index first).modify index second =
      tracer.modify index fun span => second (first span) := by
  unfold modify
  split
  · simp only [*, List.modify_modify_eq]
    rfl
  · rfl

/-- Changes of one span that may be made in either order. -/
theorem modify_comm {first second : Span → Span}
    (either : ∀ span, second (first span) = first (second span)) :
    (tracer.modify index first).modify index second =
      (tracer.modify index second).modify index first := by
  rw [modify_modify, modify_modify, funext either]

/-- The tracer with another value for an attribute of one span. -/
def revise (name : String) (value : Value) : Tracer :=
  tracer.modify index (·.revise name value)

/-- How a span ends does not depend on its attributes. -/
theorem failSpan_revise (name : String) (value : Value) (fault : Fault) :
    (tracer.revise index name value).failSpan index fault =
      ((tracer.failSpan index fault).1,
        (tracer.failSpan index fault).2.revise index name value) := by
  have recording : (tracer.revise index name value).recording = tracer.recording := by
    unfold revise modify
    split <;> simp [*]
  have unset : ((tracer.revise index name value).spans[index]?).any (·.status = .unset) =
      (tracer.spans[index]?).any (·.status = .unset) := by
    unfold revise modify
    split
    · rw [List.getElem?_modify_eq]
      cases tracer.spans[index]? <;> rfl
    · rfl
  have closes : ((tracer.revise index name value).modify index fun span =>
        { span with ended := true }) =
      (tracer.modify index fun span => { span with ended := true }).revise index name value :=
    tracer.modify_comm index fun _ => rfl
  unfold failSpan
  rw [recording, unset, closes]
  split
  · cases originOf fault with
    | error other => rfl
    | ok origin =>
        exact congrArg (Prod.mk fault)
          (tracer.modify_comm index fun span => (span.revise_fail name value origin).symm)
  · rfl

end Tracer

end QueryBind
