import QueryBind.Converter.Telemetry
import QueryBind.Execution.Executor

/-! # What operators see

Counters, spans and journals as an execution changes them. A counter is known by the key of its
series, so it takes the keys of different series to be different. The span of an execution is the
last one, and stays the last one while it is open.
-/

namespace QueryBind

namespace Metrics

/-- An increment adds to the counter of its own key, and to no other. -/
theorem counter_increment (metrics : Metrics) (name : String) (amount : Number) (tags : Tags)
    (otherName : String) (otherTags : Tags) :
    (metrics.increment name amount tags).counter otherName otherTags =
      if seriesKey otherName otherTags = seriesKey name tags then
        (metrics.counter name tags).addNumber amount
      else metrics.counter otherName otherTags := by
  unfold increment counter
  simp only [lookup_update]
  split
  · rfl
  · rfl

end Metrics

/-! ## Keys of series -/

/-- A series with one tag. -/
theorem seriesKey_singleton (name tag : String) (units : List UInt16) :
    seriesKey name [(tag, units)] =
      Text.units name ++ Text.units "\x7b" ++ (Text.units tag ++ Text.units "=" ++ units) ++
        Text.units "\x7d" := by
  simp [seriesKey, Tags.sorted, List.intercalate]

/-- Counters of errors are told apart by their codes. -/
theorem seriesKey_errors_inj {code other : List UInt16} :
    seriesKey MetricName.errors [("code", code)] = seriesKey MetricName.errors [("code", other)] ↔
      code = other := by
  simp [seriesKey_singleton]

/-- How an execution ended, as its counter calls it. -/
def statusName (succeeded : Bool) : String :=
  if succeeded then "success" else "error"

/-- The tags of a query come in the order of their names. -/
theorem seriesKey_queries (variant : Variant) (status : String) :
    seriesKey MetricName.queries (Executor.queryTags variant status) =
      Text.units MetricName.queries ++ Text.units "\x7b" ++
        (Text.units "status" ++ Text.units "=" ++ Text.units status ++ Text.units "," ++
          (Text.units "variant" ++ Text.units "=" ++ Text.units variant.name)) ++
        Text.units "\x7d" := by
  have behind : Text.nameLe "variant" "status" = false := by decide
  simp [seriesKey, Executor.queryTags, Tags.ofTexts, Tags.sorted, List.mergeSort,
    List.MergeSort.Internal.splitInTwo, behind, List.intercalate]

/-- Counters of queries are told apart by variant and status. -/
theorem seriesKey_queries_inj {variant other : Variant} {succeeded again : Bool} :
    seriesKey MetricName.queries (Executor.queryTags variant (statusName succeeded)) =
        seriesKey MetricName.queries (Executor.queryTags other (statusName again)) ↔
      variant = other ∧ succeeded = again := by
  rw [seriesKey_queries, seriesKey_queries]
  cases variant <;> cases other <;> cases succeeded <;> cases again <;> decide

/-- No counter of queries is one of errors. -/
theorem seriesKey_queries_ne_errors (variant : Variant) (succeeded : Bool) (code : List UInt16) :
    seriesKey MetricName.queries (Executor.queryTags variant (statusName succeeded)) ≠
      seriesKey MetricName.errors [("code", code)] := by
  intro same
  -- The names of the series differ in their ninth unit.
  have ninth := congrArg (·[8]?) same
  rw [seriesKey_queries, seriesKey_singleton] at ninth
  simp only [List.append_assoc] at ninth
  rw [List.getElem?_append_left (by decide), List.getElem?_append_left (by decide)] at ninth
  revert ninth
  decide

/-! ## Spans -/

namespace Tracer

/-- The last span of a recording tracer. -/
def Last (tracer : Tracer) (past : List Span) (span : Span) : Prop :=
  tracer.recording = true ∧ tracer.spans = past ++ [span]

variable {tracer : Tracer} {past : List Span} {span : Span}

/-- A span that was started is the last one. -/
theorem last_start (recording : tracer.recording = true) (name : String) (attributes : Fields) :
    (tracer.start name attributes).Last tracer.spans
      ⟨name, ⟨.root, Fields.ofList attributes⟩, .unset, none, false⟩ := by
  unfold start
  rw [if_pos recording]
  exact ⟨recording, rfl⟩

/-- Changing the last span leaves those before it as they are. -/
theorem Last.modify (last : tracer.Last past span) (change : Span → Span) :
    (tracer.modify past.length change).Last past (change span) := by
  obtain ⟨recording, spans⟩ := last
  unfold Tracer.modify
  rw [if_pos recording]
  refine ⟨recording, ?_⟩
  rw [spans]
  exact List.modifyTailIdx_add (List.modifyHead change) 0 past [span]

/-- A span that has an error already keeps it when it ends, and the fault is passed on. -/
theorem Last.failSpan (last : tracer.Last past span) (failed : span.status = .error)
    (fault : Fault) :
    tracer.failSpan past.length fault =
      (fault, tracer.modify past.length fun span => { span with ended := true }) := by
  have marked : (tracer.spans[past.length]?).any (·.status = .unset) = false := by
    rw [last.2, List.getElem?_concat_length, Option.any_some, failed]
    rfl
  unfold Tracer.failSpan
  rw [marked, Bool.and_false]
  rfl

/-- An error that can be recorded is passed on. -/
theorem fst_failSpan {fault : Fault} {origin : Origin} (told : originOf fault = .ok origin)
    (index : Nat) : (tracer.failSpan index fault).1 = fault := by
  unfold failSpan
  rw [told]
  split
  · rfl
  · rfl

end Tracer

/-! ## Journals -/

namespace Telemetry

/-- What was logged about failures. -/
def failures (telemetry : Telemetry) : Journal :=
  telemetry.journal.filter (·.level = .error)

/-- An entry of a milder level is no failure. -/
theorem failures_log_of_ne {level : Level} (milder : level ≠ .error) (telemetry : Telemetry)
    (message : String) (context : Fields) :
    (telemetry.log level message context).failures = telemetry.failures := by
  simp [failures, log, Journal.write, List.filter_append, milder]

/-- An entry of the level of errors is one failure more. -/
theorem failures_log_error (telemetry : Telemetry) (message : String) (context : Fields) :
    (telemetry.log .error message context).failures =
      telemetry.failures ++ [⟨.error, message, Fields.merge telemetry.standing context⟩] := by
  simp [failures, log, Journal.write, List.filter_append]

end Telemetry

end QueryBind
