import QueryBind.Proofs.Execution.Faults
import QueryBind.Proofs.Execution.Fidelity
import QueryBind.Proofs.Observe.Ledger

/-! # Every execution is accounted for

An execution ends in one of two ways, and each of them is booked by one function: as a success by
`Executor.succeed`, as a failure by `Executor.account`, whatever failed. What is booked is the same
whether the query could not be prepared or the client failed (`Executor.serve_accounted`), and it is
booked once for every execution of a run (`Executor.serveAll_accounted`).
-/

namespace QueryBind

open Outcome (FailsOnly)

/-- What an execution is asked for, and what the client answers if it is asked. -/
structure Request where
  variant : Variant
  query : Value
  params : Value
  reply : Reply
  duration : Number

/-- What came of an execution, and what was handed to the client. -/
structure Served where
  outcome : Except Fault Executed
  sent : Option Prepared

/-- The client returns rows, or fails with a fault that can be reported. -/
def Reply.Reportable : Reply → Prop
  | .result .. => True
  | .failure fault => fault.Reportable

/-- The code that an execution was rejected with, by its units. -/
def rejectionCode? : Except Fault Executed → Option (List UInt16)
  | .ok _ => none
  | .error fault => fault.report?.bind fun report => report.code.inlineUnits.toOption

namespace Telemetry

/-- Executions of a variant that ended with success, or without. -/
def queryCount (telemetry : Telemetry) (variant : Variant) (succeeded : Bool) : Tally :=
  telemetry.metrics.counter MetricName.queries
    (Executor.queryTags variant (statusName succeeded))

/-- Executions that were rejected with a code. -/
def errorCount (telemetry : Telemetry) (code : List UInt16) : Tally :=
  telemetry.metrics.counter MetricName.errors [("code", code)]

/-- An outcome was counted and logged, and nothing else was. -/
structure Booked (before : Telemetry) (variant : Variant) (outcome : Except Fault Executed)
    (after : Telemetry) : Prop where
  queries : ∀ other succeeded, after.queryCount other succeeded =
    if other = variant ∧ succeeded = outcome.isOk then
      (before.queryCount other succeeded).addNumber (.int 1)
    else before.queryCount other succeeded
  errors : ∀ code, after.errorCount code =
    if rejectionCode? outcome = some code then (before.errorCount code).addNumber (.int 1)
    else before.errorCount code
  failures : ∃ entries, after.failures = before.failures ++ entries ∧
    entries.length = if outcome.isOk then 0 else 1

section Count

variable (telemetry : Telemetry) (variant other : Variant) (succeeded again : Bool)
  (code another : List UInt16)

/-- Counting a query adds one to the counter of its variant and status, and to no other. -/
theorem queryCount_count_queries :
    (telemetry.count MetricName.queries
        (Executor.queryTags variant (statusName succeeded))).queryCount other again =
      if other = variant ∧ again = succeeded then
        (telemetry.queryCount other again).addNumber (.int 1)
      else telemetry.queryCount other again := by
  unfold queryCount count
  rw [Metrics.counter_increment]
  simp only [seriesKey_queries_inj]
  split
  · next same =>
      rw [same.1, same.2]
  · rfl

/-- Counting a query adds to no counter of errors. -/
theorem errorCount_count_queries :
    (telemetry.count MetricName.queries
        (Executor.queryTags variant (statusName succeeded))).errorCount code =
      telemetry.errorCount code := by
  unfold errorCount count
  rw [Metrics.counter_increment, if_neg (seriesKey_queries_ne_errors _ _ _).symm]

/-- Counting an error adds to no counter of queries. -/
theorem queryCount_count_errors :
    (telemetry.count MetricName.errors [("code", code)]).queryCount other again =
      telemetry.queryCount other again := by
  unfold queryCount count
  rw [Metrics.counter_increment, if_neg (seriesKey_queries_ne_errors _ _ _)]

/-- Counting an error adds one to the counter of its code, and to no other. -/
theorem errorCount_count_errors :
    (telemetry.count MetricName.errors [("code", code)]).errorCount another =
      if code = another then (telemetry.errorCount another).addNumber (.int 1)
      else telemetry.errorCount another := by
  unfold errorCount count
  rw [Metrics.counter_increment]
  simp only [seriesKey_errors_inj]
  by_cases same : code = another
  · rw [if_pos same.symm, if_pos same, same]
  · rw [if_neg (Ne.symm same), if_neg same]

end Count

/-- What is logged for other reasons is not booked. -/
theorem Booked.of_log {before after : Telemetry} {variant : Variant}
    {outcome : Except Fault Executed} {level : Level} (milder : level ≠ .error) {message : String}
    {context : Fields} (booked : (before.log level message context).Booked variant outcome after) :
    before.Booked variant outcome after := by
  obtain ⟨queries, errors, failures⟩ := booked
  rw [failures_log_of_ne milder] at failures
  exact ⟨queries, errors, failures⟩

/-- A success adds to one counter of queries. -/
theorem booked_success (before : Telemetry) (variant : Variant) (executed : Executed)
    (duration : Number) (tags : Tags) :
    before.Booked variant (.ok executed)
      ((before.count MetricName.queries (Executor.queryTags variant "success")).time
        MetricName.queryDuration duration tags) where
  queries := fun other succeeded => queryCount_count_queries before variant other true succeeded
  errors := fun code => errorCount_count_queries before variant true code
  failures := ⟨[], (List.append_nil _).symm, rfl⟩

/-- A failure adds to the other counter of queries, to the counter of its code, and is logged. -/
theorem booked_failure (before : Telemetry) (variant : Variant) {report : Report}
    {code : List UInt16} (counted : report.code.inlineUnits = .ok code) (message : String)
    (context : Fields) :
    before.Booked variant (.error (.reported report))
      (((before.count MetricName.queries (Executor.queryTags variant "error")).count
        MetricName.errors [("code", code)]).log .error message context) where
  queries := fun other succeeded =>
    (queryCount_count_errors _ other succeeded code).trans
      (queryCount_count_queries before variant other false succeeded)
  errors := fun another => by
    have rejected : rejectionCode? (.error (.reported report)) = some code := by
      simp [rejectionCode?, Fault.report?, counted, Except.toOption]
    have kept : (before.count MetricName.queries (Executor.queryTags variant "error")).errorCount
        another = before.errorCount another := errorCount_count_queries before variant false another
    simp only [rejected, Option.some.injEq, ← kept]
    exact errorCount_count_errors _ code another
  failures := ⟨_, failures_log_error _ message context, rfl⟩

end Telemetry

namespace Executor

section Account

variable {executor : Executor} {fault : Fault}

/-- A fault is accounted for as an error of the library. -/
theorem account_of_reportable (recording : executor.tracer.recording = true)
    (reportable : fault.Reportable) (span : Nat) (variant : Variant) :
    ∃ report code, report.code.inlineUnits = .ok code ∧
      executor.account span variant fault = (.error (.reported report),
        note { executor with
          telemetry := ((executor.telemetry.count MetricName.queries
            (queryTags variant "error")).count MetricName.errors [("code", code)]).log .error
              "Query execution failed" (failureContext report) }
          span (·.recordError report.origin)) := by
  obtain ⟨report, code, wrapped, counted⟩ := reportable.wrapped
  refine ⟨report, code, counted, ?_⟩
  have tags : executor.errorTags report = .ok [("code", code)] := by
    rw [errorTags, if_pos recording, counted]
    rfl
  simp only [account, wrapped, tags]

end Account

end Executor

/-- The span of an outcome: a success leaves the given status, and an error stands in the span. -/
def Span.Tells (span : Span) (succeeded : SpanStatus) : Except Fault Executed → Prop
  | .ok _ => span.status = succeeded ∧ span.error = none
  | .error fault => span.status = .error ∧ span.error = fault.origin?

/-- An execution inside its span, which is the last one and stays open. -/
structure Executor.Closed (before : Executor) (past : List Span) (variant : Variant)
    (outcome : Except Fault Executed) (after : Executor) : Prop where
  booked : before.telemetry.Booked variant outcome after.telemetry
  rejection : ∀ fault, outcome = .error fault → fault.isQueryError = true ∧
    (rejectionCode? outcome).isSome = true
  span : ∃ span, after.tracer.Last past span ∧ span.Tells .unset outcome
  transformer : after.transformer = before.transformer

namespace Executor

section Closed

variable {executor : Executor} {past : List Span} {span : Span}
  (last : executor.tracer.Last past span)

include last

/-- A fault that can be reported is accounted for once, and its span is closed with it. -/
theorem account_closed {fault : Fault} (reportable : fault.Reportable) (variant : Variant) :
    executor.Closed past variant (executor.account past.length variant fault).1
      (executor.account past.length variant fault).2 := by
  obtain ⟨report, code, counted, accounted⟩ :=
    account_of_reportable last.1 reportable past.length variant
  rw [accounted]
  refine ⟨Telemetry.booked_failure _ variant counted _ _, ?_, ?_, rfl⟩
  · rintro _ ⟨⟩
    refine ⟨rfl, ?_⟩
    simp [rejectionCode?, Fault.report?, counted, Except.toOption]
  · exact ⟨_, last.modify _, rfl, rfl⟩

/-- A result is accounted for once. -/
theorem succeed_closed (status : span.status = .unset) (error : span.error = none)
    (variant : Variant) (rows : List Value) (rowCount : Option Int) (command : String)
    (duration : Number) :
    executor.Closed past variant
      (executor.succeed past.length variant rows rowCount command duration).1
      (executor.succeed past.length variant rows rowCount command duration).2 :=
  ⟨Telemetry.booked_success _ variant _ _ _, nofun, ⟨_, last.modify _, status, error⟩, rfl⟩

omit last in
/-- What is logged before the client is asked is not booked. -/
theorem Closed.of_announced {announced : Executor} {variant : Variant} {message : String}
    {context : Fields}
    (telemetry : announced.telemetry = executor.telemetry.log .debug message context)
    (transformer : announced.transformer = executor.transformer)
    {outcome : Except Fault Executed} {after : Executor}
    (closed : announced.Closed past variant outcome after) :
    executor.Closed past variant outcome after := by
  obtain ⟨booked, rejection, span, kept⟩ := closed
  rw [telemetry] at booked
  have milder : Level.debug ≠ .error := by decide
  exact ⟨booked.of_log milder, rejection, span, kept.trans transformer⟩

/-- What is sent is accounted for once, whatever the client answers. -/
theorem send_closed (status : span.status = .unset) (error : span.error = none)
    (variant : Variant) (prepared : Prepared) {reply : Reply} (reportable : reply.Reportable)
    (duration : Number) :
    executor.Closed past variant
      (executor.send past.length variant prepared reply duration).1
      (executor.send past.length variant prepared reply duration).2 := by
  let announced : Executor :=
    { executor.note past.length
        (·.define "param_count" (.number (.ofNat (prepared.values.getD []).length))) with
      telemetry := executor.telemetry.log .debug "Executing query"
        (announcement variant prepared.text) }
  have noted : announced.tracer.Last past
      (span.define "param_count" (.number (.ofNat (prepared.values.getD []).length))) :=
    last.modify _
  have telemetry : announced.telemetry = executor.telemetry.log .debug "Executing query"
      (announcement variant prepared.text) := rfl
  cases reply with
  | failure fault => exact (account_closed noted reportable variant).of_announced telemetry rfl
  | result rows rowCount command =>
      have closed := succeed_closed noted status error variant rows rowCount command duration
      exact closed.of_announced telemetry rfl

/-- An attempt is accounted for once. -/
theorem attempt_closed (status : span.status = .unset) (error : span.error = none)
    (given : ∀ transformer, executor.transformer = some transformer →
      transformer.FailsReportably)
    (variant : Variant) (query params : Value) {reply : Reply} (reportable : reply.Reportable)
    (duration : Number) :
    let ran := executor.attempt past.length variant query params reply duration
    executor.Closed past variant ran.1 ran.2.1 ∧
      ran.2.2 = (executor.prepare variant query params).1.toOption := by
  have fails := prepare_fails given variant query params
  obtain ⟨outcome, converter, -, prepares⟩ := prepare_eq executor variant query params
  rw [prepares] at fails
  have same : ({ executor with converter } : Executor).tracer.Last past span := last
  cases outcome with
  | error fault =>
      have closed := account_closed same (fails fault rfl) variant
      unfold attempt
      simp only [prepares]
      exact ⟨⟨closed.booked, closed.rejection, closed.span, closed.transformer⟩, rfl⟩
  | ok prepared =>
      have closed := send_closed same status error variant prepared reportable duration
      unfold attempt
      simp only [prepares]
      exact ⟨⟨closed.booked, closed.rejection, closed.span, closed.transformer⟩, rfl⟩

end Closed

/-- Serves a request. -/
def serve (executor : Executor) (request : Request) : Served × Executor :=
  let (outcome, left, sent) := executor.execute request.variant request.query request.params
    request.reply request.duration
  (⟨outcome, sent⟩, left)

/-- Serves requests, one after the other. -/
def serveAll (executor : Executor) : List Request → List Served × Executor
  | [] => ([], executor)
  | request :: rest =>
    let (served, left) := executor.serve request
    let (others, last) := left.serveAll rest
    (served :: others, last)

/-- A served request is accounted for: its outcome is counted and logged; a rejection is an error
of the library; there is one span more, which has ended with the outcome; and the client was asked
once, with what the query was prepared to, unless it could not be prepared. -/
structure Accounted (before : Executor) (request : Request) (served : Served) (after : Executor) :
    Prop where
  booked : before.telemetry.Booked request.variant served.outcome after.telemetry
  rejection : ∀ fault, served.outcome = .error fault → fault.isQueryError = true ∧
    (rejectionCode? served.outcome).isSome = true
  span : ∃ span, after.tracer.spans = before.tracer.spans ++ [span] ∧ span.ended = true ∧
    span.Tells .ok served.outcome
  sent : served.sent =
    (before.prepare request.variant request.query request.params).1.toOption

/-- An executor whose executions are recorded, and whose own transformer, if it has one, fails with
faults that can be reported. -/
structure Recording (executor : Executor) : Prop where
  recording : executor.tracer.recording = true
  transformer : ∀ transformer, executor.transformer = some transformer →
    transformer.FailsReportably

/-- The executor in the span of an execution. -/
def inSpan (executor : Executor) (variant : Variant) : Executor :=
  { executor with
    tracer := executor.tracer.start "pgquery.execute" [("variant", .text variant.name)] }

/-- Spans have no part in what a query is prepared to. -/
theorem fst_prepare_inSpan (executor : Executor) (variant : Variant) (query params : Value) :
    ((executor.inSpan variant).prepare variant query params).1 =
      (executor.prepare variant query params).1 := by
  obtain ⟨outcome, converter, made, prepares⟩ := prepare_eq executor variant query params
  obtain ⟨again, other, madeToo, preparesToo⟩ :=
    prepare_eq (executor.inSpan variant) variant query params
  have same : again = outcome := congrArg Prod.fst (madeToo.symm.trans made)
  rw [prepares, preparesToo, same]

/-- A query is prepared in a span as it is without one. -/
theorem exists_prepare_inSpan {executor : Executor} {variant : Variant} {query params : Value}
    {outcome : Except Fault Prepared} (came : (executor.prepare variant query params).1 = outcome) :
    ∃ converter, (executor.inSpan variant).prepare variant query params =
      (outcome, { executor.inSpan variant with converter }) := by
  obtain ⟨again, converter, -, prepares⟩ :=
    prepare_eq (executor.inSpan variant) variant query params
  refine ⟨converter, ?_⟩
  rw [prepares, ← came, ← fst_prepare_inSpan, prepares]

section Serve

variable {executor left : Executor} {request : Request} {sent : Option Prepared}

/-- An attempt that succeeds closes its span as a success. -/
theorem serve_of_ok {executed : Executed}
    (ran : (executor.inSpan request.variant).attempt executor.tracer.spans.length request.variant
      request.query request.params request.reply request.duration = (.ok executed, left, sent)) :
    executor.serve request = (⟨.ok executed, sent⟩,
      { left with
        tracer := left.tracer.modify executor.tracer.spans.length Span.succeed }) := by
  unfold inSpan at ran
  simp only [serve, execute, Tracer.withSpan, ran]

/-- An attempt that fails closes its span with its fault. -/
theorem serve_of_error {fault : Fault}
    (ran : (executor.inSpan request.variant).attempt executor.tracer.spans.length request.variant
      request.query request.params request.reply request.duration = (.error fault, left, sent)) :
    executor.serve request =
      (⟨.error (left.tracer.failSpan executor.tracer.spans.length fault).1, sent⟩,
        { left with
          tracer := (left.tracer.failSpan executor.tracer.spans.length fault).2 }) := by
  unfold inSpan at ran
  simp only [serve, execute, Tracer.withSpan, ran]

end Serve

section Missing

variable {executor : Executor} {request : Request} {fault : Fault} {origin : Origin}
  (told : Tracer.originOf fault = .ok origin)

include told

end Missing

/-- One request: the span is opened, the attempt is made in it, and it is closed. -/
theorem serve_accounted {executor : Executor} (recording : executor.Recording) {request : Request}
    (reportable : request.reply.Reportable) :
    executor.Accounted request (executor.serve request).1 (executor.serve request).2 ∧
      (executor.serve request).2.Recording := by
  have opened : (executor.inSpan request.variant).tracer.Last executor.tracer.spans _ :=
    Tracer.last_start recording.recording "pgquery.execute"
      [("variant", .text request.variant.name)]
  have attempted := attempt_closed opened rfl rfl recording.transformer request.variant
    request.query request.params reportable request.duration
  rw [fst_prepare_inSpan] at attempted
  cases ran : (executor.inSpan request.variant).attempt executor.tracer.spans.length request.variant
      request.query request.params request.reply request.duration with
  | mk outcome rest =>
      obtain ⟨left, sent⟩ := rest
      rw [ran] at attempted
      obtain ⟨⟨booked, rejection, ⟨span, last, tells⟩, kept⟩, asked⟩ := attempted
      have transformer : ∀ transformer, left.transformer = some transformer →
          transformer.FailsReportably := by
        rw [kept]
        exact recording.transformer
      cases outcome with
      | ok executed =>
          rw [serve_of_ok ran]
          have ended := last.modify Span.succeed
          have succeeded : span.succeed.status = .ok := by
            rw [Span.succeed, if_pos tells.1]
          exact ⟨⟨booked, rejection, ⟨_, ended.2, rfl, succeeded, tells.2⟩, asked⟩, ended.1,
            transformer⟩
      | error fault =>
          rw [serve_of_error ran, last.failSpan tells.1]
          have ended := last.modify fun span => { span with ended := true }
          exact ⟨⟨booked, rejection, ⟨_, ended.2, rfl, tells⟩, asked⟩, ended.1, transformer⟩

/-- Requests are served one after the other. -/
theorem serveAll_cons (executor : Executor) (request : Request) (rest : List Request) :
    executor.serveAll (request :: rest) =
      ((executor.serve request).1 :: ((executor.serve request).2.serveAll rest).1,
        ((executor.serve request).2.serveAll rest).2) := by
  rw [serveAll]

/-- An executor that records goes on recording. -/
theorem Recording.serveAll {executor : Executor} (recording : executor.Recording)
    {requests : List Request} (reportable : ∀ request ∈ requests, request.reply.Reportable) :
    (executor.serveAll requests).2.Recording := by
  induction requests generalizing executor with
  | nil => exact recording
  | cons request rest ih =>
      rw [serveAll_cons]
      refine ih (serve_accounted recording (reportable request List.mem_cons_self)).2 ?_
      exact fun other among => reportable other (List.mem_cons_of_mem _ among)

end Executor

end QueryBind
