import QueryBind.Execution.Prepared
import QueryBind.Execution.Wrapped
import QueryBind.Observe.Trace

/-! # Executors

An executor binds queries and hands them to a client. Every execution is one span, adds to
one counter of queries and is logged; a failed one is reported as an error of this library,
whatever went wrong. Neither literals nor parameters reach the journal.

The client is known by its reply, and time by the duration it is said to have taken.
-/

namespace QueryBind

/-- What a client answers. -/
inductive Reply where
  | result (rows : List Value) (rowCount : Option Int) (command : String)
  | failure (fault : Fault)

/-- The result of a successful execution. -/
structure Executed where
  rows : List Value
  rowCount : Int
  command : String
  duration : Number

/-- An executor. -/
structure Executor where
  converter : Converter
  /-- The transformer of every execution, if it is not the text transformer. -/
  transformer : Option Transformer := none
  /-- The encoding of the text transformer, if it is not the converter's. -/
  encoding : Option String := none
  telemetry : Telemetry := {}
  tracer : Tracer := {}

namespace Executor

/-- The transformer of an execution. -/
def transformerInUse (executor : Executor) : Transformer :=
  executor.transformer.getD
    (.text (executor.encoding.getD executor.converter.config.encoding))

/-- Binds a query to its parameters without executing it. -/
def prepare (executor : Executor) (variant : Variant) (query params : Value) :
    Except Fault Prepared × Executor :=
  let (outcome, converter) :=
    Prepared.make executor.converter executor.transformerInUse variant query params
  (outcome, { executor with converter })

/-- The longest query text that is logged whole. -/
def maxLogged : Nat := 200

/-- A query text as it is logged. The cut may go through a character. -/
def loggedText (text : String) : Value :=
  let units := Text.units text
  if maxLogged < units.length then .ofUnits (units.take maxLogged ++ Text.units "...")
  else .text text

/-- What is logged about a query that is handed over. The text of a query bound on the client
carries the values of its parameters, so it is left out. -/
def announcement (variant : Variant) (text : String) : Fields :=
  match variant with
  | .server => [("query", loggedText text), ("variant", .text variant.name)]
  | .client => [("variant", .text variant.name)]

/-- The tags of the counter of queries. -/
def queryTags (variant : Variant) (status : String) : Tags :=
  .ofTexts [("variant", variant.name), ("status", status)]

/-- Changes the span of an execution. -/
def note (executor : Executor) (span : Nat) (change : Span → Span) : Executor :=
  { executor with tracer := executor.tracer.modify span change }

/-- What is logged about a failed execution. -/
def failureContext (report : Report) : Fields :=
  [("code", report.code), ("sqlState", report.sqlState), ("message", .text report.message)]

/-- The tags of the counter of errors. Where nothing is recorded the code is not looked at. -/
def errorTags (executor : Executor) (report : Report) : Except Fault Tags :=
  if executor.tracer.recording then report.code.inlineUnits.map fun code => [("code", code)]
  else .ok []

/-- Accounts for a fault and reports it as an error of this library. A thrown value without
text cannot be reported: the attempt fails by itself, and nothing is accounted for. A code
without text cannot be counted: the attempt fails by itself behind the first counter. -/
def account (executor : Executor) (span : Nat) (variant : Variant) (fault : Fault) :
    Except Fault Executed × Executor :=
  match fault.wrapped with
  | .error other => (.error other, executor)
  | .ok report =>
    let counted := executor.telemetry.count MetricName.queries (queryTags variant "error")
    match executor.errorTags report with
    | .error other => (.error other, { executor with telemetry := counted })
    | .ok tags =>
      let telemetry := (counted.count MetricName.errors tags).log .error
        "Query execution failed" (failureContext report)
      (.error (.reported report),
        ({ executor with telemetry }).note span (·.recordError report.origin))

/-- Accounts for the client's result. -/
def succeed (executor : Executor) (span : Nat) (variant : Variant) (rows : List Value)
    (rowCount : Option Int) (command : String) (duration : Number) :
    Except Fault Executed × Executor :=
  let telemetry := (executor.telemetry.count MetricName.queries (queryTags variant "success")).time
    MetricName.queryDuration duration (.ofTexts [("variant", variant.name)])
  (.ok ⟨rows.filter Value.isObject, rowCount.getD rows.length, command, duration⟩,
    ({ executor with telemetry }).note span
      (·.define "row_count" (.number (.ofInt (rowCount.getD 0)))))

/-- Hands a prepared query to the client. -/
def send (executor : Executor) (span : Nat) (variant : Variant) (prepared : Prepared)
    (reply : Reply) (duration : Number) : Except Fault Executed × Executor :=
  let counted := executor.note span
    (·.define "param_count" (.number (.ofNat (prepared.values.getD []).length)))
  let announced := { counted with
    telemetry := counted.telemetry.log .debug "Executing query"
      (announcement variant prepared.text) }
  match reply with
  | .failure fault => announced.account span variant fault
  | .result rows rowCount command =>
    announced.succeed span variant rows rowCount command duration

/-- One execution inside its span, with what was handed to the client. -/
def attempt (executor : Executor) (span : Nat) (variant : Variant) (query params : Value)
    (reply : Reply) (duration : Number) :
    Except Fault Executed × Executor × Option Prepared :=
  match executor.prepare variant query params with
  | (.error fault, left) =>
    let (outcome, accounted) := left.account span variant fault
    (outcome, accounted, none)
  | (.ok prepared, left) =>
    let (outcome, done) := left.send span variant prepared reply duration
    (outcome, done, some prepared)

/-- Executes a query with a client that answers as given. -/
def execute (executor : Executor) (variant : Variant) (query params : Value) (reply : Reply)
    (duration : Number) : Except Fault Executed × Executor × Option Prepared :=
  let (outcome, tracer, left, sent) :=
    executor.tracer.withSpan "pgquery.execute" [("variant", .text variant.name)]
      fun span started =>
        let (outcome, left, sent) := attempt { executor with tracer := started } span variant
          query params reply duration
        (outcome, left.tracer, left, sent)
  (outcome, { left with tracer }, sent)

end Executor

end QueryBind
