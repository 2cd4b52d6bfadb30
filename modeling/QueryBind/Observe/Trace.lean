import QueryBind.Value.Record

/-! # Traces

A span is the record of a traced computation: its attributes, how it ended and the error it
ended with. Spans are kept in the order in which they started, and a traced computation may
start further spans. A computation that fails marks its span with the error, unless one was
recorded before. A tracer that does not record runs the computations all the same.
-/

namespace QueryBind

/-- How a span stands. -/
inductive SpanStatus where
  | unset
  | ok
  | error
  deriving DecidableEq, Repr

/-- The name of a status. -/
def SpanStatus.name : SpanStatus → String
  | .unset => "UNSET"
  | .ok => "OK"
  | .error => "ERROR"

/-- The record of a traced computation. -/
structure Span where
  name : String
  attributes : Record
  status : SpanStatus := .unset
  error : Option Origin := none
  ended : Bool := false

namespace Span

/-- The span with an attribute of its own. -/
def define (span : Span) (name : String) (value : Value) : Span :=
  { span with attributes := span.attributes.define name value }

/-- The span with a value assigned to an attribute of any name. -/
def assign (span : Span) (name : String) (value : Value) : Except Fault Span :=
  (span.attributes.assign name value).map fun attributes => { span with attributes }

/-- The span with an error recorded. -/
def recordError (span : Span) (error : Origin) : Span :=
  { span with error := some error, status := .error }

/-- The span after its computation succeeded. -/
def succeed (span : Span) : Span :=
  { span with status := if span.status = .unset then .ok else span.status, ended := true }

/-- The span after its computation failed with an error of this name and message. -/
def fail (span : Span) (error : Origin) : Span :=
  let marked := if span.status = .unset then span.recordError error else span
  { marked with ended := true }

end Span

/-- Spans in the order of their start. -/
structure Tracer where
  recording : Bool := true
  spans : List Span := []

namespace Tracer

/-- Changes the span with this number. -/
def modify (tracer : Tracer) (index : Nat) (change : Span → Span) : Tracer :=
  if tracer.recording then { tracer with spans := tracer.spans.modify index change } else tracer

/-- Assigns a value to an attribute of the span with this number. -/
def assign (tracer : Tracer) (index : Nat) (name : String) (value : Value) :
    Except Fault Tracer :=
  match tracer.recording, tracer.spans[index]? with
  | true, some span =>
    (span.assign name value).map fun changed =>
      { tracer with spans := tracer.spans.set index changed }
  | _, _ => .ok tracer

/-- A new span at the end. -/
def start (tracer : Tracer) (name : String) (attributes : Fields) : Tracer :=
  if tracer.recording then
    { tracer with spans := tracer.spans ++
        [⟨name, ⟨.root, Fields.ofList attributes⟩, .unset, none, false⟩] }
  else tracer

/-- The error that a fault is recorded as: a thrown value counts as an error with its display
text, which not every value has. -/
def originOf : Fault → Except Fault Origin
  | .thrown value => value.display.map fun text => ⟨"Error", text.mended⟩
  | fault => .ok (fault.origin?.getD ⟨"Error", ""⟩)

/-- Ends a span whose computation failed, and returns the fault that is passed on. -/
def failSpan (tracer : Tracer) (index : Nat) (fault : Fault) : Fault × Tracer :=
  if tracer.recording && (tracer.spans[index]?).any (·.status = .unset) then
    match originOf fault with
    | .ok origin => (fault, tracer.modify index (·.fail origin))
    | .error other => (other, tracer.modify index fun span => { span with ended := true })
  else (fault, tracer.modify index fun span => { span with ended := true })

/-- Runs a computation in a span of its own. The computation is given the number of the
span; it returns an outcome, the tracer it leaves and a note. -/
def withSpan {α γ : Type} (tracer : Tracer) (name : String) (attributes : Fields)
    (body : Nat → Tracer → Except Fault α × Tracer × γ) : Except Fault α × Tracer × γ :=
  match body tracer.spans.length (tracer.start name attributes) with
  | (.ok value, left, note) => (.ok value, left.modify tracer.spans.length Span.succeed, note)
  | (.error fault, left, note) =>
    let (passed, ended) := left.failSpan tracer.spans.length fault
    (.error passed, ended, note)

/-- The spans so far, which only a recording tracer can show. -/
def recorded (tracer : Tracer) : Except Fault (List Span) :=
  if tracer.recording then .ok tracer.spans
  else .error (.wrongKind "nothing is recorded" .undefined)

/-- The spans with a name. -/
def named (tracer : Tracer) (name : String) : Except Fault (List Span) :=
  tracer.recorded.map (·.filter (·.name = name))

end Tracer

/-- An action of a traced computation. -/
inductive TraceAction where
  | setAttribute (key : String) (value : Value)
  | recordError (message : String)
  /-- A computation in a span of its own; its failure ends this one too. -/
  | span (name : String) (attributes : Fields) (body : List TraceAction)
  /-- A computation in a span of its own, whose failure is noted and gone over. -/
  | guarded (name : String) (attributes : Fields) (body : List TraceAction)
  | observe
  | finish (value : Value)
  | fail (fault : Fault)

/-- What a traced computation notes. -/
inductive TraceNote where
  | returned (value : Value)
  | caught (fault : Fault)
  | observed (spans : List Span)

namespace TraceAction

mutual

/-- Runs an action in the span with this number. The outcome is empty if the computation
goes on behind the action. -/
def run (index : Nat) (tracer : Tracer) :
    TraceAction → Except Fault (Option Value) × Tracer × List TraceNote
  | .setAttribute key value =>
    match tracer.assign index key value with
    | .ok left => (.ok none, left, [])
    | .error fault => (.error fault, tracer, [])
  | .recordError message =>
    (.ok none, tracer.modify index (·.recordError ⟨"Error", message⟩), [])
  | .span name attributes body =>
    match tracer.withSpan name attributes fun inner started => runAll inner started body with
    | (.ok value, left, notes) => (.ok none, left, notes ++ [.returned value])
    | (.error fault, left, notes) => (.error fault, left, notes)
  | .guarded name attributes body =>
    match tracer.withSpan name attributes fun inner started => runAll inner started body with
    | (.ok value, left, notes) => (.ok none, left, notes ++ [.returned value])
    | (.error fault, left, notes) => (.ok none, left, notes ++ [.caught fault])
  | .observe =>
    match tracer.recorded with
    | .ok spans => (.ok none, tracer, [.observed spans])
    | .error fault => (.error fault, tracer, [])
  | .finish value => (.ok (some value), tracer, [])
  | .fail fault => (.error fault, tracer, [])

/-- Runs actions in the span with this number until one ends the computation. -/
def runAll (index : Nat) (tracer : Tracer) :
    List TraceAction → Except Fault Value × Tracer × List TraceNote
  | [] => (.ok .undefined, tracer, [])
  | action :: rest =>
    match run index tracer action with
    | (.ok none, left, notes) =>
      let (outcome, last, more) := runAll index left rest
      (outcome, last, notes ++ more)
    | (.ok (some value), left, notes) => (.ok value, left, notes)
    | (.error fault, left, notes) => (.error fault, left, notes)

end

end TraceAction

end QueryBind
