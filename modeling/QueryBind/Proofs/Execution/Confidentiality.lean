import Mathlib.Data.List.Forall2
import QueryBind.Proofs.Binding.Shapes
import QueryBind.Proofs.Execution.Accounting
import QueryBind.Proofs.Observe.Revised

/-! # Parameter values stay out of the records

An executor is given a query and a parameter set, and hands both to the client. Its journal, its
counters and its spans depend on the shape of the parameter set and on nothing else of it: what a
query is prepared to for two sets of one shape differs in the values alone, or in the text that they
were put into (`Prepared.make_alike`). Only how many parameters are sent shows, in one attribute of
the span, and they are as many as the shape says unless values are missing from a list that were
never there (`Executor.serve_untimed`). How long an execution took is measured and not computed, so
durations are left aside (`Executor.untimed`). `Executor.execute_conceals` is the statement about
one execution, `Executor.serveAll_conceals` the one about a run.
-/

namespace QueryBind

/-! ## What is prepared -/

namespace Prepared

private theorem length_valuesOf (codec : Text.Codec) (formats : Option (List WireFormat))
    (params : List (Option Bytes)) : (valuesOf codec formats params).length = params.length := by
  simp only [valuesOf, List.length_map, List.length_zipIdx]

section Make

variable {converter left : Converter} {transformer : Transformer} {query params : Value}
  {prepared : Prepared}

/-- What a query is prepared to on the server comes from a conversion of a new binding. -/
theorem make_server_eq_ok
    (made : make converter transformer .server query params = (.ok prepared, left)) :
    let ground : Ground := ⟨converter, ⟨transformer, none⟩⟩
    ∃ codec binding after, Encoding.codec ground.encoding = .ok codec ∧
      ServerBinding.convert {} ground ground.encoding query params = (.ok (), binding, after) ∧
      prepared = ofServer codec binding ∧ left = after.converter := by
  unfold make at made
  dsimp only at made
  split at made
  · cases made
  next codec selected =>
    split at made
    · next converted =>
        cases made
        exact ⟨codec, _, _, Outcome.mapError_eq_ok.mp selected, converted, rfl, rfl⟩
    · cases made

/-- What a query is prepared to on the client comes from a conversion of a new binding. -/
theorem make_client_eq_ok
    (made : make converter transformer .client query params = (.ok prepared, left)) :
    let ground : Ground := ⟨converter, ⟨transformer, none⟩⟩
    ∃ codec binding after, Encoding.codec ground.encoding = .ok codec ∧
      ClientBinding.convert {} ground ground.encoding query params = (.ok (), binding, after) ∧
      prepared = ofClient codec binding ∧ left = after.converter := by
  unfold make at made
  dsimp only at made
  split at made
  · cases made
  next codec selected =>
    split at made
    · next converted =>
        cases made
        exact ⟨codec, _, _, Outcome.mapError_eq_ok.mp selected, converted, rfl, rfl⟩
    · cases made

end Make

/-- The number of values that are sent beside a text. -/
def count (prepared : Prepared) : Nat :=
  (prepared.values.getD []).length

/-- Two prepared queries look the same to those who see the texts of queries that are bound on the
server. -/
def Alike (variant : Variant) (first second : Prepared) : Prop :=
  variant = .server → first.text = second.text

/-- Two parameter sets of one shape are bound alike: a query that can be bound to either is
looked up or parsed in the same way, and what it is prepared to differs in the values alone, or in
the text that they were put into. If as many values are there in both sets, as many are sent. -/
theorem make_alike {converter left right : Converter} {name : String} {variant : Variant}
    {query first second : Value} (shape : Params.SameShape first second) {prepared other : Prepared}
    (made : make converter (.text name) variant query first = (.ok prepared, left))
    (madeToo : make converter (.text name) variant query second = (.ok other, right)) :
    left = right ∧ Alike variant prepared other ∧
      ((variant = .server → Params.SamePresence first second) → prepared.count = other.count) := by
  cases variant with
  | server =>
      obtain ⟨codec, binding, after, selected, converted, rfl, rfl⟩ := make_server_eq_ok made
      obtain ⟨codec', binding', after', selectedToo, convertedToo, rfl, rfl⟩ :=
        make_server_eq_ok madeToo
      obtain rfl : codec = codec' := Except.ok.inj (selected.symm.trans selectedToo)
      obtain ⟨converter, query, lengths⟩ :=
        ServerBinding.convert_alike rfl shape converted convertedToo
      refine ⟨converter, fun _ => congrArg codec.decode query, fun presence => ?_⟩
      have counted (binding : ServerBinding) : (ofServer codec binding).count =
          (binding.params.map List.length).getD 0 := by
        cases held : binding.params with
        | none => simp [count, ofServer, held]
        | some params => simp [count, ofServer, held, length_valuesOf]
      rw [counted, counted, lengths (presence rfl)]
  | client =>
      obtain ⟨codec, binding, after, -, converted, rfl, rfl⟩ := make_client_eq_ok made
      obtain ⟨codec', binding', after', -, convertedToo, rfl, rfl⟩ := make_client_eq_ok madeToo
      have bound := ClientBinding.convert_alike shape converted convertedToo
      have apart : Variant.client ≠ .server := by decide
      exact ⟨bound, fun served => absurd served apart, fun _ => rfl⟩

end Prepared

/-! ## Executions -/

/-- Telemetry without the durations in it. -/
def Telemetry.untimed (telemetry : Telemetry) : Telemetry :=
  { telemetry with metrics := { telemetry.metrics with timings := [] } }

/-- A result without its duration. -/
def Executed.untimed (executed : Executed) : Executed :=
  { executed with duration := .int 0 }

/-- Two requests that differ in the values of their parameters, and in the time that they take. -/
structure Request.Alike (first second : Request) : Prop where
  variant : first.variant = second.variant
  query : first.query = second.query
  reply : first.reply = second.reply
  params : Params.SameShape first.params second.params

/-- As many values are there for two requests that are bound on the server. -/
def Request.SamePresence (first second : Request) : Prop :=
  first.variant = .server → Params.SamePresence first.params second.params

namespace Executor

/-- An executor without the durations in it. -/
def untimed (executor : Executor) : Executor :=
  { executor with telemetry := executor.telemetry.untimed }

/-- An outcome and the executor that it leaves, without the durations in them. -/
def timeless (ran : Except Fault Executed × Executor) : Except Fault Executed × Executor :=
  (ran.1.map Executed.untimed, ran.2.untimed)

private theorem timeless_timeless (ran : Except Fault Executed × Executor) :
    timeless (timeless ran) = timeless ran := by
  obtain ⟨outcome, left⟩ := ran
  cases outcome <;> rfl

/-- The attribute that says how many values are sent. -/
def countName : String := "param_count"

/-- An executor with another number of values sent in one span. -/
def recount (executor : Executor) (span sent : Nat) : Executor :=
  { executor with tracer := executor.tracer.revise span countName (.number (.ofNat sent)) }

/-- An outcome and the executor that it leaves, with another number of values sent. -/
def recounted (span sent : Nat) (ran : Except Fault Executed × Executor) :
    Except Fault Executed × Executor :=
  (ran.1, ran.2.recount span sent)

/-- Accounting for a fault neither reads durations nor adds any. -/
theorem account_untimed (executor : Executor) (span : Nat) (variant : Variant) (fault : Fault) :
    executor.untimed.account span variant fault =
      timeless (executor.account span variant fault) := by
  unfold account timeless
  cases fault.wrapped with
  | error other => rfl
  | ok report =>
      have tags : executor.untimed.errorTags report = executor.errorTags report := rfl
      simp only [tags]
      cases executor.errorTags report <;> rfl

private theorem recount_note (executor : Executor) (span sent : Nat) (change : Span → Span)
    (either : ∀ before : Span, (change before).revise countName (.number (.ofNat sent)) =
      change (before.revise countName (.number (.ofNat sent)))) :
    (executor.note span change).recount span sent = (executor.recount span sent).note span change :=
  congrArg (fun tracer => { executor with tracer }) (executor.tracer.modify_comm span either)

/-- Accounting for a fault does not look at the number of values sent. -/
theorem account_recount (executor : Executor) (span sent : Nat) (variant : Variant)
    (fault : Fault) :
    (executor.recount span sent).account span variant fault =
      recounted span sent (executor.account span variant fault) := by
  unfold account
  cases fault.wrapped with
  | error other => rfl
  | ok report =>
      have tags : (executor.recount span sent).errorTags report = executor.errorTags report := by
        have recording : (executor.recount span sent).tracer.recording =
            executor.tracer.recording := by
          unfold recount Tracer.revise Tracer.modify
          split <;> simp [*]
        rw [errorTags, errorTags, recording]
      simp only [tags]
      cases executor.errorTags report with
      | error other => rfl
      | ok tags =>
          let counted := executor.telemetry.count MetricName.queries (queryTags variant "error")
          let telemetry := (counted.count MetricName.errors tags).log .error
            "Query execution failed" (failureContext report)
          have noted := recount_note { executor with telemetry } span sent
            (·.recordError report.origin) fun _ => rfl
          exact congrArg (Prod.mk _) noted.symm

/-- Neither does accounting for a result. -/
theorem succeed_recount (executor : Executor) (span sent : Nat) (variant : Variant)
    (rows : List Value) (rowCount : Option Int) (command : String) (duration : Number) :
    (executor.recount span sent).succeed span variant rows rowCount command duration =
      recounted span sent (executor.succeed span variant rows rowCount command duration) := by
  let telemetry :=
    (executor.telemetry.count MetricName.queries (queryTags variant "success")).time
      MetricName.queryDuration duration (.ofTexts [("variant", variant.name)])
  have different : "row_count" ≠ countName := by decide
  have noted := recount_note { executor with telemetry } span sent
    (·.define "row_count" (.number (.ofInt (rowCount.getD 0)))) fun before =>
      before.revise_define_of_ne _ different _
  exact congrArg (Prod.mk _) noted.symm

private theorem announcement_congr {variant : Variant} {prepared other : Prepared}
    (alike : Prepared.Alike variant prepared other) :
    announcement variant prepared.text = announcement variant other.text := by
  cases variant with
  | server => rw [alike rfl]
  | client => rfl

/-- Sending a query shows its text if it is bound on the server, and how many values are sent. -/
theorem send_alike {variant : Variant} {prepared other : Prepared}
    (alike : Prepared.Alike variant prepared other) (executor : Executor) (span : Nat)
    (reply : Reply) (duration : Number) :
    executor.send span variant prepared reply duration =
      recounted span prepared.count (executor.send span variant other reply duration) := by
  let announced (sent : Nat) : Executor :=
    { executor.note span (·.define countName (.number (.ofNat sent))) with
      telemetry := executor.telemetry.log .debug "Executing query"
        (announcement variant other.text) }
  have counts : announced prepared.count = (announced other.count).recount span prepared.count := by
    have revised (before : Span) :
        (before.define countName (.number (.ofNat other.count))).revise countName
          (.number (.ofNat prepared.count)) =
            before.define countName (.number (.ofNat prepared.count)) :=
      before.revise_define countName _ _
    refine congrArg (fun tracer => { announced other.count with tracer }) (Eq.symm ?_)
    exact (executor.tracer.modify_modify span _ _).trans
      (congrArg (executor.tracer.modify span) (funext revised))
  unfold send
  rw [announcement_congr alike]
  cases reply with
  | failure fault =>
      change (announced prepared.count).account span variant fault =
        recounted span prepared.count ((announced other.count).account span variant fault)
      rw [counts, account_recount]
  | result rows rowCount command =>
      change (announced prepared.count).succeed span variant rows rowCount command duration =
        recounted span prepared.count
          ((announced other.count).succeed span variant rows rowCount command duration)
      rw [counts, succeed_recount]

/-- Sending neither reads durations nor shows how long it took. -/
theorem send_untimed (executor : Executor) (span : Nat) (variant : Variant) (prepared : Prepared)
    (reply : Reply) (duration delay : Number) :
    timeless (executor.send span variant prepared reply duration) =
      timeless (executor.untimed.send span variant prepared reply delay) := by
  unfold send
  cases reply with
  | failure fault =>
      let announced : Executor :=
        { executor.note span (·.define countName (.number (.ofNat prepared.count))) with
          telemetry := executor.telemetry.log .debug "Executing query"
            (announcement variant prepared.text) }
      calc
        timeless (announced.account span variant fault) =
            timeless (timeless (announced.account span variant fault)) :=
          (timeless_timeless _).symm
        _ = timeless (announced.untimed.account span variant fault) := by rw [account_untimed]
  | result rows rowCount command => rfl

/-- Ends the span of an execution with the outcome. -/
def closeSpan (span : Nat) (ran : Except Fault Executed × Executor) :
    Except Fault Executed × Executor :=
  match ran with
  | (.ok executed, left) =>
    (.ok executed, { left with tracer := left.tracer.modify span Span.succeed })
  | (.error fault, left) =>
    let (passed, tracer) := left.tracer.failSpan span fault
    (.error passed, { left with tracer })

private theorem timeless_closeSpan (span : Nat) (ran : Except Fault Executed × Executor) :
    timeless (closeSpan span ran) = closeSpan span (timeless ran) := by
  obtain ⟨outcome, left⟩ := ran
  cases outcome <;> rfl

/-- How a span is closed does not depend on the number of values sent. -/
theorem closeSpan_recounted (span sent : Nat) (ran : Except Fault Executed × Executor) :
    closeSpan span (recounted span sent ran) = recounted span sent (closeSpan span ran) := by
  obtain ⟨outcome, left⟩ := ran
  cases outcome with
  | ok executed =>
      exact congrArg (Prod.mk _) (recount_note left span sent Span.succeed fun _ => rfl).symm
  | error fault =>
      have closes := left.tracer.failSpan_revise span countName (.number (.ofNat sent)) fault
      simp only [closeSpan, recounted, recount, closes]

/-- A request whose query can be bound is sent to the client in a span of its own. -/
theorem serve_of_ready {executor : Executor} {request : Request} {prepared : Prepared}
    (ready : (executor.prepare request.variant request.query request.params).1 = .ok prepared) :
    ∃ converter, Prepared.make executor.converter executor.transformerInUse request.variant
        request.query request.params = (.ok prepared, converter) ∧
      executor.serve request =
        let ran := closeSpan executor.tracer.spans.length
          (send { executor.inSpan request.variant with converter } executor.tracer.spans.length
            request.variant prepared request.reply request.duration)
        (⟨ran.1, some prepared⟩, ran.2) := by
  obtain ⟨outcome, converter, made, prepares⟩ :=
    prepare_eq executor request.variant request.query request.params
  obtain rfl : outcome = .ok prepared := (congrArg Prod.fst prepares).symm.trans ready
  refine ⟨converter, made, ?_⟩
  have opened : (executor.inSpan request.variant).prepare request.variant request.query
      request.params = (.ok prepared, { executor.inSpan request.variant with converter }) := by
    have again : Prepared.make (executor.inSpan request.variant).converter
        (executor.inSpan request.variant).transformerInUse request.variant request.query
          request.params = (.ok prepared, converter) := made
    simp only [prepare, again]
  cases sends : send { executor.inSpan request.variant with converter }
      executor.tracer.spans.length request.variant prepared request.reply request.duration with
  | mk outcome left =>
      have ran : (executor.inSpan request.variant).attempt executor.tracer.spans.length
          request.variant request.query request.params request.reply request.duration =
            (outcome, left, some prepared) := by
        unfold attempt
        simp only [opened, sends]
      cases outcome with
      | ok executed => exact serve_of_ok ran
      | error fault => exact serve_of_error ran

/-- Serving a request is executing it. -/
theorem serve_eq {executor : Executor} {request : Request}
    {ran : Except Fault Executed × Executor × Option Prepared}
    (came : executor.execute request.variant request.query request.params request.reply
      request.duration = ran) :
    executor.serve request = (⟨ran.1, ran.2.2⟩, ran.2.1) := by
  unfold serve
  rw [came]

/-- Executors that differ in durations alone, and the outcomes that they leave, show the same but
for the number of values sent. -/
theorem serve_untimed {executor other : Executor} (same : executor.untimed = other.untimed)
    (own : executor.transformer = none) {first second : Request} (alike : first.Alike second)
    {prepared another : Prepared}
    (ready : (executor.prepare first.variant first.query first.params).1 = .ok prepared)
    (readyToo : (other.prepare second.variant second.query second.params).1 = .ok another) :
    let ran := executor.serve first
    let again := other.serve second
    timeless (ran.1.outcome, ran.2) =
        recounted executor.tracer.spans.length prepared.count
          (timeless (again.1.outcome, again.2)) ∧
      (first.SamePresence second →
        timeless (ran.1.outcome, ran.2) = timeless (again.1.outcome, again.2)) := by
  obtain ⟨variant, query, params, reply, duration⟩ := first
  obtain ⟨_, _, values, _, delay⟩ := second
  obtain ⟨rfl, rfl, rfl, shape⟩ := alike
  obtain ⟨converter, made, served⟩ := serve_of_ready ready
  obtain ⟨converter', madeToo, servedToo⟩ := serve_of_ready readyToo
  have converters : executor.converter = other.converter := congrArg (·.converter) same
  have transformers : executor.transformerInUse = other.transformerInUse := by
    have kept := congrArg transformerInUse same
    exact kept
  have tracers : executor.tracer = other.tracer := congrArg (·.tracer) same
  have text : executor.transformerInUse =
      .text (executor.encoding.getD executor.converter.config.encoding) := by
    rw [transformerInUse, own]
    rfl
  rw [← converters, ← transformers, text] at madeToo
  rw [text] at made
  obtain ⟨rfl, sent, counts⟩ := Prepared.make_alike shape made madeToo
  let span := executor.tracer.spans.length
  let opened : Executor := { executor.inSpan variant with converter }
  let openedToo : Executor := { other.inSpan variant with converter }
  have openedAlike : opened.untimed = openedToo.untimed :=
    congrArg (fun start : Executor => { start.inSpan variant with converter }) same
  have sends (query : Prepared) :
      timeless (closeSpan span (opened.send span variant query reply duration)) =
        timeless (closeSpan span (openedToo.send span variant query reply delay)) := by
    rw [timeless_closeSpan, timeless_closeSpan,
      send_untimed opened span variant query reply duration delay, openedAlike,
      send_untimed openedToo span variant query reply delay delay]
  have alike (query : Prepared) (alike : Prepared.Alike variant query another) :
      closeSpan span (openedToo.send span variant query reply delay) =
        recounted span query.count
          (closeSpan span (openedToo.send span variant another reply delay)) := by
    rw [send_alike alike, closeSpan_recounted]
  rw [served, servedToo, ← tracers]
  refine ⟨(sends prepared).trans (congrArg timeless (alike prepared sent)), fun presence => ?_⟩
  -- With as many values as before the count is revised to what it is.
  have again := alike another fun _ => rfl
  rw [← counts presence, ← alike prepared sent] at again
  exact (sends prepared).trans (congrArg timeless again.symm)

section Run

variable {executor : Executor} {request : Request}

/-- What is sent is what the query was prepared to. -/
theorem sent_serve (executor : Executor) (request : Request) :
    (executor.serve request).1.sent =
      (executor.prepare request.variant request.query request.params).1.toOption := by
  cases came : (executor.prepare request.variant request.query request.params).1 with
  | ok prepared =>
      obtain ⟨converter, -, served⟩ := serve_of_ready came
      rw [served]
      rfl
  | error fault =>
      obtain ⟨converter, opened⟩ := exists_prepare_inSpan came
      cases accounts : account { executor.inSpan request.variant with converter }
          executor.tracer.spans.length request.variant fault with
      | mk outcome left =>
          have ran : (executor.inSpan request.variant).attempt executor.tracer.spans.length
              request.variant request.query request.params request.reply request.duration =
                (outcome, left, none) := by
            unfold attempt
            simp only [opened, accounts]
          cases outcome with
          | ok executed =>
              rw [serve_of_ok ran]
              rfl
          | error fault =>
              rw [serve_of_error ran]
              rfl

private theorem ready_of_sent (sent : (executor.serve request).1.sent.isSome = true) :
    ∃ prepared,
      (executor.prepare request.variant request.query request.params).1 = .ok prepared := by
  rw [sent_serve] at sent
  refine Outcome.exists_of_isOk ?_
  cases came : (executor.prepare request.variant request.query request.params).1 with
  | ok prepared => rfl
  | error fault =>
      rw [came] at sent
      cases sent

private theorem transformer_account (executor : Executor) (span : Nat) (variant : Variant)
    (fault : Fault) :
    (executor.account span variant fault).2.transformer = executor.transformer := by
  unfold account
  split
  · rfl
  · dsimp only
    split <;> rfl

/-- An execution leaves the executor its transformer. -/
theorem transformer_serve_of_sent (sent : (executor.serve request).1.sent.isSome = true) :
    (executor.serve request).2.transformer = executor.transformer := by
  obtain ⟨prepared, ready⟩ := ready_of_sent sent
  obtain ⟨converter, -, served⟩ := serve_of_ready ready
  have closes (span : Nat) (ran : Except Fault Executed × Executor) :
      (closeSpan span ran).2.transformer = ran.2.transformer := by
    obtain ⟨outcome, left⟩ := ran
    cases outcome <;> rfl
  rw [served]
  refine (closes _ _).trans ?_
  unfold send
  cases request.reply with
  | failure fault => exact transformer_account _ _ _ fault
  | result rows rowCount command => rfl

/-- Two runs whose requests are alike, one by one, with as many values, and all reach the client
leave the same results and the same records. -/
theorem serveAll_conceals {executor other : Executor} (same : executor.untimed = other.untimed)
    (own : executor.transformer = none) {first second : List Request}
    (alike : List.Forall₂ (fun one two => Request.Alike one two ∧ one.SamePresence two)
      first second)
    (sent : ∀ served ∈ (executor.serveAll first).1, served.sent.isSome = true)
    (sentToo : ∀ served ∈ (other.serveAll second).1, served.sent.isSome = true) :
    (executor.serveAll first).1.map (·.outcome.map Executed.untimed) =
        (other.serveAll second).1.map (·.outcome.map Executed.untimed) ∧
      (executor.serveAll first).2.untimed = (other.serveAll second).2.untimed := by
  induction alike generalizing executor other with
  | nil => exact ⟨rfl, same⟩
  | cons heads _ ih =>
      rw [serveAll_cons] at sent sentToo
      have reached := sent _ List.mem_cons_self
      obtain ⟨prepared, ready⟩ := ready_of_sent reached
      obtain ⟨another, readyToo⟩ := ready_of_sent (sentToo _ List.mem_cons_self)
      have served := (serve_untimed same own heads.1 ready readyToo).2 heads.2
      simp only [timeless, Prod.mk.injEq] at served
      obtain ⟨outcomes, executors⟩ := served
      have kept := (transformer_serve_of_sent reached).trans own
      obtain ⟨others, last⟩ := ih executors kept
        (fun served among => sent served (List.mem_cons_of_mem _ among))
        (fun served among => sentToo served (List.mem_cons_of_mem _ among))
      rw [serveAll_cons, serveAll_cons]
      exact ⟨congrArg₂ List.cons outcomes others, last⟩

end Run

end Executor

end QueryBind
