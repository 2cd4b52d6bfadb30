import Mathlib
import QueryBind.Proofs.Binding.Stumbles
import QueryBind.Proofs.Execution.Confidentiality
import QueryBind.Proofs.Text.EncodingName

/-! # Whose failure an execution reports

An executor reports every failure as an error of the library: a refusal by its own code, and any
other failure as a failed execution, as if its client had failed. So a rejection that names a failed
execution comes from the client, unless the conversion stumbled
(`Executor.execute_blames_client_iff`).
-/

namespace QueryBind

open Outcome

/-- All failures are refusals if none escapes. -/
theorem Outcome.failsOnly_isRefusal_iff {α : Type} {outcome : Except Fault α} :
    FailsOnly Fault.IsRefusal outcome ↔ ¬ Escapes outcome := by
  simp [FailsOnly, Escapes]

section Converted

variable {converter : Converter} (sound : converter.Sound) {encoding : String}

include sound

/-- Caches have no part in what a conversion stumbles over. -/
theorem Binding.escapes_convert_iff {codec : Text.Codec}
    (selected : Encoding.codec encoding = .ok codec) (variant : Variant) {query : Value}
    (declared : Sql.isDeclared query = true) (params : Value) :
    Escapes ((fresh variant).convert ⟨converter, { transformer := .text encoding }⟩ encoding query
        params).1 ↔ Stumbles variant encoding query params := by
  have plain := Text.Codec.nul_not_mem_of_ofName? (Encoding.codec_eq_ok.mp selected)
  let ground : Ground := ⟨converter, { transformer := .text encoding }⟩
  have sound : ground.converter.Sound := sound
  rw [← escapes_ofQuery_iff selected variant declared]
  cases variant with
  | server =>
      have comes := ServerBinding.convert_comes sound {} plain query params
      rw [fresh, comes.outcome, escapes_map]
  | client =>
      have comes := ClientBinding.convert_comes sound {} plain query params
      rw [fresh, comes.outcome, escapes_map]

/-- A query is prepared or refused, unless its conversion stumbles. -/
theorem Prepared.escapes_make_iff (variant : Variant) {query : Value}
    (declared : Sql.isDeclared query = true) (params : Value) :
    Escapes (make converter (.text encoding) variant query params).1 ↔
      Encoding.isSupported encoding = true ∧ Binding.Stumbles variant encoding query params := by
  have settled : Ground.encoding ⟨converter, { transformer := .text encoding }⟩ = encoding := rfl
  unfold make
  simp only [settled]
  cases selected : Encoding.codec encoding with
  | error error =>
      have unsupported : ¬ Encoding.isSupported encoding = true := by
        intro supported
        obtain ⟨codec, chosen⟩ := Encoding.codec_of_isSupported supported
        cases selected.symm.trans chosen
      have refusal := (Encoding.codec_fails encoding error selected).isRefusal
      exact iff_of_false (not_escapes_query refusal) fun asked => unsupported asked.1
  | ok codec =>
      have supported : Encoding.isSupported encoding = true := by
        rw [Encoding.isSupported, Encoding.codec_eq_ok.mp selected]
        rfl
      have converts := Binding.escapes_convert_iff sound selected variant declared params
      rw [and_iff_right supported, ← converts, mapError_ok]
      cases variant with
      | server =>
          dsimp only [Binding.fresh, Binding.convert]
          split
          · next converted => simp [converted, not_escapes_ok]
          · next converted =>
              rw [converted]
              exact escapes_error.trans escapes_error.symm
      | client =>
          dsimp only [Binding.fresh, Binding.convert]
          split
          · next converted => simp [converted, not_escapes_ok]
          · next converted =>
              rw [converted]
              exact escapes_error.trans escapes_error.symm

end Converted

namespace Executor

/-- The encoding of the text transformer that an executor makes. -/
def ownEncoding (executor : Executor) : String :=
  executor.encoding.getD executor.converter.config.encoding

/-- The executor's text transformer neither converts a query with its parameters nor refuses it. -/
def Stumbles (executor : Executor) (variant : Variant) (query params : Value) : Prop :=
  Encoding.isSupported executor.ownEncoding = true ∧
    Binding.Stumbles variant executor.ownEncoding query params

/-- A query and its parameters are put together as they are declared. -/
structure Declared (query params : Value) : Prop where
  query : Sql.isDeclared query = true
  params : params.isGenuine = true

/-- A fault that can be reported is reported, recorded or not. -/
theorem account_of_wrapped (executor : Executor) {fault : Fault} (reportable : fault.Reportable)
    (span : Nat) (variant : Variant) :
    ∃ report, fault.wrapped = .ok report ∧
      (executor.account span variant fault).1 = .error (.reported report) := by
  obtain ⟨report, units, wrapped, counted⟩ := reportable.wrapped
  have tagged : ∃ tags, executor.errorTags report = .ok tags := by
    unfold errorTags
    split
    · exact ⟨_, map_eq_ok.mpr ⟨units, counted, rfl⟩⟩
    · exact ⟨[], rfl⟩
  obtain ⟨tags, tagged⟩ := tagged
  exact ⟨report, wrapped, by simp only [account, wrapped, tagged]⟩

section Default

variable {executor : Executor} (own : executor.transformer = none)

include own

/-- The preparation of a query escapes exactly if it stumbles. -/
theorem escapes_prepare_iff (sound : executor.converter.Sound) (variant : Variant)
    {query params : Value} (declared : Declared query params) :
    Escapes (executor.prepare variant query params).1 ↔
      executor.Stumbles variant query params := by
  obtain ⟨outcome, converter, made, prepares⟩ := prepare_eq executor variant query params
  have text : executor.transformerInUse = .text executor.ownEncoding := by
    rw [transformerInUse, own]
    rfl
  rw [Stumbles, ← Prepared.escapes_make_iff sound variant declared.query, prepares, ← text, made]

/-- A query that is not prepared is rejected with the report of its fault, and the client is not
asked. -/
theorem serve_of_unprepared {request : Request} {fault : Fault}
    (failed : (executor.prepare request.variant request.query request.params).1 = .error fault) :
    ∃ report, fault.wrapped = .ok report ∧
      (executor.serve request).1 = ⟨.error (.reported report), none⟩ := by
  have given : ∀ transformer, executor.transformer = some transformer →
      transformer.FailsReportably := by
    intro transformer chosen
    cases own.symm.trans chosen
  have reportable := prepare_fails given _ _ _ fault failed
  obtain ⟨converter, opened⟩ := exists_prepare_inSpan failed
  let opening : Executor := { executor.inSpan request.variant with converter }
  obtain ⟨report, wrapped, told⟩ := opening.account_of_wrapped reportable
    executor.tracer.spans.length request.variant
  cases accounts : opening.account executor.tracer.spans.length request.variant fault with
  | mk outcome left =>
      rw [accounts] at told
      obtain rfl : outcome = .error (.reported report) := told
      have ran : (executor.inSpan request.variant).attempt executor.tracer.spans.length
          request.variant request.query request.params request.reply request.duration =
            (.error (.reported report), left, none) := by
        unfold attempt
        simp only [opened, opening, accounts]
      refine ⟨report, wrapped, ?_⟩
      rw [serve_of_error ran, Tracer.fst_failSpan rfl]

end Default

/-- **An execution blames its client only if it asked it, unless the conversion stumbled.** The
query and its parameters are put together as they are declared. All failures of a preparation are
refusals exactly if the conversion does not stumble. Exactly then, too, a query that is rejected as
a failed execution was handed to the client, whatever the client answers. -/
theorem execute_blames_client_iff {executor : Executor} (own : executor.transformer = none)
    (used : executor.converter.Used) (variant : Variant) {query params : Value}
    (declared : Declared query params) :
    (FailsOnly Fault.IsRefusal (executor.prepare variant query params).1 ↔
        ¬ executor.Stumbles variant query params) ∧
      ∀ (reply : Reply) (duration : Number),
        let ran := executor.execute variant query params reply duration
        ((∀ report, ran.1 = .error (.reported report) →
          report.code = .text ErrorClass.execution.code → ran.2.2.isSome = true) ↔
            ¬ executor.Stumbles variant query params) := by
  have escapes := escapes_prepare_iff own used.sound variant declared
  have refusals : FailsOnly Fault.IsRefusal (executor.prepare variant query params).1 ↔
      ¬ executor.Stumbles variant query params := by
    rw [failsOnly_isRefusal_iff, escapes]
  refine ⟨refusals, fun reply duration => ?_⟩
  let request : Request := ⟨variant, query, params, reply, duration⟩
  have outcome : (executor.serve request).1.outcome =
      (executor.execute variant query params reply duration).1 := by
    rw [serve_eq rfl]
  have sent : (executor.serve request).1.sent =
      (executor.execute variant query params reply duration).2.2 := by
    rw [serve_eq rfl]
  dsimp only
  rw [← escapes, ← outcome, ← sent]
  cases came : (executor.prepare request.variant request.query request.params).1 with
  | ok prepared =>
      refine iff_of_true (fun _ _ _ => ?_) (not_escapes_ok prepared)
      rw [sent_serve, came]
      rfl
  | error fault =>
      obtain ⟨report, wrapped, served⟩ := serve_of_unprepared own came
      rw [escapes_error, ← Fault.code_wrapped_iff wrapped, served]
      simp

/-- An object that offers undefined in its place is reported as a failure of the client, which is
not asked. -/
theorem execute_blames_client_iff_of_undefined :
    let executor : Executor :=
      { converter := ⟨.standard, { capacity := .int 1 }, { capacity := .int 1 }, {}⟩ }
    let query : Value := .text "SELECT %s"
    let params : Value := .list [.record [("toJSON", .function .undefined)]]
    executor.transformer = none ∧ executor.converter.Used ∧ Declared query params ∧
      executor.Stumbles .server query params ∧
      (∃ fault, (executor.prepare .server query params).1 = .error fault ∧ ¬ fault.IsRefusal) ∧
      ∀ (reply : Reply) (duration : Number),
        let ran := executor.execute .server query params reply duration
        ∃ report, ran.1 = .error (.reported report) ∧
          report.code = .text "EXECUTION_ERROR" ∧ ran.2.2.isSome = false := by
  intro executor query params
  have used : executor.converter.Used := ⟨executor.converter, [], rfl, rfl, by simp, rfl⟩
  have stumbles : executor.Stumbles .server query params := by
    let bytes : Bytes := [0x53, 0x45, 0x4C, 0x45, 0x43, 0x54, 0x20, 0x25, 0x73]
    let server : ServerQuery := ⟨[0x53, 0x45, 0x4C, 0x45, 0x43, 0x54, 0x20, 0x24, 0x31], [.auto],
      none, ⟨[⟨[0x53, 0x45, 0x4C, 0x45, 0x43, 0x54, 0x20], .position 0, .auto⟩], []⟩⟩
    have given : Ground.queryBytes (.text "utf8") "utf8" query params = .ok bytes := by cbv
    have assembled : Statement.ofBytes "utf8" bytes .server = .ok (.server server) := by cbv
    have bound : Params.bind server.scan server.order params =
        .ok [.record [("toJSON", .function .undefined)]] := by cbv
    refine ⟨by decide +kernel, .params rfl given assembled (.inr ⟨_, bound, ?_⟩)⟩
    exact ⟨[], _, [], rfl, ⟨_, rfl⟩, rfl, by decide⟩
  have declared : Declared query params := ⟨rfl, rfl⟩
  obtain ⟨refusals, executions⟩ := execute_blames_client_iff rfl used .server declared
  refine ⟨rfl, used, declared, stumbles, ?_, fun reply duration => ?_⟩
  · have escapes := mt refusals.mp (not_not_intro stumbles)
    rw [failsOnly_isRefusal_iff, not_not] at escapes
    exact escapes
  · have blames := mt (executions reply duration).mp (not_not_intro stumbles)
    push Not at blames
    obtain ⟨report, rejected, code, unsent⟩ := blames
    exact ⟨report, rejected, code, eq_false_of_ne_true unsent⟩

end Executor

end QueryBind
