import QueryBind.Execution.Executor
import QueryBind.Proofs.Converter.Transparency
import QueryBind.Proofs.Outcome

/-! # Faults that can be reported

Whatever fails in an execution is reported as an error of the library and counted by its code. That
takes a text of a thrown value and a text of the code. The library's own functions fail with errors
whose code is a text, so what can be missing a text comes from code that is handed in
(`Executor.prepare_fails`). What they fail with while a query or a value is converted is ordinary
(`Fault.IsOrdinary`): no such error is about a failed execution or about a number of values.
-/

namespace QueryBind

open Outcome (FailsOnly failsOnly_ok failsOnly_error failsOnly_mapError)

/-- An error, whose code has a text if it is one of the library, or a thrown primitive value. -/
def Fault.Reportable : Fault → Prop
  | .thrown value => value.isPrimitive = true
  | .reported report => ∃ units, report.code.inlineUnits = .ok units
  | .query _ | .plain _ _ | .range _ | .wrongKind _ _ => True

/-- A transformer that fails with reportable faults. -/
structure Transformer.FailsReportably (transformer : Transformer) : Prop where
  dump : ∀ values formats, FailsOnly Fault.Reportable (transformer.dump values formats)
  literal : ∀ value, FailsOnly Fault.Reportable (transformer.literal value)

/-- A primitive value is displayed as its text. -/
theorem Value.display_of_isPrimitive {value : Value} (primitive : value.isPrimitive = true) :
    value.display = .ok value.primitiveText := by
  cases value <;> first | rfl | cases primitive

/-- A reportable fault is wrapped in a report whose code has a text. -/
theorem Fault.Reportable.wrapped {fault : Fault} (reportable : fault.Reportable) :
    ∃ report units, fault.wrapped = .ok report ∧ report.code.inlineUnits = .ok units := by
  cases fault with
  | query error => exact ⟨_, _, rfl, rfl⟩
  | reported report =>
      obtain ⟨units, counted⟩ := reportable
      exact ⟨report, units, rfl, counted⟩
  | plain message code | wrongKind message code => exact ⟨_, _, rfl, rfl⟩
  | range message => exact ⟨_, _, rfl, rfl⟩
  | thrown value =>
      refine ⟨(QueryError.execution value.primitiveText.mended .undefined none).report, _, ?_, rfl⟩
      rw [Fault.wrapped, Value.display_of_isPrimitive reportable]
      rfl

/-- The failure of an operation on a value that it is not defined for. -/
def Fault.IsWrongKind : Fault → Prop
  | .wrongKind _ _ => True
  | _ => False

/-- An error that is neither about a failed execution nor about a number of values. -/
def QueryError.IsOrdinary : QueryError → Prop
  | .execution .. | .paramCount .. | .conversion (.formatCount ..) => False
  | _ => True

/-- What the conversion of a query or of a value fails with, code that is handed in aside. -/
def Fault.IsOrdinary : Fault → Prop
  | .query error => error.IsOrdinary
  | .wrongKind _ _ => True
  | _ => False

private theorem Fault.IsWrongKind.ordinary {fault : Fault} (wrong : fault.IsWrongKind) :
    fault.IsOrdinary := by
  cases fault with
  | wrongKind message code => trivial
  | _ => exact wrong.elim

private theorem Fault.IsOrdinary.reportable {fault : Fault} (ordinary : fault.IsOrdinary) :
    fault.Reportable := by
  cases fault with
  | query error | wrongKind message code => trivial
  | _ => exact ordinary.elim

namespace Outcome

/-- Ordinary errors are ordinary faults. -/
theorem FailsOnly.query {α : Type} {outcome : Except QueryError α}
    (fails : FailsOnly QueryError.IsOrdinary outcome) :
    FailsOnly Fault.IsOrdinary (outcome.mapError Fault.query) :=
  fails.mapError fun _ ordinary => ordinary

end Outcome

/-! ## Texts of values

A value that has no text is of the wrong kind for it.
-/

namespace Value

/-- The text of a value fails for a value of the wrong kind only. -/
theorem innerText_fails (value : Value) : FailsOnly Fault.IsWrongKind value.innerText := by
  cases value with
  | symbol description => exact failsOnly_error trivial
  | _ => exact failsOnly_ok _

private theorem recordText_fails (value : Value) :
    FailsOnly Fault.IsWrongKind (recordText value) := by
  unfold recordText recordPrimitive
  dsimp only
  split
  · exact innerText_fails _
  · next fault refused =>
      split at refused
      · cases refused
      · cases refused
        exact failsOnly_error trivial

mutual

/-- Displaying a value fails for a value of the wrong kind only. -/
theorem display_fails (value : Value) : FailsOnly Fault.IsWrongKind value.display := by
  match value with
  | .list items =>
      rw [display]
      exact (displayItems_fails items).map _
  | .record fields | .bareRecord fields | .classInstance _ fields | .derived _ fields =>
      rw [display]
      exact recordText_fails _
  | .boxed inner =>
      rw [display]
      exact innerText_fails inner
  | .selfList | .function _ | .map _ | .set _ | .buffer _ | .octets _ | .words _ | .selfRecord
  | .sql _ | .identifier _ | .literal _ | .composed _ =>
      rw [display]
      exact failsOnly_ok _
  | .undefined | .hole | .null | .bool _ | .number _ | .bigint _ | .text _ | .brokenText _
  | .symbol _ =>
      rw [display_of_isPrimitive rfl]
      exact failsOnly_ok _
  | .date instant => cases instant <;> exact failsOnly_ok _

private theorem displayItems_fails (items : List Value) :
    FailsOnly Fault.IsWrongKind (displayItems items) := by
  match items with
  | [] => exact failsOnly_ok []
  | item :: rest =>
      have first := display_fails item
      have behind : ∀ text : Text.Wide, FailsOnly Fault.IsWrongKind
          (displayItems rest >>= fun others => pure (text :: others)) :=
        fun _ => (displayItems_fails rest).bind fun _ => failsOnly_ok _
      unfold displayItems
      dsimp only
      split
      · exact (failsOnly_ok _).bind behind
      · exact (failsOnly_ok _).bind behind
      · exact (failsOnly_ok _).bind behind
      · exact (innerText_fails _).bind behind
      · exact first.bind behind

end

end Value

/-! ## Steps of a conversion -/

namespace Encoding

/-- Choosing a codec fails in ordinary ways only. -/
theorem codec_fails (encoding : String) : FailsOnly QueryError.IsOrdinary (codec encoding) := by
  unfold codec
  split
  · exact failsOnly_ok _
  · exact failsOnly_error trivial

/-- Encoding fails in ordinary ways only. -/
theorem encode_fails (encoding text : String) :
    FailsOnly QueryError.IsOrdinary (encode encoding text) :=
  (codec_fails encoding).map _

/-- So does encoding a text by its units. -/
theorem encodeWide_fails (encoding : String) (text : Text.Wide) :
    FailsOnly QueryError.IsOrdinary (encodeWide encoding text) :=
  (codec_fails encoding).map _

end Encoding

namespace Parameter

/-- Classifying a value as a parameter fails in ordinary ways only. -/
theorem ofValue_fails (value : Value) : FailsOnly QueryError.IsOrdinary (ofValue value) := by
  unfold ofValue
  split <;> first | exact failsOnly_ok _ | exact failsOnly_error trivial

/-- Serializing a value fails in ordinary ways only. -/
theorem jsonText_fails (value : Value) : FailsOnly QueryError.IsOrdinary (jsonText value) := by
  unfold jsonText
  split
  · exact failsOnly_ok _
  · exact failsOnly_error trivial

/-- The text of a parameter fails in ordinary ways only. -/
theorem sentText_fails (parameter : Parameter) :
    FailsOnly QueryError.IsOrdinary parameter.sentText := by
  cases parameter with
  | json value => exact (jsonText_fails value).map _
  | _ => exact failsOnly_ok _

end Parameter

namespace Sql

/-- Quoting fails in ordinary ways only. -/
theorem quoteText_fails (text : String) : FailsOnly QueryError.IsOrdinary (quoteText text) := by
  unfold quoteText
  split
  · exact failsOnly_error trivial
  · exact failsOnly_ok _

/-- So does quoting a text by its units. -/
theorem quoteWide_fails (text : Text.Wide) :
    FailsOnly QueryError.IsOrdinary (quoteWide text) := by
  unfold quoteWide
  split
  · exact failsOnly_error trivial
  · exact failsOnly_ok _

/-- Quoting a name fails in ordinary ways only. -/
theorem quoteName_fails (name : Text.Wide) : FailsOnly QueryError.IsOrdinary (quoteName name) := by
  unfold quoteName
  split
  · exact failsOnly_error trivial
  · exact failsOnly_ok _

/-- So does quoting names. -/
theorem quoteNames_fails (names : List Text.Wide) :
    FailsOnly QueryError.IsOrdinary (quoteNames names) := by
  refine FailsOnly.map ?_ _
  induction names with
  | nil => exact failsOnly_ok []
  | cons name rest ih =>
      rw [List.mapM_cons]
      exact (quoteName_fails name).bind fun _ => ih.bind fun _ => failsOnly_ok _

end Sql

namespace TextTransform

/-- Dumping one value fails in ordinary ways only. -/
theorem dumpOne_fails (encoding : String) (position : Nat) (parameter : Parameter)
    (format : Format) :
    FailsOnly Fault.IsOrdinary (dumpOne encoding position parameter format) := by
  unfold dumpOne
  split
  · exact failsOnly_ok _
  · exact failsOnly_ok _
  · exact failsOnly_ok _
  · exact failsOnly_error trivial
  · refine (Parameter.sentText_fails _).query.bind fun text => ?_
    refine FailsOnly.bind ?_ fun _ => failsOnly_ok _
    refine (Encoding.codec_fails encoding).query.bind fun codec => ?_
    split
    · exact failsOnly_ok _
    · exact failsOnly_error trivial

/-- Dumping values fails in ordinary ways only. -/
theorem dumpFrom_fails (encoding : String) (position : Nat) (items : List (Value × Format)) :
    FailsOnly Fault.IsOrdinary (dumpFrom encoding position items) := by
  induction items generalizing position with
  | nil => exact failsOnly_ok _
  | cons item rest ih =>
      rw [dumpFrom]
      split
      · exact ih (position + 1)
      · refine (Parameter.ofValue_fails item.1).query.bind fun parameter => ?_
        refine (dumpOne_fails encoding position parameter item.2).bind fun sent => ?_
        exact (ih (position + 1)).bind fun _ => failsOnly_ok _

/-- The text of a literal fails in ordinary ways only. -/
theorem literalText_fails (parameter : Parameter) :
    FailsOnly Fault.IsOrdinary (literalText parameter) := by
  cases parameter with
  | text content => exact (Sql.quoteWide_fails content).query
  | json value =>
      refine (Parameter.jsonText_fails value).query.bind fun text => ?_
      split
      · exact (Sql.quoteText_fails _).query.bind fun _ => failsOnly_ok _
      · exact failsOnly_error trivial
  | _ => exact failsOnly_ok _

/-- A literal fails in ordinary ways only. -/
theorem literal_fails (encoding : String) (value : Value) :
    FailsOnly Fault.IsOrdinary (literal encoding value) := by
  refine (Parameter.ofValue_fails value).query.bind fun parameter => ?_
  refine (literalText_fails parameter).bind fun text => ?_
  exact (Encoding.encodeWide_fails encoding text).query

end TextTransform

/-! ## Parameters -/

namespace Params

/-- Putting the entries of a map under their texts fails in ordinary ways only. -/
theorem putAll_fails (entries : List (Text.Wide × Value)) (added : List (Value × Value)) :
    FailsOnly Fault.IsOrdinary (putAll entries added) := by
  induction added generalizing entries with
  | nil => exact failsOnly_ok entries
  | cons entry rest ih =>
      obtain ⟨key, value⟩ := entry
      have named := key.display_fails
      rw [putAll]
      cases shown : key.display with
      | ok name => exact ih _
      | error fault => exact failsOnly_error (named fault shown).ordinary

/-- Reading a value as a parameter set fails in ordinary ways only. -/
theorem ofValue_fails (value : Value) : FailsOnly Fault.IsOrdinary (ofValue value) := by
  unfold ofValue
  split
  · exact failsOnly_ok _
  · exact failsOnly_ok _
  · exact (putAll_fails _ _).map _
  · split
    · exact failsOnly_ok _
    · exact failsOnly_error trivial

/-- Taking values from parameters fails in ways that can be reported. -/
theorem bind_fails (scan : Scan) (order : Option (List String)) (params : Value) :
    FailsOnly Fault.Reportable (bind scan order params) := by
  unfold bind
  cases held : ofValue params with
  | ok held => exact failsOnly_mapError (fun _ => trivial) _
  | error fault => exact failsOnly_error (ofValue_fails params fault held).reportable

end Params

/-! ## Renderings -/

namespace Sql

/-- An object's own rendering fails in ordinary ways only. -/
theorem renderOwn_fails (own : Value) : FailsOnly Fault.IsOrdinary (renderOwn own) := by
  unfold renderOwn
  split
  · exact failsOnly_ok _
  · exact failsOnly_ok _
  · exact failsOnly_error trivial

/-- Joining what was rendered fails in ordinary ways only. -/
theorem assemble_fails (renderings : List (Option Bytes)) :
    FailsOnly Fault.IsOrdinary (assemble renderings) := by
  unfold assemble
  split
  · exact failsOnly_ok _
  · exact failsOnly_error trivial

end Sql

section Literal

variable {allowed : Fault → Prop} {transformer : Transformer}

/-- Rendering a literal fails as the transformer does. -/
theorem Sql.renderLiteral_fails
    (literal : ∀ value, FailsOnly allowed (transformer.literal value)) (value : Value) :
    FailsOnly allowed (renderLiteral transformer value) := by
  unfold renderLiteral
  split
  · exact failsOnly_ok _
  · exact literal value

/-- So does rendering a literal that may be missing. -/
theorem ClientBinding.literal?_fails
    (literal : ∀ value, FailsOnly allowed (transformer.literal value)) (value : Value) :
    FailsOnly allowed (literal? transformer value) := by
  unfold literal?
  split
  · exact failsOnly_ok _
  · exact (Sql.renderLiteral_fails literal value).map _

/-- Rendering literals fails as the transformer does. -/
theorem ClientBinding.literals_fails
    (literal : ∀ value, FailsOnly allowed (transformer.literal value)) (values : List Value) :
    FailsOnly allowed (literals transformer values) := by
  induction values with
  | nil => exact failsOnly_ok []
  | cons value rest ih =>
      refine (literal?_fails literal value).bind fun _ => ?_
      exact ih.bind fun _ => failsOnly_ok _

namespace Sql

mutual

/-- Rendering a query fails as the transformer does, or in ordinary ways. -/
theorem rendering_fails (ordinary : ∀ fault : Fault, fault.IsOrdinary → allowed fault)
    (literal : ∀ value, FailsOnly allowed (transformer.literal value)) (value : Value) :
    FailsOnly allowed (rendering transformer value) := by
  match value with
  | .sql source =>
      rw [rendering]
      exact ((Encoding.encodeWide_fails _ source).query.imp ordinary).map _
  | .identifier names =>
      rw [rendering]
      refine ((quoteNames_fails names).query.imp ordinary).bind fun quoted => ?_
      exact ((Encoding.encodeWide_fails _ quoted).query.imp ordinary).bind fun _ => failsOnly_ok _
  | .literal value =>
      rw [rendering]
      exact (renderLiteral_fails literal value).map _
  | .composed items =>
      rw [rendering]
      refine (renderings_fails ordinary literal items).bind fun parts => ?_
      exact ((assemble_fails parts).imp ordinary).bind fun _ => failsOnly_ok _
  | .record fields | .bareRecord fields | .classInstance _ fields =>
      rw [rendering]
      cases Fields.get? fields "asBytes" with
      | some own => exact (renderOwn_fails own).imp ordinary
      | none => exact failsOnly_error (ordinary _ trivial)
  | .derived parent fields =>
      rw [rendering]
      split
      · exact (renderOwn_fails _).imp ordinary
      · exact rendering_fails ordinary literal parent
  | .undefined | .hole | .null | .bool _ | .number _ | .bigint _ | .text _ | .brokenText _
  | .symbol _ | .function _ | .list _ | .map _ | .set _ | .buffer _ | .octets _ | .words _
  | .date _ | .boxed _ | .selfRecord | .selfList => exact failsOnly_error (ordinary _ trivial)

/-- So does rendering the items of a composition. -/
theorem renderings_fails (ordinary : ∀ fault : Fault, fault.IsOrdinary → allowed fault)
    (literal : ∀ value, FailsOnly allowed (transformer.literal value)) (items : List Value) :
    FailsOnly allowed (renderings transformer items) := by
  match items with
  | [] => exact failsOnly_ok []
  | item :: rest =>
      rw [renderings]
      refine FailsOnly.bind ?_ fun _ => ?_
      · split
        · exact failsOnly_ok none
        · exact rendering_fails ordinary literal item
      · exact (renderings_fails ordinary literal rest).bind fun _ => failsOnly_ok _

end

end Sql

/-- The bytes of a query fail as the transformer does, or in ordinary ways. -/
theorem Ground.queryBytes_fails (ordinary : ∀ fault : Fault, fault.IsOrdinary → allowed fault)
    (literal : ∀ value, FailsOnly allowed (transformer.literal value)) (encoding : String)
    (query params : Value) : FailsOnly allowed (queryBytes transformer encoding query params) := by
  unfold queryBytes
  split
  · exact (Encoding.encode_fails encoding _).query.imp ordinary
  · exact (Encoding.encodeWide_fails encoding _).query.imp ordinary
  · exact failsOnly_ok _
  · exact failsOnly_ok _
  · split
    · unfold Sql.renderFor
      split
      · exact failsOnly_ok _
      · exact failsOnly_error (ordinary _ trivial)
      · next fault failed =>
          exact failsOnly_error (Sql.rendering_fails ordinary literal _ fault failed)
    · exact failsOnly_error (ordinary _ trivial)

end Literal

/-! ## Bound queries -/

namespace Converter

/-- Parsing fails in ways that can be reported. -/
theorem parse_fails {ν : Type} (config : Config) (variant : Variant)
    (assemble : String → Bytes → Except QueryError ν) (cache : Lru String ν)
    (telemetry : Telemetry) (query : Bytes) (encoding : String) (count : Number) :
    FailsOnly Fault.Reportable
      (parse config variant assemble cache telemetry query encoding (.number count)).1 := by
  obtain ⟨cacheable, compared⟩ := isCacheable_number config query count
  simp only [parse, compared]
  cases cacheable with
  | true =>
      simp only [parseThrough]
      split
      · exact failsOnly_ok _
      · split
        · exact failsOnly_ok _
        · exact failsOnly_error trivial
  | false =>
      simp only [parsePast]
      split
      · exact failsOnly_ok _
      · exact failsOnly_error trivial

private theorem parseServer_fails (converter : Converter) (query : Bytes) (encoding : String)
    (params : Value) :
    FailsOnly Fault.Reportable
      (converter.parseServer query encoding (Ground.countOf params)).1 :=
  parse_fails _ _ _ _ _ _ _ _

private theorem parseClient_fails (converter : Converter) (query : Bytes) (encoding : String)
    (params : Value) :
    FailsOnly Fault.Reportable
      (converter.parseClient query encoding (Ground.countOf params)).1 :=
  parse_fails _ _ _ _ _ _ _ _

end Converter

section Transformer

variable {transformer : Transformer} (reportable : transformer.FailsReportably)

include reportable

/-- Expanding a template fails in ways that can be reported. -/
theorem ClientBinding.expandParams_fails (parsed : ClientQuery) (params : Value) :
    FailsOnly Fault.Reportable (expandParams transformer parsed params) := by
  refine FailsOnly.bind ?_ fun rendered => ?_
  · rw [renderParams_eq_bind]
    exact (Params.bind_fails _ _ _).bind fun _ => literals_fails reportable.literal _
  · refine (failsOnly_mapError (fun _ => trivial) _).bind fun _ => ?_
    split
    · exact failsOnly_ok _
    · exact failsOnly_error trivial

end Transformer

section Dumper

variable {dumper : Dumper} (reportable : dumper.transformer.FailsReportably)

include reportable

/-- Dumping parameters fails in ways that can be reported. -/
theorem ServerBinding.dumpParams_fails (parsed : ServerQuery) (params : Value) :
    FailsOnly Fault.Reportable (dumpParams dumper parsed params).1 := by
  unfold dumpParams
  split
  · next values _ =>
      unfold Dumper.dump
      split
      · exact failsOnly_ok _
      · next fault failed => exact failsOnly_error (reportable.dump _ _ fault failed)
  · next fault failed => exact failsOnly_error (Params.bind_fails _ _ _ fault failed)

end Dumper

section Ground

variable {ground : Ground} (reportable : ground.dumper.transformer.FailsReportably)

include reportable

/-- A conversion on the server fails in ways that can be reported. -/
theorem ServerBinding.convert_fails (binding : ServerBinding) (encoding : String)
    (query params : Value) :
    FailsOnly Fault.Reportable (binding.convert ground encoding query params).1 := by
  unfold convert
  split
  · next fault failed =>
      exact failsOnly_error (Ground.queryBytes_fails (fun _ => Fault.IsOrdinary.reportable)
        reportable.literal _ _ _ fault failed)
  · split
    · exact failsOnly_ok ()
    · split
      · next failed => exact (Converter.parseServer_fails _ _ _ params).of_fst failed
      · split
        · next failed => exact (dumpParams_fails reportable _ params).of_fst failed
        · exact failsOnly_ok ()

/-- A conversion on the client fails in ways that can be reported. -/
theorem ClientBinding.convert_fails (binding : ClientBinding) (encoding : String)
    (query params : Value) :
    FailsOnly Fault.Reportable (binding.convert ground encoding query params).1 := by
  unfold convert
  split
  · next fault failed =>
      exact failsOnly_error (Ground.queryBytes_fails (fun _ => Fault.IsOrdinary.reportable)
        reportable.literal _ _ _ fault failed)
  · split
    · exact failsOnly_ok ()
    · split
      · next failed => exact (Converter.parseClient_fails _ _ _ params).of_fst failed
      · split
        · next fault failed =>
            exact failsOnly_error (expandParams_fails reportable _ _ fault failed)
        · exact failsOnly_ok ()

end Ground

/-! ## Executions -/

namespace Transformer

/-- The text transformer fails in ways that can be reported. -/
theorem text_fails (encoding : String) : (text encoding).FailsReportably where
  dump := fun values formats => by
    change FailsOnly Fault.Reportable (TextTransform.dump encoding values formats)
    unfold TextTransform.dump
    split
    · exact failsOnly_error trivial
    · exact ((TextTransform.dumpFrom_fails _ _ _).imp fun _ => Fault.IsOrdinary.reportable).map _
  literal := fun value =>
    (TextTransform.literal_fails encoding value).imp fun _ => Fault.IsOrdinary.reportable

end Transformer

/-- A query that cannot be bound for an execution fails with a fault that can be reported. -/
theorem Prepared.make_fails (converter : Converter) {transformer : Transformer}
    (reportable : transformer.FailsReportably) (variant : Variant) (query params : Value) :
    FailsOnly Fault.Reportable (make converter transformer variant query params).1 := by
  unfold make
  cases selected : (Encoding.codec (Ground.encoding ⟨converter, { transformer }⟩)).mapError
      Fault.query with
  | error fault =>
      simp only [selected]
      exact failsOnly_error (failsOnly_mapError (fun _ => trivial) _ fault selected)
  | ok codec =>
      simp only [selected]
      cases variant with
      | server =>
          dsimp only
          split
          · exact failsOnly_ok _
          · next failed =>
              exact (ServerBinding.convert_fails reportable _ _ query params).of_fst failed
      | client =>
          dsimp only
          split
          · exact failsOnly_ok _
          · next failed =>
              exact (ClientBinding.convert_fails reportable _ _ query params).of_fst failed

namespace Executor

/-- So does the transformer that an executor uses, if the one it is given does. -/
theorem transformerInUse_fails {executor : Executor}
    (given : ∀ transformer, executor.transformer = some transformer →
      transformer.FailsReportably) : executor.transformerInUse.FailsReportably := by
  unfold transformerInUse
  cases chosen : executor.transformer with
  | none => exact Transformer.text_fails _
  | some transformer => exact given transformer chosen

/-- Preparing a query changes nothing of an executor but its converter. -/
theorem prepare_eq (executor : Executor) (variant : Variant) (query params : Value) :
    ∃ outcome converter,
      Prepared.make executor.converter executor.transformerInUse variant query params =
        (outcome, converter) ∧
      executor.prepare variant query params = (outcome, { executor with converter }) := by
  cases made : Prepared.make executor.converter executor.transformerInUse variant query params with
  | mk outcome converter => exact ⟨outcome, converter, rfl, by simp only [prepare, made]⟩

/-- Preparing a query fails in ways that can be reported. -/
theorem prepare_fails {executor : Executor}
    (given : ∀ transformer, executor.transformer = some transformer →
      transformer.FailsReportably) (variant : Variant) (query params : Value) :
    FailsOnly Fault.Reportable (executor.prepare variant query params).1 := by
  have fails := Prepared.make_fails executor.converter (transformerInUse_fails given) variant query
    params
  obtain ⟨outcome, converter, made, prepared⟩ := prepare_eq executor variant query params
  rw [made] at fails
  rw [prepared]
  exact fails

end Executor

end QueryBind
