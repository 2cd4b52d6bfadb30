import QueryBind.Execution.Executor
import QueryBind.Proofs.Outcome
import QueryBind.Proofs.Params.Selection
import QueryBind.Proofs.Text.RoundTrip
import QueryBind.Proofs.Transform.Sequence

/-! # What is handed over is what was given

The text of a query without parameters and the texts among parameters are written in the encoding
of the connection and read back before they are handed to the client. So the client is given
exactly what the codec gives back: the texts themselves, if all their characters are characters of
the codec, and other texts if they are not (`Executor.prepare_keeps_iff`).
-/

namespace QueryBind

open Text (Codec Wide)

variable {codec : Codec} {encoding : String}

/-! ## Queries without parameters -/

section Absent

variable {ground : Ground} {query params : Value} {bytes : Bytes}
  (read : Ground.queryBytes ground.dumper.transformer encoding query params = .ok bytes)
  (absent : params.isNull = true)

include read absent

/-- Nothing but the query is left of a conversion without parameters on the server. -/
theorem ServerBinding.convert_of_isNull (binding : ServerBinding) :
    binding.convert ground encoding query params =
      (.ok (), { binding with query := bytes, parsed := none }.clear, ground) := by
  simp only [convert, read, absent, if_true]

/-- Nothing but the query is left of a conversion without parameters on the client. -/
theorem ClientBinding.convert_of_isNull (binding : ClientBinding) :
    binding.convert ground encoding query params = (.ok (), ⟨bytes, none, none, none⟩, ground) := by
  simp only [convert, read, absent, if_true]

end Absent

/-- The bytes of a query text. -/
theorem Ground.queryBytes_of_wide (selected : Encoding.codec encoding = .ok codec)
    (transformer : Transformer) {query : Value} {text : Wide} (worded : query.wide? = some text)
    (params : Value) :
    queryBytes transformer encoding query params = .ok (codec.encodeWide text) := by
  have encoded := Encoding.encodeWide_eq_ok selected text
  cases query <;> cases worded
  · rw [queryBytes, ← Encoding.encodeWide_ofText, encoded]
    rfl
  · rw [queryBytes, encoded]
    rfl

/-- A query text without parameters is handed over as it is read back. -/
theorem Prepared.make_text (converter : Converter) (selected : Encoding.codec encoding = .ok codec)
    (variant : Variant) {query params : Value} {text : Wide} (worded : query.wide? = some text)
    (absent : params.isNull = true) :
    make converter (.text encoding) variant query params =
      (.ok ⟨codec.decode (codec.encodeWide text), none⟩, converter) := by
  let ground : Ground := ⟨converter, { transformer := .text encoding }⟩
  have settled : ground.encoding = encoding := rfl
  have read := Ground.queryBytes_of_wide selected ground.dumper.transformer worded params
  unfold make
  cases variant with
  | server =>
      have converted := ServerBinding.convert_of_isNull read absent {}
      simp only [ground, settled, selected, Outcome.mapError_ok, converted]
      rfl
  | client =>
      have converted := ClientBinding.convert_of_isNull read absent {}
      simp only [ground, settled, selected, Outcome.mapError_ok, converted]
      rfl

/-! ## Texts as parameters -/

/-- A text is a text parameter, and there. -/
theorem Parameter.ofValue_of_wide {value : Value} {text : Wide}
    (worded : value.wide? = some text) :
    ofValue value = .ok (.text text) ∧ value.isHole = false := by
  cases value <;> cases worded <;> exact ⟨rfl, rfl⟩

namespace TextTransform

/-- A text is dumped as its bytes, and sent as text. -/
theorem dumpOne_text (selected : Encoding.codec encoding = .ok codec) {position : Nat}
    {text : Wide} {format : Format} {output : Option Bytes} {wire : WireFormat}
    (sent : dumpOne encoding position (.text text) format = .ok (output, wire)) :
    output = some (codec.encodeWide text) ∧ wire = .text := by
  cases format with
  | binary => cases sent
  | auto | text =>
      obtain ⟨wording, worded, afterText⟩ := Outcome.bind_eq_ok.mp sent
      obtain rfl : some text = wording := Except.ok.inj worded
      obtain ⟨bytes, written, result⟩ := Outcome.bind_eq_ok.mp afterText
      obtain rfl : codec.encodeWide text = bytes :=
        Except.ok.inj ((encodeWritten_some selected text).symm.trans written)
      cases result
      exact ⟨rfl, rfl⟩

/-- Texts are dumped as their bytes, and sent as text. -/
theorem dumpFrom_texts (selected : Encoding.codec encoding = .ok codec) {position : Nat}
    {items : List (Value × Format)} {texts : List Wide}
    (given : items.map (·.1.wide?) = texts.map some) {outputs : List (Option Bytes)}
    {description : Description}
    (dumped : dumpFrom encoding position items = .ok (outputs, description)) :
    outputs = texts.map (fun text => some (codec.encodeWide text)) ∧
      ∀ wire ∈ description.formats, wire = .text := by
  induction texts generalizing position items outputs description with
  | nil =>
      obtain rfl : items = [] := List.map_eq_nil_iff.mp given
      cases dumped
      exact ⟨rfl, nofun⟩
  | cons text texts ih =>
      obtain ⟨⟨value, format⟩, rest, rfl, worded, restWorded⟩ := List.map_eq_cons_iff.mp given
      obtain ⟨typed, present⟩ := Parameter.ofValue_of_wide worded
      obtain ⟨parameter, output, wire, others, tail, typedToo, sent, behind, rfl, rfl⟩ :=
        dumpFrom_cons_eq_ok present dumped
      obtain rfl : .text text = parameter := Except.ok.inj (typed.symm.trans typedToo)
      obtain ⟨rfl, rfl⟩ := dumpOne_text selected sent
      obtain ⟨rfl, plain⟩ := ih restWorded behind
      refine ⟨rfl, fun wire among => ?_⟩
      rcases List.mem_cons.mp among with rfl | later
      · rfl
      · exact plain wire later

end TextTransform

namespace Prepared

/-- What was sent as text is handed over as it is read back. -/
theorem valuesOf_texts {formats : List WireFormat} (plain : ∀ wire ∈ formats, wire = .text)
    (outputs : List Bytes) :
    valuesOf codec (some formats) (outputs.map some) =
      outputs.map fun bytes => .text (codec.decode bytes) := by
  have each : ∀ item ∈ (outputs.map some).zipIdx,
      valueOf codec ((some formats).bind (·[item.2]?)) item.1 =
        valueOf codec (some .text) item.1 := by
    rintro ⟨output, place⟩ -
    cases output with
    | none => rfl
    | some bytes =>
        cases found : formats[place]? with
        | none => simp [valueOf, found]
        | some wire => simp [valueOf, found, plain wire (List.mem_of_getElem? found)]
  calc
    valuesOf codec (some formats) (outputs.map some) =
        (outputs.map some).zipIdx.map (valueOf codec (some .text) ∘ Prod.fst) :=
      List.map_congr_left each
    _ = (outputs.map some).map (valueOf codec (some .text)) := by
      rw [← List.map_map, List.zipIdx_map_fst]
    _ = outputs.map fun bytes => .text (codec.decode bytes) := by
      rw [List.map_map]
      rfl

end Prepared

namespace ServerBinding

/-- What a binding holds if its parameters are these texts. -/
structure HoldsTexts (binding : ServerBinding) (codec : Codec) (texts : List Wide) : Prop where
  params : binding.params = some (texts.map fun text => some (codec.encodeWide text))
  formats : ∃ formats, binding.formats = some formats ∧ ∀ wire ∈ formats, wire = .text

/-- The binding holds the texts that its parameters are. -/
theorem dumpParams_texts (selected : Encoding.codec encoding = .ok codec) {dumper left : Dumper}
    (own : dumper.transformer = .text encoding) {parsed : ServerQuery} {items : List Value}
    {texts : List Wide} (given : items.map Value.wide? = texts.map some) {dumped : Dump}
    (came : dumpParams dumper parsed (.list items) = (.ok dumped, left))
    (binding : ServerBinding) : (binding.hold dumped).HoldsTexts codec texts := by
  unfold dumpParams at came
  split at came
  · next values bound =>
      obtain rfl : items = values := Params.values_of_sequence (Outcome.mapError_eq_ok.mp bound)
      unfold Dumper.dump at came
      rw [own] at came
      split at came
      · next made =>
          cases came
          obtain ⟨description, counted, described, each, -⟩ := TextTransform.dump_eq_ok made
          have firsts : (items.zip parsed.formats).map Prod.fst = items :=
            List.map_fst_zip (Nat.le_of_eq counted)
          have worded : (items.zip parsed.formats).map (·.1.wide?) = texts.map some := by
            rw [← given, ← firsts, List.map_map, firsts]
            rfl
          obtain ⟨outputs, plain⟩ := TextTransform.dumpFrom_texts selected worded each
          refine ⟨congrArg some outputs, description.formats, ?_, plain⟩
          rw [hold, described]
          rfl
      · cases came
  · cases came

/-- A binding that was converted with texts holds them. -/
theorem convert_texts (selected : Encoding.codec encoding = .ok codec)
    {binding next : ServerBinding} {ground left : Ground}
    (own : ground.dumper.transformer = .text encoding) {query : Value} {items : List Value}
    {texts : List Wide} (given : items.map Value.wide? = texts.map some)
    (came : binding.convert ground encoding query (.list items) = (.ok (), next, left)) :
    next.HoldsTexts codec texts := by
  unfold convert at came
  split at came
  · cases came
  split at came
  · next absent => cases absent
  split at came
  · cases came
  split at came
  · cases came
  · next dumped =>
      cases came
      exact dumpParams_texts selected own given dumped _

end ServerBinding

/-- Texts that are bound on the server are handed over as they are read back. -/
theorem Prepared.make_texts {converter left : Converter}
    (selected : Encoding.codec encoding = .ok codec) {query : Value} {items : List Value}
    {texts : List Wide} (given : items.map Value.wide? = texts.map some) {prepared : Prepared}
    (made : make converter (.text encoding) .server query (.list items) = (.ok prepared, left)) :
    prepared.values =
      some (texts.map fun text => .text (codec.decode (codec.encodeWide text))) := by
  have settled : Ground.encoding ⟨converter, { transformer := .text encoding }⟩ = encoding := rfl
  unfold make at made
  simp only [settled, selected, Outcome.mapError_ok] at made
  split at made
  · next converted =>
      obtain ⟨params, formats, sent, plain⟩ :=
        ServerBinding.convert_texts selected rfl given converted
      cases made
      have outputs : texts.map (fun text => some (codec.encodeWide text)) =
          (texts.map codec.encodeWide).map some := (List.map_map ..).symm
      rw [ofServer, params, sent, Option.map_some, outputs, valuesOf_texts plain, List.map_map]
      rfl
  · cases made

namespace Executor

/-- The executor uses the text transformer of an encoding with this codec. -/
structure Writes (executor : Executor) (codec : Codec) : Prop where
  transformer : executor.transformer = none
  selected : Encoding.codec (executor.encoding.getD executor.converter.config.encoding) = .ok codec

variable {executor : Executor}

/-- Such an executor uses the text transformer of its encoding. -/
theorem Writes.transformerInUse (writes : executor.Writes codec) :
    executor.transformerInUse =
      .text (executor.encoding.getD executor.converter.config.encoding) := by
  rw [Executor.transformerInUse, writes.transformer]
  rfl

/-- A query text without parameters is handed over as it is read back. -/
theorem Writes.prepare_text (writes : executor.Writes codec) (variant : Variant)
    {query params : Value} {text : Wide} (worded : query.wide? = some text)
    (absent : params.isNull = true) :
    executor.prepare variant query params =
      (.ok ⟨codec.decode (codec.encodeWide text), none⟩, executor) := by
  have made := Prepared.make_text executor.converter writes.selected variant worded absent
  simp only [prepare, writes.transformerInUse, made]

/-- Texts that are bound on the server are handed over as they are read back. -/
theorem Writes.values_of_texts (writes : executor.Writes codec) {query : Value}
    {items : List Value} {texts : List Wide} (given : items.map Value.wide? = texts.map some)
    {prepared : Prepared} (came : (executor.prepare .server query (.list items)).1 = .ok prepared) :
    prepared.values =
      some (texts.map fun text => .text (codec.decode (codec.encodeWide text))) := by
  unfold prepare at came
  rw [writes.transformerInUse] at came
  cases made : Prepared.make executor.converter
      (.text (executor.encoding.getD executor.converter.config.encoding)) .server query
      (.list items) with
  | mk outcome converter =>
      rw [made] at came
      obtain rfl : outcome = .ok prepared := came
      exact Prepared.make_texts writes.selected given made

/-- **Which texts reach the client unaltered.** A query text without parameters is always handed
over, and it is the text that was given if and only if all its characters are characters of the
codec. Texts that are bound on the server are handed over as they are if and only if that holds of
all of them. A text in which half of a character stands alone is handed over too, but never as it
is. -/
theorem prepare_keeps_iff (writes : executor.Writes codec) :
    (∀ (variant : Variant) (query : String) (params : Value), params.isNull = true →
      ∃ prepared, (executor.prepare variant (.text query) params).1 = .ok prepared ∧
        (prepared.text = query ↔ codec.Keeps query)) ∧
      (∀ (query : Value) (texts : List String) (prepared : Prepared),
        (executor.prepare .server query (.list (texts.map .text))).1 = .ok prepared →
          (prepared.values = some (texts.map .text) ↔ ∀ text ∈ texts, codec.Keeps text)) ∧
      (∀ (variant : Variant) (query : Value) (text : Wide) (params : Value),
        query.wide? = some text → params.isNull = true →
          ∃ prepared, (executor.prepare variant query params).1 = .ok prepared ∧
            (Wide.ofText prepared.text = text ↔ codec.KeepsWide text)) ∧
      ∀ (query : Value) (items : List Value) (texts : List Wide) (prepared : Prepared),
        items.map Value.wide? = texts.map some →
          (executor.prepare .server query (.list items)).1 = .ok prepared →
            ∃ handed : List String, prepared.values = some (handed.map .text) ∧
              (handed.map Wide.ofText = texts ↔ ∀ text ∈ texts, codec.KeepsWide text) := by
  refine ⟨?_, ?_, ?_, ?_⟩
  · intro variant query params absent
    have worded : (Value.text query).wide? = some (.ofText query) := rfl
    have handed := writes.prepare_text variant worded absent
    rw [Codec.encodeWide_ofText] at handed
    exact ⟨_, congrArg Prod.fst handed, codec.decode_encode_iff query⟩
  · intro query texts prepared came
    have given : (texts.map Value.text).map Value.wide? = (texts.map Wide.ofText).map some := by
      rw [List.map_map, List.map_map]
      rfl
    rw [writes.values_of_texts given came, List.map_map, Option.some.injEq, List.map_inj_left]
    refine forall₂_congr fun text _ => ?_
    rw [Function.comp_apply, Codec.encodeWide_ofText, SentValue.text.injEq]
    exact codec.decode_encode_iff text
  · intro variant query text params worded absent
    have handed := writes.prepare_text variant worded absent
    exact ⟨_, congrArg Prod.fst handed, codec.decode_encodeWide_iff text⟩
  · intro query items texts prepared given came
    refine ⟨texts.map fun text => codec.decode (codec.encodeWide text), ?_, ?_⟩
    · rw [writes.values_of_texts given came, List.map_map]
      rfl
    · nth_rewrite 2 [← List.map_id texts]
      rw [List.map_map, List.map_inj_left]
      exact forall₂_congr fun text _ => codec.decode_encodeWide_iff text

/-- In a single-byte encoding a letter beyond the limit reaches the client as another character,
in a query and among the parameters of one. -/
theorem prepare_keeps_iff_of_latin1 :
    let executor : Executor :=
      { converter := ⟨.standard, { capacity := .int 1 }, { capacity := .int 1 }, {}⟩
        encoding := some "latin1" }
    let texts : List String := ["é", "ħ"]
    executor.Writes .latin1 ∧
      (∃ prepared, (executor.prepare .client (.text "SELECT 'ħ'") .undefined).1 = .ok prepared ∧
        prepared.text ≠ "SELECT 'ħ'") ∧
      ∃ prepared, (executor.prepare .server (.text "SELECT %s, %t") (.list (texts.map .text))).1 =
          .ok prepared ∧
        prepared.values ≠ some (texts.map .text) := by
  intro executor texts
  have writes : executor.Writes .latin1 := ⟨rfl, Encoding.codec_name .latin1⟩
  have bound : (executor.prepare .server (.text "SELECT %s, %t")
      (.list (texts.map .text))).1.toOption.isSome = true := by
    decide +kernel
  obtain ⟨queries, values, -⟩ := prepare_keeps_iff writes
  refine ⟨writes, ?_, ?_⟩
  · obtain ⟨prepared, handed, kept⟩ := queries .client "SELECT 'ħ'" .undefined rfl
    have lost : ¬ Codec.latin1.Keeps "SELECT 'ħ'" := by decide
    exact ⟨prepared, handed, fun same => lost (kept.mp same)⟩
  · cases came : (executor.prepare .server (.text "SELECT %s, %t") (.list (texts.map .text))).1 with
    | error fault =>
        rw [came] at bound
        cases bound
    | ok prepared =>
        have lost : ¬ ∀ text ∈ texts, Codec.latin1.Keeps text := by decide
        exact ⟨prepared, rfl, fun same => lost ((values _ texts prepared came).mp same)⟩

end Executor

end QueryBind
