import Mathlib
import QueryBind.Proofs.Binding.Denotation
import QueryBind.Proofs.Binding.Refusals
import QueryBind.Proofs.Sql.Declared
import QueryBind.Proofs.Transform.Sequence
import QueryBind.Proofs.Value.Offered

/-! # Conversions that stumble

What is neither converted nor refused. The text transformer stumbles over an object without a
serialized text, a composed query over a part that is not composable, yields nothing or was never
there, a map of parameters over a key without a text, and a template over a literal that was never
there. The conversion of a query as it is declared escapes exactly if it comes to one of these
(`Binding.escapes_ofQuery_iff`).
-/

namespace QueryBind

open Outcome

/-- An item is of a kind, and those in front of it pass. -/
def FirstSuch {α : Type} (passes : List α → Prop) (such : α → Prop) (items : List α) : Prop :=
  ∃ front item back, items = front ++ item :: back ∧ passes front ∧ such item

section FirstSuch

variable {α : Type} {passes : List α → Prop} {such : α → Prop}

private theorem not_firstSuch_nil : ¬ FirstSuch passes such [] := by
  rintro ⟨front, _, _, split, _⟩
  cases front <;> cases split

/-- The first such item is the head, or it stands behind a head that passes. -/
theorem firstSuch_cons_iff {later : List α → Prop} {head : α} {rest : List α} {good : Prop}
    (empty : passes []) (split : ∀ front, passes (head :: front) ↔ good ∧ later front) :
    FirstSuch passes such (head :: rest) ↔ such head ∨ (good ∧ FirstSuch later such rest) := by
  constructor
  · rintro ⟨front, item, back, same, passed, found⟩
    cases front with
    | nil =>
        obtain ⟨rfl, _⟩ := List.cons.inj same
        exact .inl found
    | cons first front =>
        obtain ⟨rfl, rfl⟩ := List.cons.inj same
        obtain ⟨holds, behind⟩ := (split front).mp passed
        exact .inr ⟨holds, front, item, back, rfl, behind, found⟩
  · rintro (found | ⟨holds, front, item, back, rfl, behind, found⟩)
    · exact ⟨[], head, rest, rfl, empty, found⟩
    · exact ⟨head :: front, item, back, rfl, (split front).mpr ⟨holds, behind⟩, found⟩

end FirstSuch

/-! ## Values -/

namespace Parameter

/-- Only objects are serialized. -/
theorem ofValue_eq_json {value held : Value} (came : ofValue value = .ok (.json held)) :
    held = value ∧ value.isUnwritten = false := by
  cases value with
  | number n =>
      cases safe : n.isSafeInteger <;> simp [ofValue, safe] at came
  | date instant => cases instant <;> simp [ofValue] at came
  | undefined | hole | null | bool _ | bigint _ | text _ | brokenText _ | symbol _ | function _
  | buffer _ | octets _ => cases came
  | _ =>
      cases came
      exact ⟨rfl, rfl⟩

private theorem jsonText_eq_none_iff (value : Value) :
    jsonText value = .ok none ↔ Value.Json.text? value = .ok none := by
  unfold jsonText
  cases Value.Json.text? value <;> simp

private theorem ofValue_of_isTextless {value : Value} (textless : value.isTextless = true) :
    ofValue value = .ok (.json value) := by
  cases value with
  | record | bareRecord | classInstance | derived => rfl
  | _ => cases textless

/-- Parameters without a text are null, and the objects without a serialized text. -/
theorem sentText_eq_none_iff {value : Value} {parameter : Parameter}
    (typed : ofValue value = .ok parameter) :
    parameter.sentText = .ok none ↔ parameter = .null ∨ value.isTextless = true := by
  cases parameter with
  | json held =>
      obtain ⟨rfl, written⟩ := ofValue_eq_json typed
      have unworded : (json held).sentText = .ok none ↔ jsonText held = .ok none := by
        rw [sentText, map_eq_ok]
        simp
      rw [unworded, jsonText_eq_none_iff, Value.Json.text?_eq_none_iff written]
      simp
  | null => simp [sentText]
  | _ =>
      have texted : value.isTextless = false := by
        refine eq_false_of_ne_true fun textless => ?_
        cases typed.symm.trans (ofValue_of_isTextless textless)
      simp [sentText, texted]

end Parameter

namespace TextTransform

variable {encoding : String} {codec : Text.Codec} (selected : Encoding.codec encoding = .ok codec)

include selected

private theorem escapes_encodeWritten_iff (text : Option Text.Wide) :
    Escapes (encodeWritten encoding text) ↔ text = none := by
  unfold encodeWritten
  rw [selected, mapError_ok]
  cases text with
  | none => exact iff_of_true (escapes_wrongKind _ _) rfl
  | some written => exact iff_of_false (not_escapes_ok _) nofun

private theorem escapes_sent_iff (parameter : Parameter) :
    Escapes (do
        let text ← parameter.sentText.mapError Fault.query
        let bytes ← encodeWritten encoding text
        return (some bytes, WireFormat.text)) ↔ parameter.sentText = .ok none := by
  have worded := not_escapes_mapError (Parameter.sentText_fails parameter).refuses
  rw [escapes_bind]
  simp only [worded, false_or, mapError_eq_ok, escapes_return, escapes_encodeWritten_iff selected,
    exists_eq_right]

/-- A value is dumped or refused, unless it is an object without a text that is not asked for in
binary. -/
theorem escapes_dumpOne_iff {value : Value} {parameter : Parameter}
    (typed : Parameter.ofValue value = .ok parameter) (position : Nat) (format : Format) :
    Escapes (dumpOne encoding position parameter format) ↔
      value.isTextless = true ∧ format ≠ .binary := by
  have sends := escapes_sent_iff selected parameter
  rw [Parameter.sentText_eq_none_iff typed] at sends
  by_cases textless : value.isTextless = true
  · cases typed.symm.trans (Parameter.ofValue_of_isTextless textless)
    cases format with
    | binary =>
        exact iff_of_false (not_escapes_query (ne_of_beq_false rfl)) fun asked => asked.2 rfl
    | auto | text => exact iff_of_true (sends.mpr (.inr textless)) ⟨textless, nofun⟩
  · refine iff_of_false ?_ fun asked => textless asked.1
    unfold dumpOne
    split
    · exact not_escapes_ok _
    · exact not_escapes_ok _
    · exact not_escapes_ok _
    · exact not_escapes_query (ne_of_beq_false rfl)
    · next present _ _ _ =>
        intro escapes
        rcases sends.mp escapes with rfl | without
        · exact present rfl
        · exact textless without

/-- One value is sent or refused, unless it is an object without a text that is not asked for in
binary. -/
theorem escapes_sendOne_iff (position : Nat) (value : Value) (format : Format) :
    Escapes (sendOne encoding position value format) ↔
      value.isTextless = true ∧ format ≠ .binary := by
  have typing := not_escapes_mapError (Parameter.ofValue_fails value).refuses
  rw [sendOne, escapes_bind]
  simp only [typing, false_or, mapError_eq_ok, escapes_return]
  constructor
  · rintro ⟨parameter, typed, stumbles⟩
    exact (escapes_dumpOne_iff selected typed position format).mp stumbles
  · intro stumbles
    have typed := Parameter.ofValue_of_isTextless stumbles.1
    exact ⟨_, typed, (escapes_dumpOne_iff selected typed position format).mpr stumbles⟩

omit selected in
/-- A value without a text is there. -/
theorem isHole_of_isTextless {value : Value} (textless : value.isTextless = true) :
    value.isHole = false := by
  cases value with
  | hole => cases textless
  | _ => rfl

/-- One value, and those behind it. -/
theorem escapes_dumpFrom_cons_iff (position : Nat) (value : Value) (format : Format)
    (rest : List (Value × Format)) :
    Escapes (dumpFrom encoding position ((value, format) :: rest)) ↔
      (value.isTextless = true ∧ format ≠ .binary) ∨
        (value.isHole = true ∨ ∃ sent, sendOne encoding position value format = .ok sent) ∧
          Escapes (dumpFrom encoding (position + 1) rest) := by
  cases missing : value.isHole with
  | true =>
      have written : ¬ value.isTextless = true := fun textless => by
        rw [isHole_of_isTextless textless] at missing
        cases missing
      rw [dumpFrom_cons_of_hole missing]
      simp [written]
  | false =>
      rw [dumpFrom_cons missing, escapes_bind, escapes_sendOne_iff selected]
      simp [escapes_map]

omit selected in
private theorem exists_dumpFrom_cons_iff (position : Nat) (value : Value) (format : Format)
    (rest : List (Value × Format)) :
    (∃ dumped, dumpFrom encoding position ((value, format) :: rest) = .ok dumped) ↔
      (value.isHole = true ∨ ∃ sent, sendOne encoding position value format = .ok sent) ∧
        ∃ dumped, dumpFrom encoding (position + 1) rest = .ok dumped := by
  cases missing : value.isHole with
  | true =>
      rw [dumpFrom_cons_of_hole missing]
      simp
  | false =>
      rw [dumpFrom_cons missing]
      simp only [bind_eq_ok, map_eq_ok, Bool.false_eq_true, false_or]
      constructor
      · rintro ⟨_, sent, came, dumped, behind, _⟩
        exact ⟨⟨sent, came⟩, dumped, behind⟩
      · rintro ⟨⟨sent, came⟩, dumped, behind⟩
        exact ⟨_, sent, came, dumped, behind, rfl⟩

/-- Values are dumped or refused up to the first one that is neither. -/
theorem escapes_dumpFrom_iff (position : Nat) (items : List (Value × Format)) :
    Escapes (dumpFrom encoding position items) ↔
      FirstSuch (fun front => ∃ dumped, dumpFrom encoding position front = .ok dumped)
        (fun item => item.1.isTextless = true ∧ item.2 ≠ .binary) items := by
  induction items generalizing position with
  | nil => exact iff_of_false (not_escapes_ok _) not_firstSuch_nil
  | cons item rest ih =>
      obtain ⟨value, format⟩ := item
      rw [escapes_dumpFrom_cons_iff selected, ih,
        firstSuch_cons_iff ⟨_, rfl⟩ (exists_dumpFrom_cons_iff position value format)]

/-- A dump stumbles over the first value without a serialized text that is not asked for in binary.
-/
theorem escapes_dump_iff {values : List Value} {formats : List Format}
    (enough : values.length = formats.length) :
    Escapes (dump encoding values formats) ↔
      FirstSuch (fun front => ∃ dumped, dumpFrom encoding 1 front = .ok dumped)
        (fun item => item.1.isTextless = true ∧ item.2 ≠ .binary) (values.zip formats) := by
  rw [dump, if_neg (not_not_intro enough), escapes_map, escapes_dumpFrom_iff selected]

omit selected in
/-- A literal stumbles over a value without a serialized text. -/
theorem escapes_literalText_iff {value : Value} {parameter : Parameter}
    (typed : Parameter.ofValue value = .ok parameter) :
    Escapes (literalText parameter) ↔ value.isTextless = true := by
  have texted (different : parameter ≠ .json value) : ¬ value.isTextless = true := by
    intro textless
    cases typed.symm.trans (Parameter.ofValue_of_isTextless textless)
    exact different rfl
  cases parameter with
  | json held =>
      obtain ⟨rfl, written⟩ := Parameter.ofValue_eq_json typed
      rw [literalText, escapes_bind, ← Value.Json.text?_eq_none_iff written,
        ← Parameter.jsonText_eq_none_iff]
      simp only [not_escapes_mapError (Parameter.jsonText_fails _).refuses, false_or,
        mapError_eq_ok]
      constructor
      · rintro ⟨text, came, escapes⟩
        cases text with
        | none => exact came
        | some written =>
            exact absurd (escapes_return.mp escapes)
              (not_escapes_mapError (Sql.quoteText_fails written).refuses)
      · exact fun came => ⟨none, came, escapes_wrongKind _ _⟩
  | text content =>
      exact iff_of_false (not_escapes_mapError (Sql.quoteWide_fails content).refuses)
        (texted (by simp))
  | _ => exact iff_of_false (not_escapes_ok _) (texted (by simp))

omit selected in
/-- A literal is rendered or refused, unless it is the one of an object without a text. -/
theorem escapes_literal_iff (value : Value) :
    Escapes (literal encoding value) ↔ value.isTextless = true := by
  have typing := not_escapes_mapError (Parameter.ofValue_fails value).refuses
  have encoding := fun text =>
    not_escapes_mapError (Encoding.encodeWide_fails encoding text).refuses
  rw [literal, escapes_bind]
  simp only [typing, false_or, mapError_eq_ok, escapes_bind, encoding, and_false, exists_false,
    or_false]
  constructor
  · rintro ⟨parameter, typed, escapes⟩
    exact (escapes_literalText_iff typed).mp escapes
  · intro textless
    have typed := Parameter.ofValue_of_isTextless textless
    exact ⟨_, typed, (escapes_literalText_iff typed).mpr textless⟩

end TextTransform

/-! ## Queries -/

namespace Sql

variable {encoding : String}

/-- Rendering a literal stumbles over a value without a serialized text. -/
theorem escapes_renderLiteral_iff (value : Value) :
    Escapes (renderLiteral (.text encoding) value) ↔ value.isTextless = true := by
  unfold renderLiteral
  split
  · next absent =>
      refine iff_of_false (not_escapes_ok _) ?_
      cases value with
      | undefined | hole | null => exact nofun
      | _ => cases absent
  · exact TextTransform.escapes_literal_iff value

/-- What is neither rendered nor refused: a literal without a text, what is not composable, what
inherits from either, and what is composed of parts of which one is neither, yields nothing or was
never there. -/
inductive Stumbles (encoding : String) : Value → Prop
  | literal {value : Value} (textless : value.isTextless = true) :
    Stumbles encoding (.literal value)
  | foreign {item : Value} (other : item.isComposable = false) : Stumbles encoding item
  | heir {parent : Value} {fields : Fields} (bare : Fields.get? fields "asBytes" = none)
    (stumbles : Stumbles encoding parent) : Stumbles encoding (.derived parent fields)
  | part {front back : List Value} {item : Value}
    (rendered : ∃ parts, renderings (.text encoding) front = .ok parts)
    (present : item.isHole = false) (stumbles : Stumbles encoding item) :
    Stumbles encoding (.composed (front ++ item :: back))
  | nothing {items : List Value} {item : Value}
    (rendered : ∃ parts, renderings (.text encoding) items = .ok parts) (among : item ∈ items)
    (missing : item.isHole = true ∨ YieldsNothing item) : Stumbles encoding (.composed items)

/-- A composition stumbles over its first item that does, or if an item comes to nothing. -/
theorem stumbles_composed_iff {items : List Value} :
    Stumbles encoding (.composed items) ↔
      FirstSuch (fun front => ∃ parts, renderings (.text encoding) front = .ok parts)
          (fun item => item.isHole = false ∧ Stumbles encoding item) items ∨
        (∃ parts, renderings (.text encoding) items = .ok parts) ∧
          ∃ item ∈ items, item.isHole = true ∨ YieldsNothing item := by
  constructor
  · intro stumbles
    cases stumbles with
    | foreign other => cases other
    | part rendered present stumbles => exact .inl ⟨_, _, _, rfl, rendered, present, stumbles⟩
    | nothing rendered among missing => exact .inr ⟨rendered, _, among, missing⟩
  · rintro (⟨front, item, back, rfl, rendered, present, stumbles⟩ |
      ⟨rendered, item, among, missing⟩)
    · exact .part rendered present stumbles
    · exact .nothing rendered among missing

private theorem escapes_renderOwn_iff (own : Value) :
    Escapes (renderOwn own) ↔ own.isFunction = false := by
  cases own with
  | function result =>
      refine iff_of_false ?_ nofun
      cases result <;> exact not_escapes_ok _
  | _ => exact iff_of_true (escapes_wrongKind _ _) rfl

private theorem escapes_assemble_iff (parts : List (Option Bytes)) :
    Escapes (assemble parts) ↔ none ∈ parts := by
  rw [← mapM_id_eq_none_iff, assemble]
  cases parts.mapM id with
  | none => exact iff_of_true (escapes_wrongKind _ _) rfl
  | some joined => exact iff_of_false (not_escapes_ok _) nofun

/-- A part is missing among renderings exactly if it was never there or yields nothing. -/
theorem none_mem_renderings_iff {items : List Value} (declared : areDeclared items = true)
    {parts : List (Option Bytes)} (rendered : renderings (.text encoding) items = .ok parts) :
    none ∈ parts ↔ ∃ item ∈ items, item.isHole = true ∨ YieldsNothing item := by
  induction items generalizing parts with
  | nil =>
      cases rendered
      simp
  | cons item rest ih =>
      obtain ⟨head, tail⟩ := Bool.and_eq_true_iff.mp declared
      rw [renderings] at rendered
      obtain ⟨first, came, later⟩ := bind_eq_ok.mp rendered
      obtain ⟨others, behind, same⟩ := bind_eq_ok.mp later
      cases same
      have own : none = first ↔ item.isHole = true ∨ YieldsNothing item := by
        cases missing : item.isHole with
        | true =>
            rw [missing] at came
            cases came
            simp
        | false =>
            simp only [missing, Bool.false_eq_true, if_false] at came
            rw [← rendering_eq_none_iff (.text encoding) head, came]
            simp [eq_comm]
      rw [List.mem_cons, own, ih tail behind, List.exists_mem_cons_iff]

/-- A value that stumbles, and is neither composed nor an heir, is a literal or not composable. -/
theorem stumbles_iff_foreign (item : Value) (literal : ∀ value, item ≠ .literal value)
    (composed : ∀ items, item ≠ .composed items)
    (derived : ∀ parent fields, item ≠ .derived parent fields) :
    Stumbles encoding item ↔ item.isComposable = false := by
  constructor
  · intro stumbles
    cases stumbles with
    | literal => exact absurd rfl (literal _)
    | foreign other => exact other
    | heir => exact absurd rfl (derived _ _)
    | part | nothing => exact absurd rfl (composed _)
  · exact .foreign

/-- An heir without a rendering function of its own stumbles exactly if what it inherits from
does. -/
theorem stumbles_derived_iff {parent : Value} {fields : Fields} :
    Stumbles encoding (.derived parent fields) ↔
      match Fields.get? fields "asBytes" with
      | some own => own.isFunction = false
      | none => Stumbles encoding parent := by
  cases found : Fields.get? fields "asBytes" with
  | some own =>
      constructor
      · intro stumbles
        cases stumbles with
        | foreign other => simpa [Value.isComposable, found] using other
        | heir bare => cases found.symm.trans bare
      · exact fun other => .foreign (by simpa [Value.isComposable, found] using other)
  | none =>
      constructor
      · intro stumbles
        cases stumbles with
        | foreign other => exact .foreign (by simpa [Value.isComposable, found] using other)
        | heir _ stumbles => exact stumbles
      · exact .heir found

mutual

/-- What a declared composable value yields is refused unless it stumbles. -/
theorem escapes_rendering_iff (item : Value) (declared : isDeclared item = true) :
    Escapes (rendering (.text encoding) item) ↔ Stumbles encoding item := by
  match item with
  | .sql source =>
      rw [stumbles_iff_foreign (.sql source) nofun nofun nofun, rendering, escapes_map]
      exact iff_of_false (not_escapes_mapError (Encoding.encodeWide_fails _ _).refuses) nofun
  | .identifier names =>
      rw [stumbles_iff_foreign (.identifier names) nofun nofun nofun, rendering, escapes_bind]
      refine iff_of_false ?_ nofun
      rintro (quoted | ⟨text, _, written⟩)
      · exact not_escapes_mapError (quoteNames_fails names).refuses quoted
      · exact not_escapes_mapError (Encoding.encodeWide_fails _ _).refuses
          (escapes_return.mp written)
  | .literal value =>
      rw [rendering, escapes_map, escapes_renderLiteral_iff]
      constructor
      · exact .literal
      · intro stumbles
        cases stumbles with
        | literal textless => exact textless
        | foreign other => cases other
  | .composed items =>
      rw [rendering, stumbles_composed_iff, ← escapes_renderings_iff items declared, escapes_bind]
      simp only [escapes_return, escapes_assemble_iff]
      refine or_congr Iff.rfl ?_
      constructor
      · rintro ⟨parts, rendered, missing⟩
        exact ⟨⟨parts, rendered⟩, (none_mem_renderings_iff declared rendered).mp missing⟩
      · rintro ⟨⟨parts, rendered⟩, missing⟩
        exact ⟨parts, rendered, (none_mem_renderings_iff declared rendered).mpr missing⟩
  | .record fields | .bareRecord fields | .classInstance _ fields =>
      refine Iff.trans ?_
        (stumbles_iff_foreign _ (by exact nofun) (by exact nofun) (by exact nofun)).symm
      rw [rendering, Value.isComposable]
      cases Fields.get? fields "asBytes" with
      | some own => exact escapes_renderOwn_iff own
      | none => exact iff_of_true (escapes_wrongKind _ _) rfl
  | .derived parent fields =>
      rw [isDeclared, Bool.and_eq_true_iff] at declared
      rw [rendering, stumbles_derived_iff]
      cases Fields.get? fields "asBytes" with
      | some own => exact escapes_renderOwn_iff own
      | none => exact escapes_rendering_iff parent declared.2
  | .undefined | .hole | .null | .bool _ | .number _ | .bigint _ | .text _ | .brokenText _
  | .symbol _ | .function _ | .list _ | .map _ | .set _ | .buffer _ | .octets _ | .words _
  | .date _ | .boxed _ | .selfRecord | .selfList =>
      refine Iff.trans ?_
        (stumbles_iff_foreign _ (by exact nofun) (by exact nofun) (by exact nofun)).symm
      exact iff_of_true (escapes_wrongKind _ _) rfl

/-- Items stumble over the first one that does. -/
theorem escapes_renderings_iff (items : List Value) (declared : areDeclared items = true) :
    Escapes (renderings (.text encoding) items) ↔
      FirstSuch (fun front => ∃ parts, renderings (.text encoding) front = .ok parts)
        (fun item => item.isHole = false ∧ Stumbles encoding item) items := by
  match items with
  | [] => exact iff_of_false (not_escapes_ok _) not_firstSuch_nil
  | item :: rest =>
      obtain ⟨head, tail⟩ := Bool.and_eq_true_iff.mp declared
      have split (front : List Value) :
          (∃ parts, renderings (.text encoding) (item :: front) = .ok parts) ↔
            (∃ yielded, (if item.isHole then .ok none else rendering (.text encoding) item) =
              .ok yielded) ∧ ∃ parts, renderings (.text encoding) front = .ok parts := by
        rw [renderings]
        exact exists_join_eq_ok
      have own : Escapes (if item.isHole then .ok none else rendering (.text encoding) item) ↔
          item.isHole = false ∧ Stumbles encoding item := by
        rw [← escapes_rendering_iff item head]
        cases item.isHole <;> simp [not_escapes_ok]
      rw [firstSuch_cons_iff ⟨[], rfl⟩ split, ← own, ← escapes_renderings_iff rest tail, renderings]
      exact escapes_join

end

end Sql

/-- What is no query, though it looks like one that renders itself. -/
def Ground.Stumbles (encoding : String) (query : Value) : Prop :=
  query.isComposable = true ∧ (Sql.Stumbles encoding query ∨ Sql.YieldsNothing query)

/-- The bytes of a declared query stumble over what it is made of. -/
theorem Ground.escapes_queryBytes_iff (encoding : String) {query : Value}
    (declared : Sql.isDeclared query = true) (params : Value) :
    Escapes (queryBytes (.text encoding) encoding query params) ↔ Stumbles encoding query := by
  unfold queryBytes
  split
  · exact iff_of_false (not_escapes_mapError (Encoding.encode_fails _ _).refuses) (nomatch ·.1)
  · exact iff_of_false (not_escapes_mapError (Encoding.encodeWide_fails _ _).refuses)
      (nomatch ·.1)
  · exact iff_of_false (not_escapes_ok _) (nomatch ·.1)
  · exact iff_of_false (not_escapes_ok _) (nomatch ·.1)
  · split
    · next composable =>
        rw [Stumbles, and_iff_right composable, ← Sql.escapes_rendering_iff _ declared,
          ← Sql.rendering_eq_none_iff (.text encoding) declared, Sql.renderFor]
        split
        · next rendered =>
            rw [rendered]
            exact iff_of_false (not_escapes_ok _) (by simp [not_escapes_ok])
        · next rendered =>
            exact iff_of_true (escapes_wrongKind _ _) (.inr rendered)
        · next failed =>
            rw [failed, escapes_error, escapes_error]
            exact (or_iff_left (by exact nofun)).symm
    · next other =>
        exact iff_of_false (not_escapes_query (ne_of_beq_false rfl)) fun asked => other asked.1

/-! ## Parameters -/

/-- A map with a key that has no text. -/
def Params.Stumbles (params : Value) : Prop :=
  ∃ entries entry fault, params = .map entries ∧ entry ∈ entries ∧
    entry.1.display = .error fault

private theorem Params.escapes_putAll_iff (entries : List (Text.Wide × Value))
    (added : List (Value × Value)) :
    Escapes (putAll entries added) ↔
      ∃ entry ∈ added, ∃ fault, entry.1.display = .error fault := by
  induction added generalizing entries with
  | nil => simp [putAll, not_escapes_ok]
  | cons entry rest ih =>
      obtain ⟨key, value⟩ := entry
      have named := key.display_fails
      rw [putAll]
      cases shown : key.display with
      | ok name => simp [ih, shown]
      | error fault =>
          refine iff_of_true ⟨fault, rfl, (named fault shown).not_isRefusal⟩ ?_
          exact ⟨(key, value), List.mem_cons_self, fault, shown⟩

private theorem Params.escapes_ofValue_iff (params : Value) :
    Escapes (ofValue params) ↔ Stumbles params := by
  have other (different : ∀ entries, params ≠ .map entries) : ¬ Stumbles params := by
    rintro ⟨entries, _, _, same, _⟩
    exact different entries same
  unfold ofValue
  split
  · exact iff_of_false (not_escapes_ok _) (other nofun)
  · exact iff_of_false (not_escapes_ok _) (other nofun)
  · next entries =>
      rw [escapes_map, escapes_putAll_iff]
      constructor
      · rintro ⟨entry, member, fault, shown⟩
        exact ⟨entries, entry, fault, rfl, member, shown⟩
      · rintro ⟨_, entry, fault, same, member, shown⟩
        cases same
        exact ⟨entry, member, fault, shown⟩
  · next different =>
      refine iff_of_false ?_ (other different)
      split
      · exact not_escapes_ok _
      · exact not_escapes_query (ne_of_beq_false rfl)

/-- Taking values from parameters stumbles over a key without a text. -/
theorem Params.escapes_bind_iff (scan : Scan) (order : Option (List String)) (params : Value) :
    Escapes (Params.bind scan order params) ↔ Stumbles params := by
  rw [← escapes_ofValue_iff]
  unfold Params.bind
  cases ofValue params with
  | ok held =>
      exact iff_of_false (not_escapes_mapError (valuesFor_refuses scan order held))
        (not_escapes_ok _)
  | error fault => exact escapes_error.trans escapes_error.symm

private theorem ClientBinding.escapes_literal?_iff (encoding : String) (value : Value) :
    Escapes (literal? (.text encoding) value) ↔ value.isTextless = true := by
  unfold literal?
  split
  · next missing =>
      refine iff_of_false (not_escapes_ok _) fun textless => ?_
      rw [TextTransform.isHole_of_isTextless textless] at missing
      cases missing
  · rw [escapes_map, Sql.escapes_renderLiteral_iff]

private theorem ClientBinding.escapes_literals_iff (encoding : String) (values : List Value) :
    Escapes (literals (.text encoding) values) ↔
      FirstSuch (fun front => ∃ rendered, literals (.text encoding) front = .ok rendered)
        (fun value => value.isTextless = true) values := by
  induction values with
  | nil => exact iff_of_false (not_escapes_ok _) not_firstSuch_nil
  | cons value rest ih =>
      have split (front : List Value) :
          (∃ rendered, literals (.text encoding) (value :: front) = .ok rendered) ↔
            (∃ literal, literal? (.text encoding) value = .ok literal) ∧
              ∃ rendered, literals (.text encoding) front = .ok rendered :=
        exists_join_eq_ok
      rw [firstSuch_cons_iff ⟨[], rfl⟩ split, ← ih, ← escapes_literal?_iff]
      exact escapes_join

/-- A template that takes as many literals as there are is missing one exactly if one of the values
was never there. -/
theorem ClientBinding.escapes_fillTemplate_iff {encoding : String} {values : List Value}
    {rendered : List (Option Bytes)}
    (renders : literals (.text encoding) values = .ok rendered) {template : Bytes}
    {expanded : Bytes}
    (expands : Template.expand template (rendered.map (·.getD [])) = .ok expanded) :
    Escapes (fillTemplate template rendered) ↔ ∃ value ∈ values, value.isHole = true := by
  have missing : none ∈ rendered ↔ ∃ value ∈ values, value.isHole = true := by
    rw [literals_eq_ok_iff] at renders
    clear expands
    induction renders with
    | nil => simp
    | @cons value literal values rendered first _ ih =>
        have own : none = literal ↔ value.isHole = true := by
          unfold literal? at first
          split at first
          · next hole =>
              cases first
              exact iff_of_true rfl hole
          · next present =>
              obtain ⟨bytes, _, rfl⟩ := map_eq_ok.mp first
              exact iff_of_false nofun present
        rw [List.mem_cons, own, ih, List.exists_mem_cons_iff]
  rw [← missing]
  by_cases lacks : none ∈ rendered
  · rw [fillTemplate_of_none lacks expands]
    exact iff_of_true (escapes_wrongKind _ _) lacks
  · cases whole : rendered.mapM id with
    | none => exact absurd ((mapM_id_eq_none_iff rendered).mp whole) lacks
    | some literals =>
        rw [fillTemplate, expands, whole]
        exact iff_of_false (not_escapes_ok _) lacks

/-- A template that has as many slots as there are values is filled, unless a value stumbles or
was never there. -/
theorem ClientBinding.escapes_filling_iff {encoding : String} {values : List Value}
    {template : Bytes} (enough : values.length = Template.pairs template) :
    Escapes (literals (.text encoding) values >>= fillTemplate template) ↔
      FirstSuch (fun front => ∃ rendered, literals (.text encoding) front = .ok rendered)
        (fun value => value.isTextless = true) values ∨
        (∃ rendered, literals (.text encoding) values = .ok rendered) ∧
          ∃ value ∈ values, value.isHole = true := by
  rw [escapes_bind, escapes_literals_iff, ← exists_and_right]
  refine or_congr Iff.rfl (exists_congr fun rendered => and_congr_right fun renders => ?_)
  have each := literals_eq_ok_iff.mp renders
  obtain ⟨expanded, expands⟩ := Template.exists_expand <|
    (List.length_map (·.getD [])).trans (each.length_eq.symm.trans enough)
  exact escapes_fillTemplate_iff renders expands

/-- Among the values that a query takes, the first one that is not sent is an object without a
text, and it is not asked for in binary. Where literals stand for the values, a value that was never
there is missed as well once all others have their literals. -/
def Statement.Stumbles (encoding : String) (params : Value) : Statement → Prop
  | .server parsed => ∃ values, Params.bind parsed.scan parsed.order params = .ok values ∧
      FirstSuch (fun front => ∃ dumped, TextTransform.dumpFrom encoding 1 front = .ok dumped)
        (fun item => item.1.isTextless = true ∧ item.2 ≠ .binary) (values.zip parsed.formats)
  | .client parsed => ∃ values, Params.bind parsed.scan parsed.order params = .ok values ∧
      (FirstSuch (fun front => ∃ rendered,
          ClientBinding.literals (.text encoding) front = .ok rendered)
        (fun value => value.isTextless = true) values ∨
        (∃ rendered, ClientBinding.literals (.text encoding) values = .ok rendered) ∧
          ∃ value ∈ values, value.isHole = true)

/-- Parameters are bound or refused, unless they stumble or their values do. -/
theorem Statement.escapes_bindTo_iff {encoding : String} {codec : Text.Codec}
    (selected : Encoding.codec encoding = .ok codec) {query : Bytes} {variant : Variant}
    {parsed : Statement} (assembled : ofBytes encoding query variant = .ok parsed)
    (params : Value) :
    Escapes (parsed.bindTo (.text encoding) params) ↔
      Params.Stumbles params ∨ parsed.Stumbles encoding params := by
  cases parsed with
  | server parsed =>
      cases variant with
      | client =>
          obtain ⟨_, _, same⟩ := map_eq_ok.mp assembled
          cases same
      | server =>
          obtain ⟨_, assembled, same⟩ := map_eq_ok.mp assembled
          cases same
          rw [bindTo, escapes_bind, Params.escapes_bind_iff, Stumbles]
          refine or_congr Iff.rfl (exists_congr fun values => and_congr_right fun bound => ?_)
          rw [escapes_return]
          exact TextTransform.escapes_dump_iff selected
            (ServerQuery.length_of_bind selected assembled bound)
  | client parsed =>
      have assembled : ∃ query, ClientQuery.ofBytes encoding query = .ok parsed := by
        cases variant with
        | server =>
            obtain ⟨_, _, same⟩ := map_eq_ok.mp assembled
            cases same
        | client =>
            obtain ⟨_, assembled, same⟩ := map_eq_ok.mp assembled
            cases same
            exact ⟨query, assembled⟩
      obtain ⟨query, assembled⟩ := assembled
      have expanding : ClientBinding.expandParams (.text encoding) parsed params =
          Params.bind parsed.scan parsed.order params >>= fun values =>
            ClientBinding.literals (.text encoding) values >>=
              ClientBinding.fillTemplate parsed.template := by
        rw [ClientBinding.expandParams, ClientBinding.renderParams_eq_bind, bind_assoc]
      rw [bindTo, escapes_return, expanding, escapes_bind, Params.escapes_bind_iff, Stumbles]
      refine or_congr Iff.rfl (exists_congr fun values => and_congr_right fun bound => ?_)
      exact ClientBinding.escapes_filling_iff (Template.length_of_bind selected assembled bound)

/-- A conversion that is neither done nor refused. -/
inductive Binding.Stumbles (variant : Variant) (encoding : String) (query params : Value) : Prop
  | query (stumbles : Ground.Stumbles encoding query)
  | params {bytes : Bytes} {parsed : Statement} (present : params.isNull = false)
    (given : Ground.queryBytes (.text encoding) encoding query params = .ok bytes)
    (assembled : Statement.ofBytes encoding bytes variant = .ok parsed)
    (stumbles : Params.Stumbles params ∨ parsed.Stumbles encoding params)

/-- **What conversions stumble over.** A query that is put together as it is declared is converted
with its parameters or refused, whatever they are, unless its conversion stumbles. -/
theorem Binding.escapes_ofQuery_iff {encoding : String} {codec : Text.Codec}
    (selected : Encoding.codec encoding = .ok codec) (variant : Variant) {query : Value}
    (declared : Sql.isDeclared query = true) (params : Value) :
    Escapes (ofQuery variant (.text encoding) encoding query params) ↔
      Stumbles variant encoding query params := by
  rw [ofQuery, escapes_bind, Ground.escapes_queryBytes_iff encoding declared]
  constructor
  · rintro (stumbles | ⟨bytes, given, escapes⟩)
    · exact .query stumbles
    · split at escapes
      · exact absurd escapes (not_escapes_ok _)
      · next present =>
          rcases escapes_bind.mp escapes with refused | ⟨parsed, assembled, escapes⟩
          · exact absurd refused
              (not_escapes_mapError (Statement.ofBytes_fails selected bytes variant).refuses)
          · have assembled := mapError_eq_ok.mp assembled
            exact .params (eq_false_of_ne_true present) given assembled
              ((Statement.escapes_bindTo_iff selected assembled params).mp escapes)
  · rintro (stumbles | ⟨present, given, assembled, stumbles⟩)
    · exact .inl stumbles
    · refine .inr ⟨_, given, ?_⟩
      rw [if_neg (ne_true_of_eq_false present), escapes_bind]
      exact .inr ⟨_, mapError_eq_ok.mpr assembled,
        (Statement.escapes_bindTo_iff selected assembled params).mpr stumbles⟩

end QueryBind
