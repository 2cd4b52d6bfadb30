import QueryBind.Proofs.Outcome
import QueryBind.Transform.Text

/-! # Dumped sequences and literals

What the text transformer makes of a sequence, one value after the other: each value that is there
has its own output, its own type and its own wire format, and what is sent for it has nothing to do
with the values around it (`TextTransform.dumpFrom_cons`). For a value that was never there nothing
is sent. A literal is the text of a parameter, encoded.
-/

namespace QueryBind

namespace Value

/-- The values of a list that are there. -/
def present (values : List Value) : List Value :=
  values.filter fun value => !value.isHole

/-- No value of a list is missing. -/
def Gapless (values : List Value) : Prop :=
  ∀ value ∈ values, value.isHole = false

/-- All values are there if as many are there as the list is long. -/
theorem length_present_eq_iff {values : List Value} :
    (present values).length = values.length ↔ Gapless values := by
  rw [present, List.length_filter_eq_length_iff, Gapless]
  simp only [Bool.not_eq_true']

/-- A value that is not null is there. -/
theorem isHole_of_isNull {value : Value} (present : value.isNull = false) :
    value.isHole = false := by
  cases value <;> first | rfl | cases present

end Value

/-- What is sent for one value. -/
@[ext]
structure Sent where
  output : Option Bytes
  /-- The number of the type that the server is told. -/
  number : Nat
  wire : WireFormat

/-- The dump of values for which this is sent. -/
def Dump.ofSent (sents : List Sent) : Dump where
  outputs := sents.map (·.output)
  description := some ⟨sents.map (·.number), sents.map (·.wire)⟩

/-- A dump tells what was sent for each value. -/
theorem Dump.ofSent_injective {sents others : List Sent} (same : ofSent sents = ofSent others) :
    sents = others := by
  induction sents generalizing others with
  | nil =>
      cases others with
      | nil => rfl
      | cons other others => cases same
  | cons sent rest ih =>
      cases others with
      | nil => cases same
      | cons other others =>
          simp only [ofSent, List.map_cons, Dump.mk.injEq, Option.some.injEq, Description.mk.injEq,
            List.cons.injEq] at same
          obtain ⟨⟨output, outputs⟩, ⟨number, numbers⟩, wire, wires⟩ := same
          have tails : ofSent rest = ofSent others := by
            rw [ofSent, outputs, numbers, wires, ofSent]
          rw [Sent.ext output number wire, ih tails]

namespace TextTransform

variable {encoding : String} {position : Nat}

/-- What is sent for a value in a format; the position is the one that errors report. -/
def sendOne (encoding : String) (position : Nat) (value : Value) (format : Format) :
    Except Fault Sent := do
  let parameter ← (Parameter.ofValue value).mapError Fault.query
  let (output, wire) ← dumpOne encoding position parameter format
  return ⟨output, parameter.typeNumber, wire⟩

/-- What is sent is the output of a parameter, with its type. -/
theorem sendOne_eq_ok {value : Value} {format : Format} {sent : Sent}
    (came : sendOne encoding position value format = .ok sent) :
    ∃ parameter, Parameter.ofValue value = .ok parameter ∧
      dumpOne encoding position parameter format = .ok (sent.output, sent.wire) ∧
      sent.number = parameter.typeNumber := by
  obtain ⟨parameter, typed, later⟩ := Outcome.bind_eq_ok.mp came
  obtain ⟨⟨output, wire⟩, dumped, returned⟩ := Outcome.bind_eq_ok.mp later
  cases returned
  exact ⟨parameter, Outcome.mapError_eq_ok.mp typed, dumped, rfl⟩

/-- A value that was never there takes its position and nothing else. -/
theorem dumpFrom_cons_of_hole {value : Value} (missing : value.isHole = true) (format : Format)
    (rest : List (Value × Format)) :
    dumpFrom encoding position ((value, format) :: rest) =
      dumpFrom encoding (position + 1) rest := by
  rw [dumpFrom, if_pos missing]

/-- What is sent for a value that is there, and for those behind it. -/
theorem dumpFrom_cons {value : Value} (present : value.isHole = false) (format : Format)
    (rest : List (Value × Format)) :
    dumpFrom encoding position ((value, format) :: rest) =
      sendOne encoding position value format >>= fun sent =>
        (dumpFrom encoding (position + 1) rest).map fun dumped =>
          (sent.output :: dumped.1,
            ⟨sent.number :: dumped.2.types, sent.wire :: dumped.2.formats⟩) := by
  rw [dumpFrom, if_neg (ne_true_of_eq_false present), sendOne]
  cases (Parameter.ofValue value).mapError Fault.query with
  | error fault => rfl
  | ok parameter =>
      simp only [bind, Except.bind]
      cases dumpOne encoding position parameter format with
      | error fault => rfl
      | ok sent => cases dumpFrom encoding (position + 1) rest <;> rfl

/-- A value that is dumped on its own is sent as it is sent among others. -/
theorem dump_singleton {value : Value} (present : value.isHole = false) (format : Format) :
    dump encoding [value] [format] =
      (sendOne encoding 1 value format).map fun sent => .ofSent [sent] := by
  rw [dump, if_neg (by simp), List.zip_cons_cons, List.zip_nil_right,
    dumpFrom_cons present]
  cases sendOne encoding 1 value format <;> rfl

/-- A parameter is sent in text, unless it is null, bytes or asked for in binary. -/
theorem dumpOne_eq_text {parameter : Parameter} {format : Format} (present : parameter ≠ .null)
    (asked : format ≠ .binary) (plain : ∀ bytes, parameter = .binary bytes → format = .text) :
    dumpOne encoding position parameter format = do
      let text ← parameter.sentText.mapError Fault.query
      let bytes ← encodeWritten encoding text
      return (some bytes, .text) := by
  cases parameter with
  | null => exact absurd rfl present
  | binary bytes =>
      cases plain bytes rfl
      rfl
  | _ =>
      cases format with
      | binary => exact absurd rfl asked
      | auto | text => rfl

section Codec

variable {codec : Text.Codec} (selected : Encoding.codec encoding = .ok codec)

include selected

/-- A text that is there is written by the codec. -/
theorem encodeWritten_some (text : Text.Wide) :
    encodeWritten encoding (some text) = .ok (codec.encodeWide text) := by
  unfold encodeWritten
  rw [selected]
  rfl

/-- Only text is encoded. -/
theorem encodeWritten_eq_ok {text : Option Text.Wide} {bytes : Bytes}
    (encoded : encodeWritten encoding text = .ok bytes) :
    ∃ written, text = some written ∧ bytes = codec.encodeWide written := by
  cases text with
  | none =>
      unfold encodeWritten at encoded
      rw [selected] at encoded
      cases encoded
  | some written =>
      rw [encodeWritten_some selected] at encoded
      exact ⟨written, rfl, (Except.ok.inj encoded).symm⟩

/-- A parameter that is asked for in text is sent in text. -/
theorem dumpOne_text_eq_ok {parameter : Parameter} (present : parameter ≠ .null)
    {output : Option Bytes} {wire : WireFormat}
    (sent : dumpOne encoding position parameter .text = .ok (output, wire)) :
    ∃ text, parameter.sentText = .ok (some text) ∧ output = some (codec.encodeWide text) ∧
      wire = .text := by
  have asked : Format.text ≠ .binary := nofun
  rw [dumpOne_eq_text present asked fun _ _ => rfl] at sent
  obtain ⟨text, worded, later⟩ := Outcome.bind_eq_ok.mp sent
  obtain ⟨bytes, encoded, same⟩ := Outcome.bind_eq_ok.mp later
  obtain ⟨written, rfl, rfl⟩ := encodeWritten_eq_ok selected encoded
  cases same
  exact ⟨written, Outcome.mapError_eq_ok.mp worded, rfl, rfl⟩

/-- A literal is the literal text of a parameter, in the encoding. -/
theorem literal_eq_ok {value : Value} {bytes : Bytes}
    (rendered : literal encoding value = .ok bytes) :
    ∃ parameter text, Parameter.ofValue value = .ok parameter ∧ literalText parameter = .ok text ∧
      bytes = codec.encodeWide text := by
  obtain ⟨parameter, typed, later⟩ := Outcome.bind_eq_ok.mp rendered
  obtain ⟨text, spelled, encoded⟩ := Outcome.bind_eq_ok.mp later
  rw [Encoding.encodeWide_eq_ok selected] at encoded
  exact ⟨parameter, text, Outcome.mapError_eq_ok.mp typed, spelled, (Except.ok.inj encoded).symm⟩

end Codec

/-- A sequence that is dumped is one value that is dumped and a sequence that is dumped. -/
theorem dumpFrom_cons_eq_ok {value : Value} (present : value.isHole = false) {format : Format}
    {rest : List (Value × Format)} {outputs : List (Option Bytes)} {description : Description}
    (dumped : dumpFrom encoding position ((value, format) :: rest) = .ok (outputs, description)) :
    ∃ parameter output wire others tail, Parameter.ofValue value = .ok parameter ∧
      dumpOne encoding position parameter format = .ok (output, wire) ∧
      dumpFrom encoding (position + 1) rest = .ok (others, tail) ∧ outputs = output :: others ∧
      description = ⟨parameter.typeNumber :: tail.types, wire :: tail.formats⟩ := by
  rw [dumpFrom, if_neg (ne_true_of_eq_false present)] at dumped
  obtain ⟨parameter, typed, afterKind⟩ := Outcome.bind_eq_ok.mp dumped
  obtain ⟨⟨output, wire⟩, sent, afterOne⟩ := Outcome.bind_eq_ok.mp afterKind
  obtain ⟨⟨others, tail⟩, behind, result⟩ := Outcome.bind_eq_ok.mp afterOne
  cases result
  exact ⟨parameter, output, wire, others, tail, Outcome.mapError_eq_ok.mp typed, sent, behind, rfl,
    rfl⟩

/-- The entries of a sequence whose values are there. -/
def there (items : List (Value × Format)) : List (Value × Format) :=
  items.filter fun item => !item.1.isHole

/-- A value that was never there is passed over. -/
theorem there_cons_of_hole {item : Value × Format} (missing : item.1.isHole = true)
    (rest : List (Value × Format)) : there (item :: rest) = there rest := by
  rw [there, List.filter_cons_of_neg (by simp [missing]), there]

/-- A value that is there is kept. -/
theorem there_cons {item : Value × Format} (present : item.1.isHole = false)
    (rest : List (Value × Format)) : there (item :: rest) = item :: there rest := by
  rw [there, List.filter_cons_of_pos (by simp [present]), there]

private theorem length_there_zip {values : List Value} {formats : List Format}
    (enough : values.length = formats.length) :
    (there (values.zip formats)).length = (Value.present values).length := by
  induction values generalizing formats with
  | nil => rfl
  | cons value values ih =>
      cases formats with
      | nil => cases enough
      | cons format formats =>
          have behind := ih (Nat.succ.inj enough)
          rw [there, Value.present] at behind ⊢
          rw [List.zip_cons_cons]
          cases missing : value.isHole <;> simp [missing, behind]

/-- There is an output, a type and a wire format for every value that is there. -/
theorem length_of_dumpFrom {items : List (Value × Format)} {outputs : List (Option Bytes)}
    {description : Description}
    (dumped : dumpFrom encoding position items = .ok (outputs, description)) :
    outputs.length = (there items).length ∧ description.types.length = (there items).length ∧
      description.formats.length = (there items).length := by
  induction items generalizing position outputs description with
  | nil =>
      cases dumped
      exact ⟨rfl, rfl, rfl⟩
  | cons item rest ih =>
      cases missing : item.1.isHole with
      | true =>
          rw [dumpFrom_cons_of_hole missing] at dumped
          rw [there_cons_of_hole missing]
          exact ih dumped
      | false =>
          obtain ⟨_, output, wire, others, tail, _, _, behind, rfl, rfl⟩ :=
            dumpFrom_cons_eq_ok missing dumped
          obtain ⟨outputs, types, formats⟩ := ih behind
          rw [there_cons missing]
          exact ⟨congrArg (· + 1) outputs, congrArg (· + 1) types, congrArg (· + 1) formats⟩

/-- A dump takes one format for every value, and has an output, a type and a wire format for every
value that is there. -/
theorem dump_eq_ok {values : List Value} {formats : List Format} {dumped : Dump}
    (came : dump encoding values formats = .ok dumped) :
    ∃ description, values.length = formats.length ∧ dumped.description = some description ∧
      dumpFrom encoding 1 (values.zip formats) = .ok (dumped.outputs, description) ∧
      dumped.outputs.length = (Value.present values).length ∧
      description.types.length = (Value.present values).length ∧
      description.formats.length = (Value.present values).length := by
  unfold dump at came
  split at came
  · cases came
  · next same =>
      obtain ⟨⟨outputs, description⟩, each, rfl⟩ := Outcome.map_eq_ok.mp came
      have equal : values.length = formats.length := Decidable.not_not.mp same
      have lengths := length_of_dumpFrom each
      rw [length_there_zip equal] at lengths
      exact ⟨description, equal, rfl, each, lengths⟩

end TextTransform

end QueryBind
