import QueryBind.Proofs.Sql.Narrowing
import QueryBind.Proofs.Sql.Quoting
import QueryBind.Transform.Text

/-! # Literals of texts

A text is quoted first and encoded afterwards. The eight-bit Unicode format keeps a quoted text
one literal, whatever its characters are. The single-byte encodings do so for the characters that
they have, and for other texts exactly if the text is intact: a character that is no sign may
become one, behind the quoting (`TextTransform.wholeLiteral_iff`).
-/

namespace QueryBind

open Text (Codec)

namespace Sql

private theorem nul_mem_literalChars {cs : List Char} (member : '\x00' ∈ literalChars cs) :
    '\x00' ∈ cs := by
  rw [literalChars_eq] at member
  have absent : ∀ escapes, '\x00' ∉ opening escapes := by decide
  rcases List.mem_append.mp member with front | member
  · exact absurd front (absent _)
  rcases List.mem_append.mp member with body | back
  · obtain ⟨c, among, within⟩ := List.mem_flatMap.mp body
    have same : '\x00' = c := by
      unfold written at within
      split at within <;> simpa using within
    exact same ▸ among
  · simp at back

/-- A quoted text in the eight-bit Unicode format is one literal. -/
theorem wholeLiteral_utf8 {text : String} (nulFree : '\x00' ∉ text.toList) :
    WholeLiteral (Text.Utf8.encode (String.ofList (literalChars text.toList))) := by
  rw [Text.Utf8.encode, String.toList_ofList]
  constructor
  · have single : ([] : Bytes).head? ≠ some Signs.bytes.quote := by simp
    have read := reads_literalChars spelling_utf8 text.toList single
    rw [List.append_nil] at read
    exact ⟨_, read.readLiteral (by decide)⟩
  · intro zero
    obtain ⟨c, among, within⟩ := List.mem_flatMap.mp zero
    have nul : c = '\x00' :=
      Char.toNat_inj.mp (Text.Utf8.mem_utf8EncodeChar_of_small (by decide) within)
    exact nulFree (nul_mem_literalChars (nul ▸ among))

end Sql

namespace TextTransform

/-- The literal of a text is written by the codec, unless there is a NUL in the text. -/
theorem literal_text_eq_ok_iff {encoding : String} {codec : Codec}
    (selected : Encoding.codec encoding = .ok codec) {text : String} {bytes : Bytes} :
    literal encoding (.text text) = .ok bytes ↔
      '\x00' ∉ text.toList ∧
        bytes = codec.encode (String.ofList (Sql.literalChars text.toList)) := by
  simp only [literal, Parameter.ofValue, literalText, Sql.quoteWide_ofText, Sql.quoteText, bind,
    Except.bind, Except.mapError]
  by_cases nul : '\x00' ∈ text.toList
  · simp [nul, Except.map]
  · simp [nul, Except.map, Encoding.encode_eq_ok selected, eq_comm]

/-- **Literals of texts.** The bytes of a text's literal are read as one literal without a NUL
exactly if the encoding is the Unicode one or the text is intact; in particular if no unit of the
text has the low byte of a NUL, a quote or a backslash without being one. -/
theorem wholeLiteral_iff {encoding : String} {codec : Codec}
    (selected : Encoding.codec encoding = .ok codec) {text : String} {bytes : Bytes}
    (rendered : (Transformer.text encoding).literal (.text text) = .ok bytes) :
    (Sql.WholeLiteral bytes ↔ codec = .utf8 ∨ Sql.Intact text) ∧
      ((∀ unit ∈ Text.units text, unit.toUInt8 ∈ [0x00, 0x27, 0x5C] → unit.toNat < 0x100) →
        Sql.WholeLiteral bytes) := by
  obtain ⟨nulFree, rfl⟩ := (literal_text_eq_ok_iff selected).mp rendered
  have exactly : Sql.WholeLiteral
      (codec.encode (String.ofList (Sql.literalChars text.toList))) ↔
        codec = .utf8 ∨ Sql.Intact text := by
    cases codec with
    | utf8 => exact iff_of_true (Sql.wholeLiteral_utf8 nulFree) (.inl rfl)
    | ascii =>
        rw [or_iff_right (by decide)]
        exact Sql.wholeLiteral_encodeUnits_iff text
    | latin1 =>
        rw [or_iff_right (by decide)]
        exact Sql.wholeLiteral_encodeUnits_iff text
  refine ⟨exactly, fun honest => ?_⟩
  exact exactly.mpr (.inr (Sql.intact_of_honest nulFree honest))

/-- A barred letter loses its high byte and becomes a quote that ends the literal in front of what
was a text; two of them are a pair. -/
theorem wholeLiteral_iff_of_barred :
    let escaped : Bytes := [0x27, 0x27, 0x20, 0x4F, 0x52, 0x20, 0x31, 0x3D, 0x31, 0x20, 0x2D, 0x2D,
      0x27]
    let paired : Bytes := [0x27, 0x27, 0x27, 0x27]
    Encoding.codec "latin1" = .ok .latin1 ∧
      (Transformer.text "latin1").literal (.text "\u0127 OR 1=1 --") = .ok escaped ∧
      ¬Sql.WholeLiteral escaped ∧
      (Transformer.text "latin1").literal (.text "\u0127\u0127") = .ok paired ∧
      Sql.WholeLiteral paired := by
  intro escaped paired
  have selected : Encoding.codec "latin1" = .ok .latin1 :=
    Encoding.codec_eq_ok.mpr (Text.Codec.ofName?_name .latin1)
  have one : (Transformer.text "latin1").literal (.text "\u0127 OR 1=1 --") = .ok escaped :=
    (literal_text_eq_ok_iff selected).mpr (by decide)
  have two : (Transformer.text "latin1").literal (.text "\u0127\u0127") = .ok paired :=
    (literal_text_eq_ok_iff selected).mpr (by decide)
  refine ⟨selected, one, ?_, two, ?_⟩
  · rw [(wholeLiteral_iff selected one).1]
    decide
  · rw [(wholeLiteral_iff selected two).1]
    decide

end TextTransform

end QueryBind
