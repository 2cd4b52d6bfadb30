import QueryBind.Proofs.Sql.Quoting
import QueryBind.Proofs.Sql.Reading
import QueryBind.Proofs.Text.Simple
import QueryBind.Proofs.Transform.Sequence

/-! # One text in two forms

A value can be sent as text beside the query or stand in the query as a literal. Both forms carry
the same text: a numeral is the text that is sent, behind a space if it begins with a minus sign,
and the content of any other literal, truth values aside, is the text that is sent, cast to the type
that the server would be told (`TextTransform.literal_says_sent`).
-/

namespace QueryBind

namespace Sql

/-- The name of a type by its number. -/
def typeName? : Nat → Option String
  | 16 => some "bool"
  | 17 => some "bytea"
  | 20 => some "int8"
  | 701 => some "float8"
  | 1184 => some "timestamptz"
  | 3802 => some "jsonb"
  | _ => none

/-- The cast to a type by its number; a type that the server infers needs none. -/
def castTo (number : Nat) : String :=
  ((typeName? number).map ("::" ++ ·)).getD ""

end Sql

/-- Whether a value is a number that has numerals: a finite number or a big integer. -/
def Value.isNumeral : Value → Bool
  | .number n => n.isFinite
  | .bigint _ => true
  | _ => false

namespace Sql

/-- No cast begins with a quote. -/
theorem head?_castTo (number : Nat) :
    (Text.Utf8.encode (castTo number)).head? ≠ some Signs.bytes.quote := by
  intro begins
  have sign : (castTo number).toList.head? = some '\'' :=
    (Text.Utf8.head?_encode_iff '\'' (by decide) _).mp begins
  unfold castTo at sign
  cases found : typeName? number with
  | none =>
      rw [found] at sign
      cases sign
  | some name =>
      rw [found, Option.map_some, Option.getD_some, String.toList_append] at sign
      cases sign

/-- A text without quotes is the content of the literal that encloses it. -/
theorem reads_enclosed {text : String} (unquoted : '\'' ∉ text.toList) {closing : String}
    {number : Nat} (closes : closing = "'" ++ castTo number) :
    Reads Signs.bytes (Text.Utf8.encode ("'" ++ text ++ closing)) (Text.Utf8.encode text)
      (Text.Utf8.encode (castTo number)) := by
  have body := readsBody_enclosed spelling_utf8 unquoted (head?_castTo number)
  rw [closes, Text.Utf8.encode_append, Text.Utf8.encode_append, Text.Utf8.encode_append,
    List.append_assoc]
  exact .bare (.plain body)

/-- A text is the content of its quoted form. -/
theorem reads_quoted {text quoted : String} (success : quoteText text = .ok quoted)
    (number : Nat) :
    Reads Signs.bytes (Text.Utf8.encode (quoted ++ castTo number)) (Text.Utf8.encode text)
      (Text.Utf8.encode (castTo number)) := by
  unfold quoteText at success
  split at success
  · cases success
  · cases success
    rw [Text.Utf8.encode_append, Text.Utf8.encode, String.toList_ofList]
    exact reads_literalChars spelling_utf8 text.toList (head?_castTo number)

end Sql

/-- Whether a value is a truth value. -/
def Value.isTruth : Value → Bool
  | .bool _ => true
  | _ => false

/-- Whether there is a quoted text in the literal of a parameter. -/
def Parameter.isQuoted : Parameter → Bool
  | .text _ | .binary _ | .instant _ | .json _ => true
  | .float n => !n.isFinite
  | _ => false

private theorem Number.isFinite_of_isSafeInteger {n : Number} (safe : n.isSafeInteger = true) :
    n.isFinite = true := by
  cases n with
  | int _ | negativeZero => rfl
  | wide bits => cases safe

/-- Numerals and truth values are not quoted, and everything else is, null aside. -/
theorem Parameter.isQuoted_of_ofValue {value : Value} {parameter : Parameter}
    (typed : ofValue value = .ok parameter) (present : value.isNull = false) :
    parameter.isQuoted = (!value.isNumeral && !value.isTruth) := by
  cases value with
  | undefined | hole | null => cases present
  | symbol _ | function _ => cases typed
  | number n =>
      cases safe : n.isSafeInteger with
      | true =>
          simp only [ofValue, safe, if_true, Except.ok.injEq] at typed
          subst typed
          simp [isQuoted, Value.isNumeral, Number.isFinite_of_isSafeInteger safe]
      | false =>
          simp only [ofValue, safe, Bool.false_eq_true, if_false, Except.ok.injEq] at typed
          subst typed
          simp [isQuoted, Value.isNumeral, Value.isTruth]
  | date instant =>
      cases instant with
      | none => cases typed
      | some ms =>
          cases typed
          rfl
  | _ =>
      cases typed
      rfl

namespace TextTransform

/-- The octets of a guarded text. -/
theorem encode_guarded (text : String) :
    Text.Utf8.encode (guarded text) =
      if (Text.Utf8.encode text).head? = some 0x2D then 0x20 :: Text.Utf8.encode text
      else Text.Utf8.encode text := by
  have minus : (Text.Utf8.encode text).head? = some 0x2D ↔ text.toList.head? = some '-' :=
    Text.Utf8.head?_encode_iff '-' (by decide) text
  unfold guarded
  by_cases begins : text.toList.head? = some '-'
  · rw [if_pos begins, if_pos (minus.mpr begins), Text.Utf8.encode_append]
    rfl
  · rw [if_neg begins, if_neg (fun octet => begins (minus.mp octet))]

private theorem head?_guarded (text : String) : (guarded text).toList.head? ≠ some '-' := by
  unfold guarded
  split
  · rw [String.toList_append]
    nofun
  · assumption

section Parameter

variable {parameter : Parameter} {text rendering : Text.Wide}
  (sent : parameter.sentText = .ok (some text)) (rendered : literalText parameter = .ok rendering)

include sent rendered

/-- A quoted text in the literal of a parameter is the text that is sent, and a cast follows. -/
theorem reads_literalText (quoted : parameter.isQuoted = true) :
    Sql.Reads Sql.Signs.bytes (Text.Utf8.encode rendering.mended)
      (Text.Utf8.encode text.mended)
      (Text.Utf8.encode (Sql.castTo parameter.typeNumber)) := by
  have spelled (written : String)
      (same : parameter.sentText = .ok (some (.ofText written))) : text.mended = written := by
    rw [← Option.some.inj (Except.ok.inj (same.symm.trans sent)), Text.Wide.mended_ofText]
  have closed (literal : String) (same : literalText parameter = .ok (.ofText literal)) :
      rendering.mended = literal := by
    rw [← Except.ok.inj (same.symm.trans rendered), Text.Wide.mended_ofText]
  cases parameter with
  | null | boolean b | integer n | bigint n => cases quoted
  | float n =>
      have infinite : n.isFinite = false := Bool.not_eq_true' _ ▸ quoted
      rw [spelled n.text rfl, closed ("'" ++ n.text ++ "'::float8")
        (by simp only [literalText, infinite, Bool.false_eq_true, if_false])]
      exact Sql.reads_enclosed (Simple.number n).unquoted rfl
  | binary bytes =>
      have simple : Simple (Parameter.bytesText bytes) := .append (by decide) (.hex bytes)
      rw [spelled (Parameter.bytesText bytes) rfl, closed _ rfl]
      exact Sql.reads_enclosed simple.unquoted rfl
  | instant ms =>
      rw [spelled (Instant.iso ms) rfl, closed _ rfl]
      exact Sql.reads_enclosed (Simple.iso ms).unquoted rfl
  | text content =>
      obtain rfl : content = text := Option.some.inj (Except.ok.inj sent)
      have success : (Sql.quoteWide content).mapError Fault.query = .ok rendering := rendered
      have quotedToo : Sql.quoteText content.mended = .ok rendering.mended := by
        rw [← Sql.mended_quoteWide, Outcome.mapError_eq_ok.mp success]
        rfl
      have read := Sql.reads_quoted quotedToo 0
      have bare : rendering.mended ++ Sql.castTo 0 = rendering.mended := String.append_empty
      rw [bare] at read
      exact read
  | json value =>
      obtain ⟨found, serialized, later⟩ := Outcome.bind_eq_ok.mp rendered
      obtain ⟨written, also, same⟩ := Outcome.map_eq_ok.mp sent
      obtain rfl : found = written :=
        Except.ok.inj ((Outcome.mapError_eq_ok.mp serialized).symm.trans also)
      obtain ⟨content, rfl, rfl⟩ := Option.map_eq_some_iff.mp same
      obtain ⟨quoted, success, result⟩ := Outcome.bind_eq_ok.mp later
      cases result
      rw [Text.Wide.mended_ofText, Text.Wide.mended_ofText]
      exact Sql.reads_quoted (Outcome.mapError_eq_ok.mp success) 3802

end Parameter

/-- The literal of a number with numerals is its numeral, guarded. -/
theorem literalText_of_isNumeral {value : Value} (numeral : value.isNumeral = true)
    {parameter : Parameter} (typed : Parameter.ofValue value = .ok parameter)
    {text rendering : Text.Wide} (sent : parameter.sentText = .ok (some text))
    (rendered : literalText parameter = .ok rendering) :
    rendering.mended = guarded text.mended := by
  have guards (written : String) (spelled : parameter.sentText = .ok (some (.ofText written)))
      (closed : literalText parameter = .ok (.ofText (guarded written))) :
      rendering.mended = guarded text.mended := by
    rw [← Option.some.inj (Except.ok.inj (spelled.symm.trans sent)),
      ← Except.ok.inj (closed.symm.trans rendered), Text.Wide.mended_ofText,
      Text.Wide.mended_ofText]
  cases value with
  | number n =>
      have finite : n.isFinite = true := numeral
      simp only [Parameter.ofValue, Except.ok.injEq] at typed
      split at typed
      · subst typed
        exact guards n.text rfl rfl
      · subst typed
        exact guards n.text rfl (by simp only [literalText, finite, if_true])
  | bigint n =>
      cases typed
      exact guards (toString n) rfl rfl
  | _ => cases numeral

/-- A parameter that is sent in text is written as a numeral, as a truth value or as a quoted text.
Only the first of these could begin with a minus sign, and it is guarded. -/
theorem head?_literalText {parameter : Parameter} {text rendering : Text.Wide}
    (sent : parameter.sentText = .ok (some text))
    (rendered : literalText parameter = .ok rendering) :
    (Text.Utf8.encode rendering.mended).head? ≠ some 0x2D := by
  have closed (literal : String) (same : literalText parameter = .ok (.ofText literal)) :
      rendering.mended = literal := by
    rw [← Except.ok.inj (same.symm.trans rendered), Text.Wide.mended_ofText]
  have guard (text : String) : (Text.Utf8.encode (guarded text)).head? ≠ some 0x2D := fun begins =>
    head?_guarded text ((Text.Utf8.head?_encode_iff '-' (by decide) _).mp begins)
  have quoted {items content rest : Bytes} (read : Sql.Reads Sql.Signs.bytes items content rest) :
      items.head? ≠ some 0x2D := by
    intro begins
    rcases read.head with sign | sign | sign
    all_goals
      rw [sign] at begins
      cases begins
  cases parameter with
  | boolean b =>
      rw [closed (if b then "true" else "false") (by cases b <;> rfl)]
      cases b <;> decide
  | integer n =>
      rw [closed (guarded n.text) rfl]
      exact guard n.text
  | bigint n =>
      rw [closed (guarded (toString n)) rfl]
      exact guard (toString n)
  | float n =>
      cases finite : n.isFinite with
      | true =>
          rw [closed (guarded n.text) (by simp only [literalText, finite, if_true])]
          exact guard n.text
      | false =>
          exact quoted (reads_literalText sent rendered (by simp [Parameter.isQuoted, finite]))
  | null => cases sent
  | text _ | binary _ | instant _ | json _ => exact quoted (reads_literalText sent rendered rfl)

/-- **A literal says what would be sent.** A value that is dumped in text and rendered as a literal
has one text in both forms. A numeral is the text that is sent, behind a space if the text begins
with a minus sign. Any literal but a numeral and a truth value is read as a quoted text, with the
text that is sent as its content and with nothing behind it but a cast to the type that the server
would be told. No literal begins with a minus sign. -/
theorem literal_says_sent {encoding : String} (selected : Encoding.codec encoding = .ok .utf8)
    {value : Value} (present : value.isNull = false) {dumped : Dump} {bytes : Bytes}
    (sent : (Transformer.text encoding).dump [value] [.text] = .ok dumped)
    (rendered : (Transformer.text encoding).literal value = .ok bytes) :
    ∃ text number, dumped = .ofSent [⟨some text, number, .text⟩] ∧
      bytes.head? ≠ some 0x2D ∧
      (value.isNumeral = true →
        bytes = if text.head? = some 0x2D then 0x20 :: text else text) ∧
      (value.isNumeral = false → value.isTruth = false → ∀ content rest,
        Sql.Reads Sql.Signs.bytes bytes content rest ↔
          content = text ∧ rest = Text.Utf8.encode (Sql.castTo number)) := by
  obtain ⟨parameter, literal, typed, spelled, rfl⟩ := literal_eq_ok selected rendered
  have told : dump encoding [value] [.text] = .ok dumped := sent
  rw [dump_singleton (Value.isHole_of_isNull present)] at told
  obtain ⟨⟨output, number, wire⟩, made, rfl⟩ := Outcome.map_eq_ok.mp told
  obtain ⟨_, also, came, rfl⟩ := sendOne_eq_ok made
  obtain rfl := Except.ok.inj (typed.symm.trans also)
  have notNull : parameter ≠ .null := by
    rintro rfl
    rw [(Parameter.ofValue_eq_null_iff value).mp typed] at present
    cases present
  obtain ⟨text, worded, rfl, rfl⟩ := dumpOne_text_eq_ok selected notNull came
  refine ⟨_, _, rfl, head?_literalText worded spelled, ?_, ?_⟩
  · intro numeral
    change Text.Utf8.encode literal.mended = _
    rw [literalText_of_isNumeral numeral typed worded spelled]
    exact encode_guarded text.mended
  · intro other also content rest
    have quoted : parameter.isQuoted = true := by
      rw [Parameter.isQuoted_of_ofValue typed present, other, also]
      rfl
    exact (reads_literalText worded spelled quoted).iff (by decide)

/-- A list with a quote and a backslash: its text is escaped twice, once as data and once more as a
literal. -/
theorem literal_says_sent_of_list :
    let value := Value.list [.text "it's", .text "\\"]
    let dumped : Dump := .ofSent [⟨some (Text.Utf8.encode "[\"it's\",\"\\\\\"]"), 3802, .text⟩]
    let bytes := Text.Utf8.encode " E'[\"it''s\",\"\\\\\\\\\"]'::jsonb"
    Encoding.codec "utf8" = .ok .utf8 ∧ value.isNull = false ∧ value.isNumeral = false ∧
      value.isTruth = false ∧ (Transformer.text "utf8").dump [value] [.text] = .ok dumped ∧
      (Transformer.text "utf8").literal value = .ok bytes ∧ bytes.head? ≠ some 0x2D ∧
      Sql.Reads Sql.Signs.bytes bytes (Text.Utf8.encode "[\"it's\",\"\\\\\"]")
        (Text.Utf8.encode "::jsonb") := by
  intro value dumped bytes
  have selected : Encoding.codec "utf8" = .ok .utf8 := Encoding.codec_name .utf8
  have sent : (Transformer.text "utf8").dump [value] [.text] = .ok dumped :=
    rfl
  have rendered : (Transformer.text "utf8").literal value = .ok bytes :=
    rfl
  obtain ⟨text, number, same, guard, _, reads⟩ := literal_says_sent selected rfl sent rendered
  obtain ⟨output, rfl, _⟩ := Sent.mk.inj (List.head_eq_of_cons_eq (Dump.ofSent_injective same))
  obtain rfl := Option.some.inj output
  exact ⟨selected, rfl, rfl, rfl, sent, rendered, guard, (reads rfl rfl _ _).mpr ⟨rfl, rfl⟩⟩

end TextTransform

end QueryBind
