import QueryBind.Proofs.Sql.Quoting
import QueryBind.Proofs.Sql.Reading
import QueryBind.Proofs.Text.Simple
import QueryBind.Proofs.Transform.Sequence
import QueryBind.Sql.Composable

/-! # What an item carries

An identifier carries its names and a literal may carry a text; everything else in their renderings
is digits, letters and a few signs. So a rendering is inert exactly if each carried text is
(`Sql.inert_rendered`): the quote behind a text is neither a mark nor a newline, and neither
doubling nor encoding touches marks and newlines. Texts are carried by their characters, since the
encoding has the replacement character for a lone half of one.
-/

namespace QueryBind

namespace Marks

/-- Writing some characters twice leaves marks and newlines alone. -/
theorem spells_twice {p : Char → Prop} [DecidablePred p] (mark : ¬p '%') (newline : ¬p '\n') :
    chars.Spells chars (fun c => if p c then [c, c] else [c]) where
  mark := if_neg mark
  newline := if_neg newline
  plain := by
    intro c notMark notNewline
    have other : chars.mark ≠ c := Ne.symm notMark
    have also : chars.newline ≠ c := Ne.symm notNewline
    by_cases twice : p c <;> simp [twice, other, also]

private theorem spells_utf8 : chars.Spells bytes String.utf8EncodeChar where
  mark := rfl
  newline := rfl
  plain := by
    intro c notMark notNewline
    refine ⟨String.utf8EncodeChar_ne_nil, fun member => ?_, fun member => ?_⟩
    · have number := Text.Utf8.mem_utf8EncodeChar_of_small (by decide) member
      exact notMark (Char.toNat_inj.mp number)
    · have number := Text.Utf8.mem_utf8EncodeChar_of_small (by decide) member
      exact notNewline (Char.toNat_inj.mp number)

/-- A text is inert exactly if its bytes are. -/
theorem inert_encode (text : String) :
    bytes.inert (Text.Utf8.encode text) = chars.inert text.toList := by
  have spelled := spells_utf8.inert_flatMap [] nofun nofun text.toList
  rw [List.append_nil] at spelled
  exact spelled.trans (Bool.and_true _)

end Marks

/-- The text that stands in the literal of a parameter, if one does. -/
def Parameter.carried : Parameter → Option String
  | .text content => some content.mended
  | .json value => (jsonText value).toOption.join
  | _ => none

namespace Sql

/-- The texts that an item carries into its rendering. -/
def carried : Value → List String
  | .identifier names => names.map Text.Wide.mended
  | .literal value => ((Parameter.ofValue value).toOption.bind Parameter.carried).toList
  | _ => []

section Render

variable (transformer : Transformer)

/-- A composable text is rendered as its bytes. -/
theorem render_sql (source : Text.Wide) :
    render transformer (.sql source) =
      (Encoding.encodeWide transformer.textEncoding source).mapError .query := by
  unfold render renderFor rendering
  cases Encoding.encodeWide transformer.textEncoding source <;> rfl

/-- A literal is rendered by the transformer. -/
theorem render_literal (value : Value) :
    render transformer (.literal value) = renderLiteral transformer value := by
  unfold render renderFor rendering
  cases renderLiteral transformer value <;> rfl

/-- An identifier is rendered as its quoted names. -/
theorem render_identifier (names : List Text.Wide) :
    render transformer (.identifier names) =
      (quoteNames names >>= Encoding.encodeWide transformer.textEncoding).mapError .query := by
  unfold render renderFor rendering
  cases quoteNames names with
  | error error => rfl
  | ok quoted =>
      simp only [bind, Except.bind, Except.mapError]
      cases Encoding.encodeWide transformer.textEncoding quoted <;> rfl

variable {transformer}

private theorem rendering_of_render {item : Value} {bytes : Bytes}
    (rendered : render transformer item = .ok bytes) :
    rendering transformer item = .ok (some bytes) := by
  unfold render renderFor at rendered
  split at rendered
  · next found => rw [found, ← Except.ok.inj rendered]
  · cases rendered
  · cases rendered

/-- An item that was never there is not rendered. -/
theorem isHole_of_render {item : Value} {bytes : Bytes}
    (rendered : render transformer item = .ok bytes) : item.isHole = false := by
  cases item with
  | hole => cases rendered
  | _ => rfl

/-- Items that render are put together as they stand. -/
theorem render_composed {items : List Value} {parts : List Bytes}
    (each : List.Forall₂ (fun item part => render transformer item = .ok part) items parts) :
    render transformer (.composed items) = .ok parts.flatten := by
  have all : renderings transformer items = .ok (parts.map some) := by
    induction each with
    | nil => rfl
    | cons first _ ih =>
        rw [renderings, if_neg (ne_true_of_eq_false (isHole_of_render first)),
          rendering_of_render first, ih]
        rfl
  unfold render renderFor rendering
  rw [all]
  simp only [bind, Except.bind, assemble, Outcome.mapM_id_eq_some_iff.mpr rfl]
  rfl

end Render

private theorem inert_literalChars (cs close : List Char) :
    Marks.chars.inert (literalChars cs ++ close) =
      (Marks.chars.inert cs && Marks.chars.inert close) := by
  have absent : ∀ escapes, '%' ∉ opening escapes := by decide
  have quote : Marks.chars.inert ('\'' :: close) = Marks.chars.inert close :=
    Marks.inert_cons_of_ne (by decide) close
  have body := (Marks.spells_twice (p := fun c => c = '\'' ∨ c = '\\') (by decide)
    (by decide)).inert_flatMap ('\'' :: close) (by simp [Marks.chars]) (by simp [Marks.chars]) cs
  rw [literalChars_eq, List.append_assoc, Marks.inert_append_of_not_mem (absent _),
    List.append_assoc]
  exact body.trans (congrArg _ quote)

private theorem inert_quoteText {text quoted : String} (success : quoteText text = .ok quoted)
    (close : List Char) :
    Marks.chars.inert (quoted.toList ++ close) =
      (Marks.chars.inert text.toList && Marks.chars.inert close) := by
  unfold quoteText at success
  split at success
  · cases success
  · cases success
    rw [String.toList_ofList, inert_literalChars]

private theorem inert_quoteName {name quoted : Text.Wide} (success : quoteName name = .ok quoted)
    (close : List Char) :
    Marks.chars.inert (quoted.mended.toList ++ close) =
      (Marks.chars.inert name.mended.toList && Marks.chars.inert close) := by
  have quote : ∀ rest, Marks.chars.inert ('"' :: rest) = Marks.chars.inert rest :=
    fun rest => Marks.inert_cons_of_ne (by decide) rest
  have body := (Marks.spells_twice (p := (· = '"')) (by decide) (by decide)).inert_flatMap
    ('"' :: close) (by simp [Marks.chars]) (by simp [Marks.chars]) name.mended.toList
  have nulFree : '\x00' ∉ name.mended.toList := by
    intro nul
    rw [quoteName_of_nul nul] at success
    cases success
  obtain ⟨written, same, spelled⟩ := mended_quoteName nulFree
  obtain rfl := Except.ok.inj (success.symm.trans same)
  rw [spelled, nameChars, List.append_assoc, List.append_assoc, List.singleton_append,
    List.singleton_append, quote]
  exact body.trans (congrArg _ (quote close))

private theorem inert_intercalate {names written : List Text.Wide}
    (each : List.Forall₂ (fun name quoted => quoteName name = .ok quoted) names written) :
    Marks.chars.inert (Text.Wide.join "." written).mended.toList =
      names.all fun name => Marks.chars.inert name.mended.toList := by
  rw [mended_join]
  induction each with
  | nil => rfl
  | @cons name quoted names written first rest ih =>
      rw [List.all_cons, ← ih, List.map_cons]
      cases written with
      | nil =>
          have alone := inert_quoteName first []
          rw [List.append_nil] at alone
          rw [List.map_nil, List.intercalate_singleton]
          exact alone.trans (congrArg _ rfl)
      | cons next others =>
          have dot : ∀ rest, Marks.chars.inert ('.' :: rest) = Marks.chars.inert rest :=
            fun rest => Marks.inert_cons_of_ne (by decide) rest
          rw [List.map_cons, List.intercalate_cons_cons, List.append_assoc, inert_quoteName first]
          exact congrArg _ (dot _)

private theorem forall₂_quoteName {names written : List Text.Wide}
    (success : names.mapM quoteName = .ok written) :
    List.Forall₂ (fun name quoted => quoteName name = .ok quoted) names written := by
  induction names generalizing written with
  | nil =>
      cases success
      exact .nil
  | cons name rest ih =>
      rw [List.mapM_cons] at success
      obtain ⟨quoted, first, later⟩ := Outcome.bind_eq_ok.mp success
      obtain ⟨others, more, same⟩ := Outcome.bind_eq_ok.mp later
      cases same
      exact .cons first (ih more)

private theorem inert_quoteNames {names : List Text.Wide} {quoted : Text.Wide}
    (success : quoteNames names = .ok quoted) :
    Marks.chars.inert quoted.mended.toList =
      names.all fun name => Marks.chars.inert name.mended.toList := by
  obtain ⟨written, found, same⟩ := Outcome.map_eq_ok.mp success
  cases same
  exact inert_intercalate (forall₂_quoteName found)

/-- The literal of a parameter is inert exactly if the text in it is. -/
theorem inert_literalText {parameter : Parameter} {text : Text.Wide}
    (success : TextTransform.literalText parameter = .ok text) :
    Marks.chars.inert text.mended.toList =
      parameter.carried.all fun carried => Marks.chars.inert carried.toList := by
  cases parameter with
  | null =>
      cases success
      rw [Text.Wide.mended_ofText]
      decide
  | boolean b =>
      cases success
      cases b
      all_goals
        refine (congrArg (fun s : String => Marks.chars.inert s.toList)
          (Text.Wide.mended_ofText _)).trans ?_
        decide
  | integer n =>
      cases success
      rw [Text.Wide.mended_ofText]
      exact (Simple.guarded (.number n)).unmarked.inert
  | bigint n =>
      cases success
      rw [Text.Wide.mended_ofText]
      exact (Simple.guarded (.int n)).unmarked.inert
  | float n =>
      cases success
      split
      · rw [Text.Wide.mended_ofText]
        exact (Simple.guarded (.number n)).unmarked.inert
      · rw [Text.Wide.mended_ofText]
        exact (Unmarked.append (.append (by decide) (Simple.number n).unmarked) (by decide)).inert
  | binary bytes =>
      cases success
      rw [Text.Wide.mended_ofText]
      refine (Unmarked.append (.append (by decide) ?_) (by decide)).inert
      exact .append (by decide) (Simple.hex bytes).unmarked
  | instant ms =>
      rw [← Except.ok.inj success, Text.Wide.mended_ofText]
      exact (Unmarked.append (.append (by decide) (Simple.iso ms).unmarked) (by decide)).inert
  | text content =>
      have written : (quoteWide content).mapError Fault.query = .ok text := success
      have quoted : quoteText content.mended = .ok text.mended := by
        rw [← mended_quoteWide, Outcome.mapError_eq_ok.mp written]
        rfl
      have alone := inert_quoteText quoted []
      rw [List.append_nil] at alone
      exact alone.trans (Bool.and_true _)
  | json value =>
      obtain ⟨found, serialized, later⟩ := Outcome.bind_eq_ok.mp success
      cases found with
      | none => cases later
      | some s =>
          obtain ⟨written, quoted, same⟩ := Outcome.bind_eq_ok.mp later
          cases same
          rw [Text.Wide.mended_ofText, String.toList_append,
            inert_quoteText (Outcome.mapError_eq_ok.mp quoted), Parameter.carried,
            Outcome.mapError_eq_ok.mp serialized]
          exact Bool.and_true _

variable {encoding : String} (selected : Encoding.codec encoding = .ok .utf8)

include selected

private theorem inert_literal {value : Value} {bytes : Bytes}
    (rendered : renderLiteral (.text encoding) value = .ok bytes) :
    Marks.bytes.inert bytes =
      (carried (.literal value)).all fun text => Marks.chars.inert text.toList := by
  unfold renderLiteral at rendered
  split at rendered
  · next null =>
      cases rendered
      rw [carried, (Parameter.ofValue_eq_null_iff value).mpr null]
      decide
  · obtain ⟨parameter, text, seen, spelled, rfl⟩ := TextTransform.literal_eq_ok selected rendered
    have inside : carried (.literal value) = parameter.carried.toList := by
      rw [carried, seen]
      rfl
    rw [inside]
    refine (Marks.inert_encode text.mended).trans ((inert_literalText spelled).trans ?_)
    cases parameter.carried <;> simp

private theorem inert_identifier {names : List Text.Wide} {bytes : Bytes}
    (rendered : render (.text encoding) (.identifier names) = .ok bytes) :
    Marks.bytes.inert bytes =
      (carried (.identifier names)).all fun name => Marks.chars.inert name.toList := by
  have named : (Transformer.text encoding).textEncoding = encoding := rfl
  rw [render_identifier, named] at rendered
  obtain ⟨written, quoted, encoded⟩ := Outcome.bind_eq_ok.mp (Outcome.mapError_eq_ok.mp rendered)
  rw [Encoding.encodeWide_eq_ok selected] at encoded
  cases encoded
  refine (Marks.inert_encode written.mended).trans ((inert_quoteNames quoted).trans ?_)
  rw [carried, List.all_map]
  rfl

/-- Whether a value is an item that carries data: a literal or an identifier. -/
def isData : Value → Bool
  | .literal _ | .identifier _ => true
  | _ => false

/-- **What makes an item inert.** Its rendering is inert exactly if the texts that it carries
are. -/
theorem inert_rendered {item : Value} (data : isData item = true) {bytes : Bytes}
    (rendered : render (.text encoding) item = .ok bytes) :
    Marks.bytes.inert bytes =
      (carried item).all fun text => Marks.chars.inert text.toList := by
  cases item with
  | literal value =>
      rw [render_literal] at rendered
      exact inert_literal selected rendered
  | identifier names => exact inert_identifier selected rendered
  | _ => simp [isData] at data

end Sql

end QueryBind
