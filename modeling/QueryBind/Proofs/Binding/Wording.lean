import QueryBind.Proofs.Binding.Histories
import QueryBind.Proofs.Text.RoundTrip

/-! # Query texts and SQL texts

A query may be given as a text or as an SQL object with that text. A text is written in the encoding
that converter and transformer settle on; an SQL object renders itself, and knows the transformer
only. So both are the same query if the transformer names an encoding. If it names none the object
is rendered in the eight-bit Unicode format, whatever the converter's encoding is, and both are
the same query if that makes no difference to the bytes (`Ground.converted_sql_iff`).
-/

namespace QueryBind

open Text (Codec)

/-- What can be read off a bound query. -/
structure Shown where
  query : Bytes
  params : Option (List (Option Bytes))
  types : List Nat
  formats : Option (List WireFormat)
  template : Option Bytes

def Binding.shown : Binding → Shown
  | .server held => ⟨held.query, held.params, held.types, held.formats, none⟩
  | .client held => ⟨held.query, held.params.map (·.map some), [], none, held.template⟩

namespace Ground

/-- What a bound query of its own shows when a query was converted, or why there is none or the
conversion failed. -/
def converted (ground : Ground) (variant : Variant) (query params : Value) : Except Fault Shown :=
  match ground.checkedEncoding with
  | .error fault => .error fault
  | .ok encoding =>
    let ran := (Binding.fresh variant).convert ground encoding query params
    ran.1.map fun _ => ran.2.1.shown

/-! ## The bytes of either -/

/-- The bytes of a text are those of the encoding that is asked for. -/
theorem queryBytes_text {encoding : String} {codec : Codec}
    (selected : Encoding.codec encoding = .ok codec) (transformer : Transformer) (text : String)
    (params : Value) :
    queryBytes transformer encoding (.text text) params = .ok (codec.encode text) := by
  rw [queryBytes, Encoding.encode_eq_ok selected]
  rfl

private theorem queryBytes_sql {transformer : Transformer} {codec : Codec}
    (selected : Encoding.codec transformer.textEncoding = .ok codec) (encoding text : String)
    (params : Value) :
    queryBytes transformer encoding (.sql text) params = .ok (codec.encode text) := by
  have rendered : Sql.rendering transformer (.sql text) = .ok (some (codec.encode text)) := by
    rw [Sql.rendering, Encoding.encodeWide_ofText, Encoding.encode_eq_ok selected]
    rfl
  have composable : (Value.sql text).isComposable = true := rfl
  simp only [queryBytes, composable, if_true, Sql.renderFor, rendered]

variable {ground : Ground} {codec : Codec}

private theorem checkedEncoding_eq_ok (selected : Encoding.codec ground.encoding = .ok codec) :
    ground.checkedEncoding = .ok ground.encoding := by
  rw [checkedEncoding, selected]
  rfl

/-- The codec of an SQL object: the one that was settled on, if the transformer names it. -/
theorem codec_textEncoding (selected : Encoding.codec ground.encoding = .ok codec) :
    Encoding.codec ground.dumper.transformer.textEncoding =
      .ok (if ground.dumper.transformer.encoding.isSome then codec else .utf8) := by
  cases named : ground.dumper.transformer.encoding with
  | none =>
      rw [Transformer.textEncoding, named]
      exact Encoding.codec_name .utf8
  | some encoding =>
      rw [Ground.encoding, named] at selected
      rw [Transformer.textEncoding, named]
      exact selected

/-! ## What is shown -/

/-- What is shown does not depend on what the converter has cached. -/
theorem converted_eq (sound : ground.converter.Sound)
    (selected : Encoding.codec ground.encoding = .ok codec) (variant : Variant)
    (query params : Value) :
    ground.converted variant query params =
      (Binding.ofQuery variant ground.dumper.transformer ground.encoding query params).map
        Binding.shown := by
  have checked := checkedEncoding_eq_ok selected
  have comes := Family.Call.comes sound (Family.nul_not_mem_of_checkedEncoding checked)
    (Family.settled_fresh variant) (.convert query params)
  have fresh : (Binding.fresh variant).variant = variant := by cases variant <;> rfl
  have came : (Binding.fresh variant).convert ground ground.encoding query params =
      (Family.Call.convert query params).run (Binding.fresh variant) ground ground.encoding := rfl
  simp only [converted, checked, came]
  rw [comes.outcome, comes.binding, Family.Call.result, fresh]
  cases Binding.ofQuery variant ground.dumper.transformer ground.encoding query params <;> rfl

/-- Two queries with the same bytes are converted to the same, whoever has cached what. -/
theorem converted_congr {other : Ground} (sound : ground.converter.Sound)
    (soundToo : other.converter.Sound)
    (transformer : ground.dumper.transformer = other.dumper.transformer)
    (config : ground.converter.config = other.converter.config)
    (selected : Encoding.codec ground.encoding = .ok codec) {query another params : Value}
    (same : queryBytes ground.dumper.transformer ground.encoding query params =
      queryBytes ground.dumper.transformer ground.encoding another params) (variant : Variant) :
    ground.converted variant query params = other.converted variant another params := by
  have encodings : ground.encoding = other.encoding := by
    unfold encoding
    rw [transformer, config]
  rw [converted_eq sound selected, converted_eq soundToo (encodings ▸ selected), ← transformer,
    ← encodings, Binding.ofQuery, Binding.ofQuery, same]

/-- Without parameters the bytes of the query are what is shown. -/
theorem query_converted (sound : ground.converter.Sound)
    (selected : Encoding.codec ground.encoding = .ok codec) {query : Value} {bytes : Bytes}
    (given : queryBytes ground.dumper.transformer ground.encoding query .null = .ok bytes) :
    (ground.converted .server query .null).map Shown.query = .ok bytes := by
  rw [converted_eq sound selected, Binding.ofQuery_of_isNull given rfl]
  rfl

/-- **When a text and an SQL object with that text are the same query.** Two bound queries of their
own, over converters of one configuration and with one transformer, convert a text and an SQL
object. They fail alike or show the same, for both variants and all parameters, if and only if the
transformer names the encoding, or the encoding is the eight-bit Unicode format, or no character of
the text needs more than seven bits. (There is nothing to be shown in an encoding without codec.) -/
theorem converted_sql_iff {other : Ground} (sound : ground.converter.Sound)
    (soundToo : other.converter.Sound)
    (transformer : ground.dumper.transformer = other.dumper.transformer)
    (config : ground.converter.config = other.converter.config) (text : String) :
    (∀ variant params, ground.converted variant (.text text) params =
        other.converted variant (.sql text) params) ↔
      ∀ codec, Encoding.codec ground.encoding = .ok codec →
        ground.dumper.transformer.encoding.isSome = true ∨ codec = .utf8 ∨
          Codec.ascii.Keeps text := by
  have encodings : other.encoding = ground.encoding := by
    unfold encoding
    rw [transformer, config]
  constructor
  · intro same codec selected
    have selectedToo : Encoding.codec other.encoding = .ok codec := encodings ▸ selected
    have written := query_converted sound selected
      (queryBytes_text selected ground.dumper.transformer text .null)
    have rendered := query_converted soundToo selectedToo
      (queryBytes_sql (codec_textEncoding selectedToo) other.encoding text .null)
    rw [same, rendered] at written
    have bytes := Except.ok.inj written
    by_cases named : ground.dumper.transformer.encoding.isSome = true
    · exact .inl named
    · rw [← transformer, if_neg named] at bytes
      exact .inr ((Codec.encode_eq_utf8_iff codec text).mp bytes.symm)
  · intro agrees variant params
    cases selected : Encoding.codec ground.encoding with
    | error fault =>
        have selectedToo : Encoding.codec other.encoding = .error fault := encodings ▸ selected
        simp only [converted, checkedEncoding, selected, selectedToo]
        rfl
    | ok codec =>
        refine converted_congr sound soundToo transformer config selected ?_ variant
        rw [queryBytes_text selected, queryBytes_sql (codec_textEncoding selected)]
        split
        · rfl
        · next unnamed =>
            have bytes : codec = .utf8 ∨ Codec.ascii.Keeps text :=
              (agrees codec selected).resolve_left unnamed
            rw [(Codec.encode_eq_utf8_iff codec text).mpr bytes]

/-- With a single-byte encoding of the converter's and no encoding of the transformer's, a letter
with an accent makes two queries of the two. -/
theorem converted_sql_iff_of_accent :
    let converter : Converter := ⟨{ Config.standard with encoding := "latin1" },
      { capacity := .int 1 }, { capacity := .int 1 }, {}⟩
    let ground : Ground := ⟨converter, ⟨.labelling none, none⟩⟩
    ground.converter.Sound ∧
      (∀ variant params, ground.converted variant (.text "SELECT 'e'") params =
        ground.converted variant (.sql "SELECT 'e'") params) ∧
      ¬ ∀ variant params, ground.converted variant (.text "SELECT 'é'") params =
        ground.converted variant (.sql "SELECT 'é'") params := by
  intro converter ground
  have sound : ground.converter.Sound := Converter.sound_of_empty rfl rfl
  have selected : Encoding.codec ground.encoding = .ok .latin1 := Encoding.codec_name .latin1
  have plain : Codec.ascii.Keeps "SELECT 'e'" := by decide
  have accented : ¬ Codec.ascii.Keeps "SELECT 'é'" := by decide
  refine ⟨sound, ?_, ?_⟩
  · refine (converted_sql_iff sound sound rfl rfl "SELECT 'e'").mpr ?_
    intro codec _
    exact .inr (.inr plain)
  · intro same
    have agrees := (converted_sql_iff sound sound rfl rfl "SELECT 'é'").mp same
    rcases agrees .latin1 selected with named | unicode | kept
    · cases named
    · cases unicode
    · exact accented kept

end Ground

end QueryBind
