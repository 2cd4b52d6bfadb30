import QueryBind.Error

/-! # Connection encodings

A connection names its encoding; encoding and decoding fail when the name selects no codec,
and for no other reason.
-/

namespace QueryBind.Encoding

open Text (Codec Wide)

/-- The encoding of a transformer that names none. -/
def fallback : String := "utf8"

/-- The codec of a connection encoding. -/
def codec (encoding : String) : Except QueryError Codec :=
  match Codec.ofName? encoding with
  | some found => .ok found
  | none => .error (.unsupportedEncoding encoding)

/-- Whether an encoding name selects a codec. -/
def isSupported (encoding : String) : Bool :=
  (Codec.ofName? encoding).isSome

/-- The bytes of a text in a connection encoding. -/
def encode (encoding text : String) : Except QueryError Bytes :=
  (codec encoding).map (·.encode text)

/-- The bytes of a text by its units in a connection encoding. -/
def encodeWide (encoding : String) (text : Wide) : Except QueryError Bytes :=
  (codec encoding).map (·.encodeWide text)

/-- The text of bytes in a connection encoding. -/
def decode (encoding : String) (bytes : Bytes) : Except QueryError String :=
  (codec encoding).map (·.decode bytes)

/-- An encoding has the codec of its name. -/
theorem codec_eq_ok {encoding : String} {found : Codec} :
    codec encoding = .ok found ↔ Codec.ofName? encoding = some found := by
  unfold codec
  cases Codec.ofName? encoding <;> simp

/-- Every canonical name selects its own codec. -/
theorem codec_name (found : Codec) : codec found.name = .ok found :=
  codec_eq_ok.mpr (Codec.ofName?_name found)

/-- A supported encoding has a codec. -/
theorem codec_of_isSupported {encoding : String} (supported : isSupported encoding = true) :
    ∃ found, codec encoding = .ok found := by
  obtain ⟨found, selected⟩ := Option.isSome_iff_exists.mp supported
  exact ⟨found, codec_eq_ok.mpr selected⟩

/-- Bytes are read by the codec of the encoding. -/
theorem decode_eq_ok {encoding : String} {found : Codec} (selected : codec encoding = .ok found)
    (bytes : Bytes) : decode encoding bytes = .ok (found.decode bytes) := by
  simp [decode, selected, Except.map]

/-- A text is written by the codec of the encoding. -/
theorem encode_eq_ok {encoding : String} {found : Codec} (selected : codec encoding = .ok found)
    (text : String) : encode encoding text = .ok (found.encode text) := by
  simp [encode, selected, Except.map]

/-- A text by its units is written by the codec of the encoding. -/
theorem encodeWide_eq_ok {encoding : String} {found : Codec}
    (selected : codec encoding = .ok found) (text : Wide) :
    encodeWide encoding text = .ok (found.encodeWide text) := by
  simp [encodeWide, selected, Except.map]

/-- A text of characters is written as it is by its units. -/
@[simp] theorem encodeWide_ofText (encoding text : String) :
    encodeWide encoding (.ofText text) = encode encoding text := by
  simp only [encodeWide, encode, Codec.encodeWide_ofText]

end QueryBind.Encoding
