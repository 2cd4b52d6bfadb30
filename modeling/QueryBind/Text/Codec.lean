import QueryBind.Text.Wide
import QueryBind.Text.Blank
import QueryBind.Text.LowerCase
import QueryBind.Text.Utf8

/-! # Codecs

The three ways of turning text into bytes and back, and the connection encoding names
that select them. The two single-byte codecs keep the low byte of every sixteen-bit unit
when they encode, so they lose information silently; reading as ASCII drops the top bit.
-/

namespace QueryBind

/-- Raw bytes of a query, a parameter or a literal. -/
abbrev Bytes := List UInt8

namespace Text

/-- A way of turning text into bytes and bytes into text. -/
inductive Codec where
  | utf8
  | ascii
  | latin1
  deriving DecidableEq, Repr

namespace Codec

/-- The canonical name of a codec. -/
def name : Codec → String
  | .utf8 => "utf8"
  | .ascii => "ascii"
  | .latin1 => "latin1"

/-- Connection encoding names in canonical spelling, with their codecs. -/
def names : List (String × Codec) :=
  [("utf8", .utf8), ("unicode", .utf8), ("sql_ascii", .ascii), ("latin1", .latin1),
    ("utf-8", .utf8), ("ascii", .ascii), ("binary", .latin1)]

/-- The codec of an encoding name, blanks around it and letter case aside. -/
def ofName? (encoding : String) : Option Codec :=
  names.lookup (lowerCase (trim encoding))

/-- The low byte of every unit. -/
def encodeUnits (text : String) : Bytes :=
  (units text).map fun unit => unit.toUInt8

/-- One character per byte. -/
def latin1Text (bytes : Bytes) : String :=
  String.ofList (bytes.map fun byte => Char.ofNat byte.toNat)

/-- The bytes of a text. -/
def encode : Codec → String → Bytes
  | .utf8, text => Utf8.encode text
  | .ascii, text => encodeUnits text
  | .latin1, text => encodeUnits text

/-- The bytes of a text by its units. The Unicode format has no bytes for half of a character, and
those of the replacement character stand for it. -/
def encodeWide : Codec → Wide → Bytes
  | .utf8, text => Utf8.encode text.mended
  | .ascii, text | .latin1, text => text.units.map fun unit => unit.toUInt8

/-- The text of any bytes. -/
def decode : Codec → Bytes → String
  | .utf8, bytes => Utf8.decode bytes
  | .ascii, bytes => latin1Text (bytes.map (· &&& 0x7F))
  | .latin1, bytes => latin1Text bytes

/-- A text of characters has one encoding. -/
@[simp] theorem encodeWide_ofText (codec : Codec) (text : String) :
    codec.encodeWide (.ofText text) = codec.encode text := by
  cases codec
  · exact congrArg Utf8.encode (Wide.mended_ofText text)
  · rfl
  · rfl

/-- Every canonical name selects its own codec. -/
theorem ofName?_name (codec : Codec) : ofName? codec.name = some codec := by
  cases codec <;> decide +kernel

end Codec

end Text

end QueryBind
