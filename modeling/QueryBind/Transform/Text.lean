import QueryBind.Transform.Basic
import QueryBind.Transform.Parameter
import QueryBind.Sql.Quoted

/-! # The text transformer

Parameters are sent as text. Arrays of bytes are sent as they are, unless the placeholder
asks for text. A literal never begins with a minus sign, so that it cannot complete a
comment with a minus sign in front of it.
-/

namespace QueryBind.TextTransform

open Text (Wide)

/-- The bytes of a text that may be missing. -/
def encodeWritten (encoding : String) (text : Option Wide) : Except Fault Bytes := do
  let codec ← (Encoding.codec encoding).mapError Fault.query
  match text with
  | some written => return codec.encodeWide written
  | none =>
    throw (.wrongKind ("The first argument must be of type string or an instance of Buffer, " ++
      "ArrayBuffer, or Array or an Array-like Object. Received undefined")
      (.text "ERR_INVALID_ARG_TYPE"))

/-- The wire form of one parameter, `position` being counted from one. -/
def dumpOne (encoding : String) (position : Nat) (parameter : Parameter) (format : Format) :
    Except Fault (Option Bytes × WireFormat) :=
  match parameter, format with
  | .null, _ => .ok (none, .text)
  | .binary bytes, .auto => .ok (some bytes, .binary)
  | .binary bytes, .binary => .ok (some bytes, .binary)
  | other, .binary => .error (QueryError.conversion (.noBinaryForm other.kindName position))
  | other, _ => do
    let text ← other.sentText.mapError Fault.query
    let bytes ← encodeWritten encoding text
    return (some bytes, .text)

/-- Values dumped in their formats; the first value has the given position. An item that was never
there takes its position and is passed over. -/
def dumpFrom (encoding : String) (position : Nat) :
    List (Value × Format) → Except Fault (List (Option Bytes) × Description)
  | [] => .ok ([], ⟨[], []⟩)
  | (value, format) :: rest =>
    if value.isHole then dumpFrom encoding (position + 1) rest
    else do
      let parameter ← (Parameter.ofValue value).mapError Fault.query
      let (output, wire) ← dumpOne encoding position parameter format
      let (outputs, description) ← dumpFrom encoding (position + 1) rest
      return (output :: outputs,
        ⟨parameter.typeNumber :: description.types, wire :: description.formats⟩)

/-- Values dumped in their formats, of which there has to be one for each. -/
def dump (encoding : String) (values : List Value) (formats : List Format) :
    Except Fault Dump :=
  if values.length ≠ formats.length then
    .error (QueryError.conversion (.formatCount values.length formats.length))
  else
    (dumpFrom encoding 1 (values.zip formats)).map fun dumped => ⟨dumped.1, some dumped.2⟩

/-- A text after a space if it begins with a minus sign. -/
def guarded (text : String) : String :=
  if text.toList.head? = some '-' then " " ++ text else text

/-- The literal of a parameter. -/
def literalText : Parameter → Except Fault Wide
  | .null => .ok "NULL"
  | .boolean b => .ok (if b then "true" else "false")
  | .integer n => .ok (guarded n.text)
  | .bigint n => .ok (guarded (toString n))
  | .float n => .ok (if n.isFinite then guarded n.text else "'" ++ n.text ++ "'::float8")
  | .text content => (Sql.quoteWide content).mapError .query
  | .binary bytes => .ok ("'" ++ Parameter.bytesText bytes ++ "'::bytea")
  | .instant ms => .ok ("'" ++ Instant.iso ms ++ "'::timestamptz")
  | .json value => do
    match ← (Parameter.jsonText value).mapError Fault.query with
    | some text =>
      let quoted ← (Sql.quoteText text).mapError Fault.query
      return Wide.ofText (quoted ++ "::jsonb")
    | none =>
      throw (.wrongKind "Cannot read properties of undefined (reading 'includes')" .undefined)

/-- The literal of a value. -/
def literal (encoding : String) (value : Value) : Except Fault Bytes := do
  let parameter ← (Parameter.ofValue value).mapError Fault.query
  let text ← literalText parameter
  (Encoding.encodeWide encoding text).mapError Fault.query

end QueryBind.TextTransform

namespace QueryBind

/-- The text transformer of a connection encoding. -/
def Transformer.text (encoding : String) : Transformer where
  encoding := some encoding
  dump := TextTransform.dump encoding
  literal := TextTransform.literal encoding

end QueryBind
