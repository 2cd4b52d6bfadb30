import QueryBind.Converter.Basic
import QueryBind.Params
import QueryBind.Sql.Composable
import QueryBind.Transform.Dumper

/-! # The ground of a binding

What a bound query works with: a converter, which it may share with others, a transformer
and the encoding that they settle on. The encoding is the transformer's, or else the
converter's, and it has to select a codec.
-/

namespace QueryBind

/-- The converter and the transformer that a bound query works with. -/
structure Ground where
  converter : Converter
  dumper : Dumper

namespace Ground

/-- The encoding that converter and transformer settle on. -/
def encoding (ground : Ground) : String :=
  ground.dumper.transformer.encoding.getD ground.converter.config.encoding

/-- The encoding, if it selects a codec. -/
def checkedEncoding (ground : Ground) : Except Fault String :=
  ((Encoding.codec ground.encoding).map fun _ => ground.encoding).mapError .query

/-- The bytes of what a caller gives as a query: text, bytes or a composable value. A query
with parameters is measured first, one without is handed over. -/
def queryBytes (transformer : Transformer) (encoding : String) (query params : Value) :
    Except Fault Bytes :=
  match query with
  | .text source => (Encoding.encode encoding source).mapError .query
  | .brokenText units => (Encoding.encodeWide encoding ⟨units⟩).mapError .query
  | .buffer bytes | .octets bytes => .ok bytes
  | other =>
    if other.isComposable then
      Sql.renderFor (if params.isNull then "toString" else "length") transformer other
    else .error (QueryError.conversion (.notQuery other.kind))

/-- The number of parameters as the converter is told. -/
def countOf (params : Value) : Value :=
  .number (.ofNat params.paramCount)

end Ground

end QueryBind
