import QueryBind.Binding.Client
import QueryBind.Binding.Server

/-! # Prepared executions

What is handed to the client of the server: the text of a query and, if it is bound on the
server, the values of its parameters. A parameter is handed over as text unless it is sent in
binary.
-/

namespace QueryBind

/-- The value of a parameter as it is handed over. -/
inductive SentValue where
  | null
  | text (s : String)
  | bytes (bytes : Bytes)
  deriving DecidableEq, Repr

/-- A query ready to be handed over. -/
structure Prepared where
  text : String
  values : Option (List SentValue)
  deriving DecidableEq, Repr

namespace Prepared

/-- A dumped parameter as it is handed over. -/
def valueOf (codec : Text.Codec) (wire : Option WireFormat) : Option Bytes → SentValue
  | none => .null
  | some bytes => if wire = some .binary then .bytes bytes else .text (codec.decode bytes)

/-- The values of dumped parameters. -/
def valuesOf (codec : Text.Codec) (formats : Option (List WireFormat))
    (params : List (Option Bytes)) : List SentValue :=
  params.zipIdx.map fun item => valueOf codec (formats.bind (·[item.2]?)) item.1

/-- A query bound on the server as it is handed over. -/
def ofServer (codec : Text.Codec) (binding : ServerBinding) : Prepared where
  text := codec.decode binding.query
  values := binding.params.map (valuesOf codec binding.formats)

/-- A query bound on the client as it is handed over. -/
def ofClient (codec : Text.Codec) (binding : ClientBinding) : Prepared where
  text := codec.decode binding.query
  values := none

/-- Binds a query to its parameters for one execution. -/
def make (converter : Converter) (transformer : Transformer) (variant : Variant)
    (query params : Value) : Except Fault Prepared × Converter :=
  let ground : Ground := ⟨converter, { transformer }⟩
  match (Encoding.codec ground.encoding).mapError Fault.query with
  | .error fault => (.error fault, converter)
  | .ok codec =>
    match variant with
    | .server =>
      match ServerBinding.convert {} ground ground.encoding query params with
      | (.ok (), binding, left) => (.ok (ofServer codec binding), left.converter)
      | (.error fault, _, left) => (.error fault, left.converter)
    | .client =>
      match ClientBinding.convert {} ground ground.encoding query params with
      | (.ok (), binding, left) => (.ok (ofClient codec binding), left.converter)
      | (.error fault, _, left) => (.error fault, left.converter)

end Prepared

end QueryBind
