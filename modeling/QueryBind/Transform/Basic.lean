import QueryBind.Encoding
import QueryBind.Placeholder.Format

/-! # Transformers

A transformer turns values into what a query sends: parameters in wire form, or literals
in the query's own text. It may name the encoding of the connection. A transformer describes
the sequence that it dumped last; since a description depends on that sequence alone, the
transformer is a value and the description is what a dump returns beside the bytes.
-/

namespace QueryBind

/-- Types and wire formats of a dumped sequence. -/
structure Description where
  types : List Nat
  formats : List WireFormat
  deriving DecidableEq, Repr

/-- A dumped sequence: the bytes of every value that is not null, and the description. -/
structure Dump where
  outputs : List (Option Bytes)
  description : Option Description
  deriving DecidableEq, Repr

/-- A way of turning values into bytes. -/
structure Transformer where
  /-- The connection encoding, if the transformer names one. -/
  encoding : Option String
  /-- Wire forms of values in the formats that placeholders ask for. -/
  dump : List Value → List Format → Except Fault Dump
  /-- A value as a literal. -/
  literal : Value → Except Fault Bytes

/-- The encoding that text is rendered in. -/
def Transformer.textEncoding (transformer : Transformer) : String :=
  transformer.encoding.getD Encoding.fallback

end QueryBind
