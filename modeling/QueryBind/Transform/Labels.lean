import QueryBind.Transform.Basic
import QueryBind.Transform.Parameter

/-! # The labelling transformer

A transformer that shows what it is asked for in place of the values: a dumped value becomes
the letter of its format with its position, and a literal becomes the kind of its value. It
describes nothing.
-/

namespace QueryBind.Labels

/-- The bytes of a text of small characters. -/
def bytesOf (text : String) : Bytes :=
  Text.Codec.ascii.encode text

/-- The label of a dumped value, `position` being counted from zero. -/
def dumpOne (position : Nat) (format : Option Format) : Value → Option Bytes
  | .null => none
  | _ => some (bytesOf ((format.map fun f => String.singleton f.letter).getD "undefined" ++
      toString position))

/-- The labels of dumped values. -/
def dump (values : List Value) (formats : List Format) : Dump where
  outputs := values.zipIdx.map fun item => dumpOne item.2 formats[item.2]? item.1
  description := none

/-- The label of a literal. -/
def literal (value : Value) : Except Fault Bytes :=
  match Parameter.ofValue value with
  | .ok parameter => .ok (bytesOf ("<" ++ parameter.kindName ++ ">"))
  | .error error => .error error

end QueryBind.Labels

namespace QueryBind

/-- The labelling transformer with an encoding, if it is to name one. -/
def Transformer.labelling (encoding : Option String) : Transformer where
  encoding := encoding
  dump := fun values formats => .ok (Labels.dump values formats)
  literal := Labels.literal

end QueryBind
