import QueryBind.Value.Display
import QueryBind.Text.Hex

/-! # Serialized values

The compact serialized text of a value. A field or item may have no text: fields without
text are left out and items without text are written as null. A record may offer a function
`toJSON` whose result is written in its place, and so may what it inherits from; dates and
buffers bring such a form of their own, which suits no other object. A big integer and a
value that contains itself cannot be written.
-/

namespace QueryBind.Value.Json

/-- Why a value cannot be written. -/
inductive Failure where
  | bigInteger
  | circular
  /-- The form of a date or a buffer was asked of another object. -/
  | foreignForm
  deriving DecidableEq, Repr

/-- The wording of a failure. -/
def Failure.message : Failure → String
  | .bigInteger => "Do not know how to serialize a BigInt"
  | .circular => "Converting circular structure to JSON"
  | .foreignForm => "this is not an object of the expected class"

/-- The escape of a character inside quotes, if it needs one: quotation mark, backslash and
the controls below the space. -/
def escape? (c : Char) : Option (List Char) :=
  let n := c.toNat
  if c = '"' then some ['\\', '"']
  else if c = '\\' then some ['\\', '\\']
  else if n = 0x08 then some ['\\', 'b']
  else if n = 0x09 then some ['\\', 't']
  else if n = 0x0A then some ['\\', 'n']
  else if n = 0x0C then some ['\\', 'f']
  else if n = 0x0D then some ['\\', 'r']
  else if n < 0x20 then some (['\\', 'u', '0', '0'] ++ Text.hexByte (UInt8.ofNat n))
  else none

/-- A character inside quotes. -/
def inQuotes (c : Char) : List Char :=
  (escape? c).getD [c]

/-- A text in quotation marks. -/
def quoted (text : String) : String :=
  String.ofList ('"' :: text.toList.flatMap inQuotes ++ ['"'])

/-- A unit by its four digits. -/
def escapedUnit (unit : UInt16) : List Char :=
  ['\\', 'u'] ++ Text.hexByte (UInt8.ofNat (unit.toNat / 256)) ++
    Text.hexByte (UInt8.ofNat (unit.toNat % 256))

/-- A piece of a text inside quotes. -/
def pieceInQuotes : Text.Piece → List Char
  | .whole c => inQuotes c
  | .half unit => escapedUnit unit

/-- The text with these units in quotation marks. Half of a character is escaped. -/
def quotedUnits (units : List UInt16) : String :=
  String.ofList ('"' :: (Text.spell units).flatMap pieceInQuotes ++ ['"'])

/-- A number; infinities and not-a-number become null. -/
def number (n : Number) : String :=
  if n.isFinite then n.text else "null"

/-- Items in brackets. -/
def brackets (items : List String) : String :=
  "[" ++ ",".intercalate items ++ "]"

/-- Named items in braces. -/
def braces (fields : List (String × String)) : String :=
  "\x7b" ++ ",".intercalate (fields.map fun field => quoted field.1 ++ ":" ++ field.2) ++ "\x7d"

/-- Numbers under their positions, in braces. -/
def numberedBytes (numbers : List Nat) : String :=
  braces (numbers.zipIdx.map fun item => (toString item.2, toString item.1))

/-- The form that a buffer brings: its type and its bytes. -/
def bufferForm (bytes : Bytes) : String :=
  braces [("type", quoted "Buffer"), ("data", brackets (bytes.map fun b => toString b.toNat))]

/-- Whether fields offer a form of their own. -/
def offersForm (fields : Fields) : Bool :=
  (Fields.get? fields "toJSON").any isFunction

mutual

/-- The text of a value, if it has one. `own` says whether the value may put its own form in
its place; the result of such a form may not do so again. -/
def write (own : Bool) : Value → Except Failure (Option String)
  | .undefined | .hole | .function _ | .symbol _ => .ok none
  | .null => .ok (some "null")
  | .bool b => .ok (some (if b then "true" else "false"))
  | .number n => .ok (some (number n))
  | .bigint _ => .error .bigInteger
  | .text s => .ok (some (quoted s))
  | .brokenText units => .ok (some (quotedUnits units))
  | .list items => (writeItems items).map fun texts => some (brackets texts)
  | .record fields | .bareRecord fields | .classInstance _ fields =>
    if own && offersForm fields then writeForm fields
    else (writeFields fields).map fun texts => some (braces texts)
  | .derived parent fields => do
    let form ←
      if own then
        if offersForm fields then (writeForm fields).map some
        else if Fields.contains fields "toJSON" then .ok none
        else writeInherited parent
      else .ok none
    match form with
    | some written => return written
    | none => return some (braces (← writeFields fields))
  | .map _ | .set _ => .ok (some (braces []))
  | .buffer bytes =>
    .ok (some (if own then bufferForm bytes else numberedBytes (bytes.map UInt8.toNat)))
  | .octets bytes => .ok (some (numberedBytes (bytes.map UInt8.toNat)))
  | .words units => .ok (some (numberedBytes (units.map UInt16.toNat)))
  | .date instant =>
    .ok (some (if own then (instant.map fun ms => quoted (Instant.iso ms)).getD "null"
      else braces []))
  | .boxed (.number n) => .ok (some (number n))
  | .boxed (.text s) => .ok (some (quoted s))
  | .boxed (.brokenText units) => .ok (some (quotedUnits units))
  | .boxed (.bool b) => .ok (some (if b then "true" else "false"))
  | .boxed (.bigint _) => .error .bigInteger
  | .boxed _ => .ok (some (braces []))
  | .selfRecord | .selfList => .error .circular
  | .sql source => .ok (some (braces [("text", quotedUnits source.units)]))
  | .identifier names =>
    .ok (some (braces [("names", brackets (names.map fun name => quotedUnits name.units))]))
  | .literal value =>
    (write true value).map fun text =>
      some (braces ((text.map fun written => ("value", written)).toList))
  | .composed items =>
    (writeItems items).map fun texts => some (braces [("items", brackets texts)])

/-- Texts of list items; one without text is null. -/
def writeItems : List Value → Except Failure (List String)
  | [] => .ok []
  | item :: rest => do
    let text ← write true item
    let texts ← writeItems rest
    return text.getD "null" :: texts

/-- Names and texts of the fields that have a text. -/
def writeFields : List (String × Value) → Except Failure (List (String × String))
  | [] => .ok []
  | (name, value) :: rest => do
    let text ← write true value
    let texts ← writeFields rest
    return (text.map fun written => (name, written)).toList ++ texts

/-- The form that heirs of a value inherit, if there is one. -/
def writeInherited : Value → Except Failure (Option (Option String))
  | .record fields | .bareRecord fields | .classInstance _ fields =>
    if offersForm fields then (writeForm fields).map some else .ok none
  | .derived parent fields =>
    if offersForm fields then (writeForm fields).map some
    else if Fields.contains fields "toJSON" then .ok none
    else writeInherited parent
  | .buffer _ | .date _ => .error .foreignForm
  | _ => .ok none

/-- The text of the form that the fields offer. -/
def writeForm : List (String × Value) → Except Failure (Option String)
  | [] => .ok none
  | (name, value) :: rest =>
    if name == "toJSON" then
      match value with
      | .function result => write false result
      | _ => .ok none
    else writeForm rest

end

/-- The serialized text of a value, if it has one. -/
def text? (value : Value) : Except Failure (Option String) :=
  write true value

end QueryBind.Value.Json
