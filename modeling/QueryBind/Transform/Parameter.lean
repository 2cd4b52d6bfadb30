import QueryBind.Value.Json

/-! # Parameters by kind

A value seen as a parameter. Every value is one of nine kinds of parameter, except functions,
symbols and invalid dates, which are none. The kind decides the type that the server is told
and the text that is sent.
-/

namespace QueryBind

/-- A value of a kind that can be sent. -/
inductive Parameter where
  | null
  | boolean (b : Bool)
  /-- An exact integer; negative zero is one. -/
  | integer (n : Number)
  | float (n : Number)
  | bigint (n : Int)
  | text (content : Text.Wide)
  | binary (bytes : Bytes)
  /-- Milliseconds since the epoch. -/
  | instant (ms : Int)
  /-- Any other object, sent in serialized form. -/
  | json (value : Value)
  deriving Repr

namespace Parameter

/-- The parameter that a value is. -/
def ofValue : Value → Except QueryError Parameter
  | .undefined | .hole | .null => .ok .null
  | .bool b => .ok (.boolean b)
  | .number n => .ok (if n.isSafeInteger then .integer n else .float n)
  | .bigint n => .ok (.bigint n)
  | .text s => .ok (.text s)
  | .brokenText units => .ok (.text ⟨units⟩)
  | .buffer bytes | .octets bytes => .ok (.binary bytes)
  | .date (some ms) => .ok (.instant ms)
  | .date none => .error (.conversion .invalidDate)
  | .symbol description => .error (.conversion (.valueKind (Value.symbol description).kind))
  | .function result => .error (.conversion (.valueKind (Value.function result).kind))
  | other => .ok (.json other)

/-- The name of a parameter's kind. -/
def kindName : Parameter → String
  | .null => "null"
  | .boolean _ => "boolean"
  | .integer _ => "integer"
  | .float _ => "float"
  | .bigint _ => "bigint"
  | .text _ => "string"
  | .binary _ => "binary"
  | .instant _ => "timestamptz"
  | .json _ => "json"

/-- The number of the type that the server is told. It infers the type of a null or a text
itself. -/
def typeNumber : Parameter → Nat
  | .null | .text _ => 0
  | .boolean _ => 16
  | .integer _ | .bigint _ => 20
  | .float _ => 701
  | .binary _ => 17
  | .instant _ => 1184
  | .json _ => 3802

/-- Bytes as text: an introducer and two digits for every byte. -/
def bytesText (bytes : Bytes) : String :=
  "\\x" ++ Text.hex bytes

/-- The serialized text of an object, if it has one. -/
def jsonText (value : Value) : Except QueryError (Option String) :=
  match Value.Json.text? value with
  | .ok written => .ok written
  | .error failure => .error (.conversion (.notSerializable value.kind failure.message))

/-- The text that a parameter is sent as. Null has none, and an object may have none. -/
def sentText : Parameter → Except QueryError (Option Text.Wide)
  | .null => .ok none
  | .boolean b => .ok (some (.ofText (if b then "t" else "f")))
  | .integer n | .float n => .ok (some n.text)
  | .bigint n => .ok (some (.ofText (toString n)))
  | .text content => .ok (some content)
  | .binary bytes => .ok (some (bytesText bytes))
  | .instant ms => .ok (some (Instant.iso ms))
  | .json value => (jsonText value).map fun written => written.map .ofText

/-- The two null values are one parameter. -/
theorem ofValue_eq_null_iff (value : Value) : ofValue value = .ok .null ↔ value.isNull = true := by
  cases value with
  | number n => cases safe : n.isSafeInteger <;> simp [ofValue, Value.isNull, safe]
  | date instant => cases instant <;> simp [ofValue, Value.isNull]
  | _ => simp [ofValue, Value.isNull]

end Parameter

end QueryBind
