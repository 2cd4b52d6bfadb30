import QueryBind.Value.Fields

/-! # Kinds of values

The name of a value's kind, as messages write it, and the two questions that the choice of
a binding asks: whether a value renders itself, and how many parameters it holds.
-/

namespace QueryBind.Value

/-- The class name that an object with these fields shows. A field `constructor` hides the
inherited one, and what it holds has no name. -/
def shownClass (fields : Fields) (inherited : String) : String :=
  if Fields.contains fields "constructor" || inherited.isEmpty then "object" else inherited

/-- Whether a value is a function. -/
def isFunction : Value → Bool
  | .function _ => true
  | _ => false

/-- The name of a value's kind. A record that inherits from another object shows the class
of that object. -/
def kind : Value → String
  | .undefined | .hole => "undefined"
  | .null => "null"
  | .bool _ => "boolean"
  | .number _ => "number"
  | .bigint _ => "bigint"
  | .text _ | .brokenText _ => "string"
  | .symbol _ => "symbol"
  | .function _ => "function"
  | .list _ => "Array"
  | .record fields => shownClass fields "Object"
  | .bareRecord _ => "object"
  | .classInstance className fields => shownClass fields className
  | .derived parent fields =>
    shownClass fields (if parent.isFunction then "Function" else kind parent)
  | .map _ => "Map"
  | .set _ => "Set"
  | .buffer _ => "Buffer"
  | .octets _ => "Uint8Array"
  | .words _ => "Uint16Array"
  | .date _ => "Date"
  | .boxed inner =>
    match inner with
    | .bool _ => "Boolean"
    | .number _ => "Number"
    | .bigint _ => "BigInt"
    | .text _ | .brokenText _ => "String"
    | .symbol _ => "Symbol"
    | _ => "Object"
  | .selfRecord => "Object"
  | .selfList => "Array"
  | .sql _ => "SQL"
  | .identifier _ => "Identifier"
  | .literal _ => "Literal"
  | .composed _ => "Composed"

/-- Whether a value is an object that is no function. -/
def isObject (v : Value) : Bool :=
  !v.isPrimitive && !v.isFunction

/-- Whether a value can render itself to query bytes. A record that inherits from another object
can if that one can, unless a field of its own stands in the way. -/
def isComposable : Value → Bool
  | .sql _ | .identifier _ | .literal _ | .composed _ => true
  | .record fields | .bareRecord fields | .classInstance _ fields =>
    (Fields.get? fields "asBytes").any isFunction
  | .derived parent fields =>
    match Fields.get? fields "asBytes" with
    | some own => own.isFunction
    | none => isComposable parent
  | _ => false

/-- How many parameters a value holds; a value that holds none counts as zero. -/
def paramCount : Value → Nat
  | .list items => items.length
  | .selfList => 1
  | .map entries => entries.length
  | v => (v.plainFields?.map List.length).getD 0

end QueryBind.Value
