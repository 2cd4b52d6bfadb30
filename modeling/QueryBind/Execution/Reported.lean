import QueryBind.Value.Display

/-! # Reported errors

Surrounding code may report an error under the name of its class, with the values that
describe it. A value that stands where a text is wanted is shown by its own text, and an
error that is described by a value without text cannot be made. Beyond that nothing is
checked: the data of an error is kept as it was given.
-/

namespace QueryBind.Report

/-- The text of a value inside a message. -/
def written (value : Value) : Except Fault String :=
  value.inlineText.map Text.Wide.mended

/-- The message that a value counts as; undefined is an empty one. -/
def messageOf : Value → Except Fault String
  | .undefined | .hole => .ok ""
  | other => written other

/-- Whether a value counts as true. -/
def holds : Value → Bool
  | .undefined | .hole | .null => false
  | .bool b => b
  | .number n => !n.isNaN && n.unsigned != .int 0
  | .bigint n => n != 0
  | .text s => s != ""
  | _ => true

/-- The cause that a value gives; one that does not count as true is no cause. -/
def causeOf (value : Value) : Option Cause :=
  if holds value then some (.value value) else none

/-- An error described by the fields of one value. -/
def ofDescription (description : Value) : Except Fault Report := do
  if description.isNull then
    throw (.wrongKind ("Cannot read properties of " ++ description.primitiveText.mended ++
      " (reading 'message')") .undefined)
  let field (name : String) := (Fields.get? description.ownFields name).getD .undefined
  let message ← messageOf (field "message")
  return {
    className := "QueryError"
    code := field "code"
    message
    sqlState := field "sqlState"
    retryable := if (field "retryable").isNull then .bool false else field "retryable"
    details := field "details"
    cause := causeOf (field "cause") }

/-- A piece of a text as a text of its own. -/
def pieceText : Text.Piece → Value
  | .whole c => .text (String.singleton c)
  | .half unit => .brokenText [unit]

/-- The items that a value lists: those of a list, a set or an array of numbers, the entries
of a map and the characters of a text. -/
def itemsOf? : Value → Option (List Value)
  | .list items | .set items =>
    some (items.map fun item => if item.isHole then .undefined else item)
  | .selfList => some [.selfList]
  | .map entries => some (entries.map fun entry => .list [entry.1, entry.2])
  | .text s | .boxed (.text s) => some (s.toList.map fun c => .text (String.singleton c))
  | .brokenText units | .boxed (.brokenText units) => some ((Text.spell units).map pieceText)
  | .buffer bytes | .octets bytes => some (bytes.map fun b => .number (.ofNat b.toNat))
  | .words units => some (units.map fun u => .number (.ofNat u.toNat))
  | _ => none

/-- Names in the order of their texts; those that are undefined come last. -/
def sortByText (names : List Value) : Except Fault (List Value) := do
  let (undefined, defined) := names.partition Value.isUndefined
  let texts ← defined.mapM Value.inlineText
  let sorted := (texts.zip defined).mergeSort fun a b => Text.unitsLe a.1.units b.1.units
  return sorted.map (·.2) ++ undefined

/-- Missing names, which may be any values. The two null values have an empty text. -/
def ofMissing (missing : Value) : Except Fault Report := do
  match itemsOf? missing with
  | none => throw (.wrongKind "missing is not iterable" .undefined)
  | some items =>
    let names ← sortByText items
    let texts ← Value.displayItems names
    return ErrorClass.missingParams.report
      (QueryError.missingParams (texts.map Text.Wide.mended)).message
      (.record [("missing", .list names)])

/-- The error that is reported under a class name. -/
def ofClass? (className : String) (described : List Value) : Option (Except Fault Report) :=
  let value (n : Nat) := described[n]?.getD .undefined
  let written (n : Nat) := written (value n)
  match className with
  | "QueryError" => some (ofDescription (value 0))
  | "ConfigurationError" => some do
    return (QueryError.configuration (← written 0)).report
  | "UnsupportedEncodingError" => some do
    let text ← written 0
    return ErrorClass.unsupportedEncoding.report (QueryError.unsupportedEncoding text).message
      (.record [("encoding", value 0)])
  | "MalformedPlaceholderError" => some do
    return ErrorClass.malformedPlaceholder.report (← messageOf (value 0))
      (.record [("fragment", value 1)])
  | "MixedPlaceholdersError" => some (.ok QueryError.mixedPlaceholders.report)
  | "ConflictingFormatError" => some do
    let text ← written 0
    return ErrorClass.conflictingFormat.report (QueryError.conflictingFormat text).message
      (.record [("name", value 0)])
  | "ParamsShapeError" => some do
    return ErrorClass.paramsShape.report (← messageOf (value 0)) .undefined
  | "ParamCountMismatchError" => some do
    return ErrorClass.paramCount.report (QueryError.countMessage (← written 0) (← written 1))
      (.record [("expected", value 0), ("actual", value 1)])
  | "MissingParamsError" => some (ofMissing (value 0))
  | "NotConvertedError" => some (.ok QueryError.notConverted.report)
  | "ConversionError" => some do
    let message := QueryError.conversionMessage (← written 0)
    return { ErrorClass.conversion.report message .undefined with cause := causeOf (value 1) }
  | "ExecutionError" => some do
    let error := QueryError.execution (← written 0) (value 1) none
    return { error.report with cause := causeOf (value 2) }
  | _ => none

/-- The report with another code. -/
def withCode (report : Report) (code : Value) : Report :=
  { report with code }

end QueryBind.Report
