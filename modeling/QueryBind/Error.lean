import QueryBind.Value.Kind

/-! # Errors

What can go wrong between a query with its parameters and its execution. Errors are causes:
a constructor carries the data of the failure, and the wording, the code and the details
are computed from it. What an error shows of itself is its report. Surrounding code may
report errors of these classes with data of its own, which need not be of the kind that an
error of this library shows.
-/

namespace QueryBind

/-- What is wrong with a placeholder. -/
inductive Malformation where
  /-- `%(` that opens no complete placeholder. -/
  | incomplete (fragment : String)
  /-- A mark before a space. -/
  | beforeSpace
  /-- A placeholder whose last character is no format. -/
  | unknownFormat (fragment : String)

/-- How parameters fail to have the shape that the query asks for. -/
inductive ShapeMismatch where
  /-- Neither a sequence nor a mapping. -/
  | neither (kind : String)
  | needsMapping
  | needsSequence

/-- Why a value or a query cannot be converted. -/
inductive Unconvertible where
  | noNames
  | nulInIdentifier
  | nulInText
  | invalidDate
  | valueKind (kind : String)
  | formatCount (values formats : Nat)
  | noBinaryForm (kind : String) (position : Nat)
  | notQuery (kind : String)
  | notSerializable (kind reason : String)

/-- The name and the message of an error that caused another one. -/
structure Origin where
  name : String
  message : String
  deriving DecidableEq, Repr

/-- An error of this library. -/
inductive QueryError where
  | configuration (detail : String)
  | unsupportedEncoding (encoding : String)
  | malformedPlaceholder (flaw : Malformation)
  | mixedPlaceholders
  | conflictingFormat (name : String)
  | paramsShape (mismatch : ShapeMismatch)
  | paramCount (expected actual : Nat)
  | missingParams (names : List String)
  | notConverted
  | conversion (reason : Unconvertible)
  | execution (detail : String) (sqlState : Value) (origin : Option Origin)

/-- The classes of the errors of this library. -/
inductive ErrorClass where
  | configuration
  | unsupportedEncoding
  | malformedPlaceholder
  | mixedPlaceholders
  | conflictingFormat
  | paramsShape
  | paramCount
  | missingParams
  | notConverted
  | conversion
  | execution
  deriving DecidableEq, Repr

/-- What is given as the cause of an error: another error, or a value that is none. -/
inductive Cause where
  | error (origin : Origin)
  | value (value : Value)

/-- What an error of this library shows of itself. Unless somebody says otherwise, trying again
does not help. -/
structure Report where
  className : String
  code : Value
  message : String
  sqlState : Value := .undefined
  retryable : Value := .bool false
  details : Value := .undefined
  cause : Option Cause := none

namespace ErrorClass

/-- The name that a class shows. -/
def name : ErrorClass → String
  | .configuration => "ConfigurationError"
  | .unsupportedEncoding => "UnsupportedEncodingError"
  | .malformedPlaceholder => "MalformedPlaceholderError"
  | .mixedPlaceholders => "MixedPlaceholdersError"
  | .conflictingFormat => "ConflictingFormatError"
  | .paramsShape => "ParamsShapeError"
  | .paramCount => "ParamCountMismatchError"
  | .missingParams => "MissingParamsError"
  | .notConverted => "NotConvertedError"
  | .conversion => "ConversionError"
  | .execution => "ExecutionError"

/-- The code of the errors of a class. -/
def code : ErrorClass → String
  | .configuration => "CONFIGURATION_ERROR"
  | .unsupportedEncoding => "UNSUPPORTED_ENCODING"
  | .malformedPlaceholder => "MALFORMED_PLACEHOLDER"
  | .mixedPlaceholders => "MIXED_PLACEHOLDERS"
  | .conflictingFormat => "CONFLICTING_FORMAT"
  | .paramsShape => "PARAMS_SHAPE"
  | .paramCount => "PARAM_COUNT_MISMATCH"
  | .missingParams => "MISSING_PARAMS"
  | .notConverted => "NOT_CONVERTED"
  | .conversion => "CONVERSION_ERROR"
  | .execution => "EXECUTION_ERROR"

/-- The classes of mistakes in a query or in its parameters. -/
def programming : List ErrorClass :=
  [.malformedPlaceholder, .mixedPlaceholders, .conflictingFormat, .paramsShape, .paramCount,
    .missingParams, .notConverted]

/-- The codes of mistakes in a query or in its parameters. -/
def programmingCodes : List String :=
  programming.map code

/-- The report of an error of a class. -/
def report (errorClass : ErrorClass) (message : String) (details : Value) : Report where
  className := errorClass.name
  code := .text errorClass.code
  message := message
  details := details

end ErrorClass

namespace Malformation

def message : Malformation → String
  | .incomplete fragment => s!"incomplete placeholder: '{fragment}'"
  | .beforeSpace => "incomplete placeholder: '%'; if you want to use '%' as an operator" ++
      " you can double it up, i.e. use '%%'"
  | .unknownFormat fragment =>
    s!"only '%s', '%b', '%t' are allowed as placeholders, got '{fragment}'"

def fragment : Malformation → String
  | .incomplete fragment => fragment
  | .beforeSpace => "% "
  | .unknownFormat fragment => fragment

end Malformation

def ShapeMismatch.message : ShapeMismatch → String
  | .neither kind => s!"query parameters should be a sequence or a mapping, got {kind}"
  | .needsMapping => "named placeholders require a mapping of parameters"
  | .needsSequence => "positional placeholders (%s) require a sequence of parameters"

def Unconvertible.message : Unconvertible → String
  | .noNames => "Identifier requires at least one name"
  | .nulInIdentifier => "identifiers cannot contain NUL characters"
  | .nulInText => "PostgreSQL text fields cannot contain NUL (0x00) characters"
  | .invalidDate => "cannot adapt an invalid Date"
  | .valueKind kind => s!"cannot adapt type '{kind}'"
  | .formatCount values formats => s!"got {values} values but {formats} formats"
  | .noBinaryForm kind position =>
    s!"no binary dumper for {kind} values (parameter {position}); use %s or %t"
  | .notQuery kind => s!"query should be a string, bytes or a composable object, got {kind}"
  | .notSerializable kind _ => s!"cannot serialize {kind} to JSON"

namespace QueryError

/-- Missing names are always listed in unit order. -/
def missing (names : List String) : QueryError :=
  .missingParams (Text.sortNames names)

/-- The class of an error. -/
def errorClass : QueryError → ErrorClass
  | .configuration _ => .configuration
  | .unsupportedEncoding _ => .unsupportedEncoding
  | .malformedPlaceholder _ => .malformedPlaceholder
  | .mixedPlaceholders => .mixedPlaceholders
  | .conflictingFormat _ => .conflictingFormat
  | .paramsShape _ => .paramsShape
  | .paramCount .. => .paramCount
  | .missingParams _ => .missingParams
  | .notConverted => .notConverted
  | .conversion _ => .conversion
  | .execution .. => .execution

/-- The code of an error, by which callers and counters tell errors apart. -/
def code (error : QueryError) : String :=
  error.errorClass.code

/-- The wording of a wrong number of parameters. -/
def countMessage (expected actual : String) : String :=
  s!"the query has {expected} placeholders but {actual} parameters were passed"

/-- The wording of a failed conversion. -/
def conversionMessage (reason : String) : String :=
  "Conversion error: " ++ reason

/-- The wording of an error. -/
def message : QueryError → String
  | .configuration detail => s!"Configuration error: {detail}"
  | .unsupportedEncoding encoding => s!"unsupported connection encoding: '{encoding}'"
  | .malformedPlaceholder flaw => flaw.message
  | .mixedPlaceholders => "positional and named placeholders cannot be mixed"
  | .conflictingFormat name => s!"placeholder '{name}' cannot have different formats"
  | .paramsShape mismatch => mismatch.message
  | .paramCount expected actual => countMessage (toString expected) (toString actual)
  | .missingParams names =>
    "missing parameter" ++ (if names.length = 1 then "" else "s") ++ ": " ++
      ", ".intercalate names
  | .notConverted =>
    "the query was converted without parameters; call convert() with parameters first"
  | .conversion reason => conversionMessage reason.message
  | .execution detail _ _ => s!"Query execution failed: {detail}"

/-- The state code that the server reported, or undefined. -/
def sqlState : QueryError → Value
  | .execution _ sqlState _ => sqlState
  | _ => .undefined

/-- The data of an error, or undefined. -/
def details : QueryError → Value
  | .unsupportedEncoding encoding => .record [("encoding", .text encoding)]
  | .malformedPlaceholder flaw => .record [("fragment", .text flaw.fragment)]
  | .conflictingFormat name => .record [("name", .text name)]
  | .paramCount expected actual =>
    .record [("expected", .number (.ofNat expected)), ("actual", .number (.ofNat actual))]
  | .missingParams names => .record [("missing", .list (names.map .text))]
  | _ => .undefined

/-- The error that caused this one, if it is known. -/
def origin? : QueryError → Option Origin
  | .execution _ _ origin => origin
  | .conversion (.notSerializable _ reason) => some ⟨"TypeError", reason⟩
  | _ => none

/-- What an error shows of itself. -/
def report (error : QueryError) : Report where
  className := error.errorClass.name
  code := .text error.code
  message := error.message
  sqlState := error.sqlState
  details := error.details
  cause := error.origin?.map Cause.error

end QueryError

namespace Report

/-- Whether a report is about a mistake in the query or in its parameters. -/
def isProgramming (report : Report) : Bool :=
  match report.code with
  | .text code => ErrorClass.programmingCodes.contains code
  | _ => false

/-- The fields of a report as a record. -/
def toRecord (report : Report) : Value :=
  .record [("name", .text report.className), ("code", report.code),
    ("sqlState", report.sqlState), ("message", .text report.message),
    ("retryable", report.retryable), ("details", report.details)]

/-- Name and message of a reported error. -/
def origin (report : Report) : Origin :=
  ⟨report.className, report.message⟩

end Report

/-- Anything that an operation may fail with: an error of this library, or what surrounding
code threw. -/
inductive Fault where
  | query (error : QueryError)
  /-- An error of one of the classes of this library, with the data of whoever reported it. -/
  | reported (report : Report)
  /-- An ordinary error; its code is undefined unless it was set. -/
  | plain (message : String) (code : Value)
  | range (message : String)
  /-- An operation on a value of a kind that it is not defined for. -/
  | wrongKind (message : String) (code : Value)
  /-- A thrown value that is no error. -/
  | thrown (value : Value)

instance : Coe QueryError Fault := ⟨.query⟩

namespace Fault

/-- Name and message of a fault that is an error. -/
def origin? : Fault → Option Origin
  | .query error => some error.report.origin
  | .reported report => some report.origin
  | .plain message _ => some ⟨"Error", message⟩
  | .range message => some ⟨"RangeError", message⟩
  | .wrongKind message _ => some ⟨"TypeError", message⟩
  | .thrown _ => none

/-- The report of a fault that is an error of this library. -/
def report? : Fault → Option Report
  | .query error => some error.report
  | .reported report => some report
  | _ => none

end Fault

end QueryBind
