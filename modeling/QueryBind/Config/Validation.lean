import QueryBind.Config.Basic
import QueryBind.Value.Kind

/-! # Validation of configurations

Every field is checked on its own. A field that is missing or of a wrong type has that one
flaw; otherwise all checks that fail are reported, field by field in the order of the
configuration.
-/

namespace QueryBind.Config

/-- What is wrong with a field. -/
inductive Flaw where
  | required
  | wrongType (expected received : String)
  | fractional
  | belowZero
  | above (bound : Nat)
  | empty
  | unsupportedEncoding
  deriving DecidableEq, Repr

/-- The wording of a flaw. -/
def Flaw.message : Flaw → String
  | .required => "Required"
  | .wrongType expected received => s!"Expected {expected}, received {received}"
  | .fractional => "Expected integer, received float"
  | .belowZero => "Number must be greater than or equal to 0"
  | .above bound => s!"Number must be less than or equal to {bound}"
  | .empty => "String must contain at least 1 character(s)"
  | .unsupportedEncoding => "unsupported encoding"

/-- The type of an object with these fields: one that can be waited for is a promise. -/
def objectType (fields : Fields) : String :=
  if (Fields.get? fields "then").any Value.isFunction &&
    (Fields.get? fields "catch").any Value.isFunction then "promise" else "object"

/-- The name of a value's type in the wording of a flaw. -/
def typeName : Value → String
  | .undefined | .hole => "undefined"
  | .null => "null"
  | .bool _ => "boolean"
  | .number n => if n.isNaN then "nan" else "number"
  | .bigint _ => "bigint"
  | .text _ | .brokenText _ => "string"
  | .symbol _ => "symbol"
  | .function _ => "function"
  | .list _ | .selfList => "array"
  | .map _ => "map"
  | .set _ => "set"
  | .date _ => "date"
  | .record fields | .bareRecord fields | .classInstance _ fields => objectType fields
  | _ => "object"

/-- The flaw of a value that is not of the expected type. -/
def mistyped (expected : String) : Value → Flaw
  | .undefined | .hole => .required
  | other => .wrongType expected (typeName other)

/-- Flaws of a limit: it has to be an integer from zero up to the bound, if there is one. -/
def limitFlaws (bound : Option Nat) (n : Number) : List Flaw :=
  (if n.isInteger then [] else [.fractional]) ++
    (if Number.le (.int 0) n then [] else [.belowZero]) ++
    (bound.toList.filter fun (most : Nat) => !n.le (.int most)).map Flaw.above

/-- A limit, or its flaws. -/
def checkLimit (bound : Option Nat) : Value → Except (List Flaw) Number
  | .number n =>
    if n.isNaN then .error [mistyped "number" (.number n)]
    else if limitFlaws bound n = [] then .ok n
    else .error (limitFlaws bound n)
  | other => .error [mistyped "number" other]

/-- Flaws of an encoding name. -/
def encodingFlaws (name : String) : List Flaw :=
  (if name = "" then [.empty] else []) ++
    (if Encoding.isSupported name then [] else [.unsupportedEncoding])

/-- An encoding name, or its flaws. No name of an encoding has half of a character. -/
def checkEncoding : Value → Except (List Flaw) String
  | .text name => if encodingFlaws name = [] then .ok name else .error (encodingFlaws name)
  | .brokenText _ => .error [.unsupportedEncoding]
  | other => .error [mistyped "string" other]

/-- The report of a field's flaws. -/
def describe {α : Type} (path : String) : Except (List Flaw) α → List String
  | .ok _ => []
  | .error flaws => flaws.map fun flaw => path ++ ": " ++ flaw.message

/-- The refusal of a configuration for the reported flaws. -/
def refuse (reports : List String) : QueryError :=
  .configuration ("Configuration validation failed: " ++ "; ".intercalate reports)

/-- The configuration with the given fields. -/
def ofFields (fields : Fields) : Except QueryError Config :=
  let field (name : String) := (Fields.get? fields name).getD .undefined
  let capacity := checkLimit (some maxCapacity) (field "cacheCapacity")
  let length := checkLimit none (field "maxCachedStatementLength")
  let params := checkLimit none (field "maxCachedStatementParams")
  let encoding := checkEncoding (field "encoding")
  match capacity, length, params, encoding with
  | .ok capacity, .ok length, .ok params, .ok encoding => .ok ⟨capacity, length, params, encoding⟩
  | _, _, _, _ => .error (refuse (describe "cacheCapacity" capacity ++
      describe "maxCachedStatementLength" length ++
      describe "maxCachedStatementParams" params ++ describe "encoding" encoding))

/-- The configuration that a value describes. -/
def ofValue (value : Value) : Except QueryError Config :=
  if typeName value = "object" then ofFields value.ownFields
  else .error (refuse [": " ++ (mistyped "object" value).message])

/-- The standard configuration with the fields of a value in place of its own. -/
def override (overrides : Value) : Except QueryError Config :=
  ofValue (.record (Fields.merge standard.toFields overrides.ownFields))

/-- A limit that is accepted is the number that was given, and nothing is wrong with it. -/
theorem checkLimit_eq_ok {bound : Option Nat} {value : Value} {n : Number}
    (success : checkLimit bound value = .ok n) :
    value = .number n ∧ n.isNaN = false ∧ limitFlaws bound n = [] := by
  cases value with
  | number m =>
    simp only [checkLimit] at success
    split at success
    · simp at success
    · next real =>
      split at success
      · next sound =>
        cases success
        exact ⟨rfl, by simpa using real, sound⟩
      · simp at success
  | _ => simp [checkLimit] at success

/-- An accepted encoding selects a codec. -/
theorem isSupported_of_checkEncoding {value : Value} {name : String}
    (success : checkEncoding value = .ok name) : Encoding.isSupported name = true := by
  cases value with
  | text given =>
    simp only [checkEncoding] at success
    split at success
    · next sound =>
      cases success
      simp only [encodingFlaws, List.append_eq_nil_iff] at sound
      simpa using sound.2
    · simp at success
  | _ => simp [checkEncoding] at success

end QueryBind.Config
