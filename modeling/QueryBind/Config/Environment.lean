import QueryBind.Config.Validation
import QueryBind.Number.Numeral

/-! # Configuration from an environment

An environment gives texts to names. Three variables hold integers; one that is missing or
blank leaves the standard value. The fourth names the encoding, unless it is empty.
-/

namespace QueryBind.Config

/-- Variables with their texts. -/
abbrev Environment := List (String × String)

/-- The integer in a variable, if it holds anything. -/
def integerOf (environment : Environment) (variableName : String) :
    Except QueryError (Option Number) :=
  match environment.lookup variableName with
  | none => .ok none
  | some raw =>
    if Text.trim raw = "" then .ok none
    else if (Number.ofText raw).isInteger then .ok (some (Number.ofText raw))
    else .error (.configuration s!"{variableName} must be an integer, got '{raw}'")

/-- A field with the value of a limit, if there is one. -/
def limitField (name : String) (limit : Option Number) : Fields :=
  limit.toList.map fun n => (name, .number n)

/-- The configuration that an environment asks for. -/
def ofEnvironment (environment : Environment) : Except QueryError Config := do
  let capacity ← integerOf environment "PGQUERY_CACHE_CAPACITY"
  let length ← integerOf environment "PGQUERY_MAX_CACHED_LENGTH"
  let params ← integerOf environment "PGQUERY_MAX_CACHED_PARAMS"
  let encoding := ((environment.lookup "PGCLIENTENCODING").filter (· ≠ "")).toList
  override (.record (limitField "cacheCapacity" capacity ++
    limitField "maxCachedStatementLength" length ++
    limitField "maxCachedStatementParams" params ++
    encoding.map fun name => ("encoding", .text name)))

end QueryBind.Config
