import QueryBind.Encoding
import QueryBind.Value.Fields

/-! # Converter configuration

How many parsed queries a converter keeps, which queries it may keep, and the encoding of
connections that name none. The limits are numbers as a caller gives them; validation sees
to it that they are integers and not negative.
-/

namespace QueryBind

/-- The configuration of a converter. -/
structure Config where
  /-- Entries kept by each cache; zero keeps none. -/
  cacheCapacity : Number
  /-- The longest query, in bytes, that may be kept. -/
  maxStatementLength : Number
  /-- The largest number of parameters with which a query may be kept. -/
  maxStatementParams : Number
  /-- The encoding used when a transformer names none. -/
  encoding : String
  deriving DecidableEq, Repr

namespace Config

/-- The configuration used where nothing else is asked for. -/
def standard : Config where
  cacheCapacity := .int 128
  maxStatementLength := .int 4096
  maxStatementParams := .int 50
  encoding := "utf8"

/-- The largest capacity that is accepted. -/
def maxCapacity : Nat := 100000

/-- A configuration as named values, in the order in which they are checked. -/
def toFields (config : Config) : Fields :=
  [("cacheCapacity", .number config.cacheCapacity),
    ("maxCachedStatementLength", .number config.maxStatementLength),
    ("maxCachedStatementParams", .number config.maxStatementParams),
    ("encoding", .text config.encoding)]

end Config

end QueryBind
