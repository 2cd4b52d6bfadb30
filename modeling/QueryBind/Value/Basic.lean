import QueryBind.Number.Basic
import QueryBind.Text.Codec

/-! # Values

The dynamic values that a caller may hand over as a parameter, a query, a configuration or
a piece of log context. The type is as wide as the callers are free: most values have no
wire form, and saying which do is the business of the modules above.
-/

namespace QueryBind

/-- A value supplied by a caller. Fields of records are kept in the order in which they are
enumerated; see `Fields`. -/
inductive Value where
  | undefined
  /-- An item of a list that was never there. It counts as undefined where an item is looked at by
  its position, and is passed over where the items are visited. -/
  | hole
  | null
  | bool (b : Bool)
  | number (n : Number)
  | bigint (n : Int)
  | text (s : String)
  /-- A text in which half of a character stands alone, by its units. -/
  | brokenText (units : List UInt16)
  | symbol (description : String)
  /-- A function, known by what it returns when it is called. -/
  | function (result : Value)
  | list (items : List Value)
  | record (fields : List (String × Value))
  /-- A record that inherits nothing. -/
  | bareRecord (fields : List (String × Value))
  /-- A record that inherits from another object. -/
  | derived (parent : Value) (fields : List (String × Value))
  /-- An instance of a user's class; the class may have no name. -/
  | classInstance (className : String) (fields : List (String × Value))
  | map (entries : List (Value × Value))
  | set (items : List Value)
  | buffer (bytes : Bytes)
  /-- An array of octets that is not a buffer. -/
  | octets (bytes : Bytes)
  /-- An array of sixteen-bit words. -/
  | words (units : List UInt16)
  /-- Milliseconds since the epoch, or none for an invalid date. -/
  | date (instant : Option Int)
  /-- An object around a primitive value. -/
  | boxed (inner : Value)
  /-- A record whose field `self` is the record. -/
  | selfRecord
  /-- A list whose only item is the list. -/
  | selfList
  | sql (source : Text.Wide)
  | identifier (names : List Text.Wide)
  | literal (value : Value)
  | composed (items : List Value)
  deriving Inhabited, Repr

/-- Named values in the order of their enumeration. -/
abbrev Fields := List (String × Value)

namespace Value

/-- The text with these units. -/
def ofUnits (units : List UInt16) : Value :=
  match Text.ofUnits? units with
  | some s => .text s
  | none => .brokenText units

/-- The units of a text. -/
def wide? : Value → Option Text.Wide
  | .text s => some s
  | .brokenText units => some ⟨units⟩
  | _ => none

/-- Whether a value is an item that was never there. -/
def isHole : Value → Bool
  | .hole => true
  | _ => false

/-- Whether a value is undefined. -/
def isUndefined : Value → Bool
  | .undefined | .hole => true
  | _ => false

/-- Whether a value stands for SQL NULL. -/
def isNull : Value → Bool
  | .undefined | .hole => true
  | .null => true
  | _ => false

/-- Whether a value is no object: it is compared and written by its content. -/
def isPrimitive : Value → Bool
  | .undefined | .hole | .null | .bool _ | .number _ | .bigint _ => true
  | .text _ | .brokenText _ | .symbol _ => true
  | _ => false

/-- The object around a value: an object is its own, and the two null values give an empty
record. -/
def wrap (v : Value) : Value :=
  if v.isNull then .record [] else if v.isPrimitive then .boxed v else v

/-- Whether two values are the same key of a map or member of a set. Primitives are
compared by content, the two zeros being the same number; objects and symbols are the same only
if they are the same object, and two that were supplied apart never are. -/
def sameKey : Value → Value → Bool
  | .undefined, .undefined => true
  | .null, .null => true
  | .bool a, .bool b => a == b
  | .number a, .number b => a.unsigned == b.unsigned
  | .bigint a, .bigint b => a == b
  | .text a, .text b => a == b
  | .brokenText a, .brokenText b => a == b
  | _, _ => false

/-- A key as a map keeps it: negative zero becomes zero. -/
def asKey : Value → Value
  | .number n => .number n.unsigned
  | v => v

/-- Adds an entry to a map: a key that is present keeps its place and takes the new value. -/
def putEntry (entries : List (Value × Value)) (key value : Value) : List (Value × Value) :=
  if entries.any (sameKey key ·.1) then
    entries.map fun entry => if sameKey key entry.1 then (entry.1, value) else entry
  else entries ++ [(key.asKey, value)]

/-- The map with the given entries, put in their order. -/
def mapOf (entries : List (Value × Value)) : Value :=
  .map (entries.foldl (fun acc entry => putEntry acc entry.1 entry.2) [])

/-- The set of the given items. -/
def setOf (items : List Value) : Value :=
  .set (items.foldl (fun acc item =>
    if acc.any (sameKey item) then acc else acc ++ [item.asKey]) [])

end Value

end QueryBind
