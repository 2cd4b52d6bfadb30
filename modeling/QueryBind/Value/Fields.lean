import QueryBind.Value.Basic

/-! # Fields in enumeration order

Records enumerate the names that are array indices first, in ascending order, and then the
others in the order in which they were first defined. Defining a name again changes its
value and not its place.
-/

namespace QueryBind

namespace Fields

/-- The array index that a name spells: the canonical decimal form of a number below
`2 ^ 32 - 1`. -/
def indexOf? (name : String) : Option Nat :=
  let cs := name.toList
  if cs.isEmpty || cs.any (fun c => !c.isDigit) || (cs.head? == some '0' && cs.length > 1) then
    none
  else
    let n := cs.foldl (fun acc c => acc * 10 + (c.toNat - 0x30)) 0
    if n < 4294967295 then some n else none

/-- Whether a new name is enumerated before a name that is already there. -/
def precedes (new old : String) : Bool :=
  match indexOf? new, indexOf? old with
  | some n, some m => n < m
  | some _, none => true
  | none, _ => false

/-- Puts a new name at its place. -/
def insert (fields : Fields) (name : String) (value : Value) : Fields :=
  match fields with
  | [] => [(name, value)]
  | (old, held) :: rest =>
    if precedes name old then (name, value) :: (old, held) :: rest
    else (old, held) :: insert rest name value

/-- Whether a name is defined. -/
def contains (fields : Fields) (name : String) : Bool :=
  fields.any (·.1 == name)

/-- The value of a name. -/
def get? (fields : Fields) (name : String) : Option Value :=
  fields.lookup name

/-- Defines a name. -/
def define (fields : Fields) (name : String) (value : Value) : Fields :=
  if contains fields name then
    fields.map fun field => if field.1 == name then (field.1, value) else field
  else insert fields name value

/-- Defines all fields of the second list on top of the first. -/
def merge (base extra : Fields) : Fields :=
  extra.foldl (fun acc field => define acc field.1 field.2) base

/-- Fields defined one after the other. -/
def ofList (fields : Fields) : Fields :=
  merge [] fields

/-- The names, in enumeration order. -/
def names (fields : Fields) : List String :=
  fields.map (·.1)

end Fields

namespace Value

/-- The plain record with the given fields, defined one after the other. -/
def recordOf (fields : Fields) : Value :=
  .record (Fields.ofList fields)

/-- The fields of a value that is a plain record: one that inherits from nothing or from the
root alone. -/
def plainFields? : Value → Option Fields
  | .record fields => some fields
  | .bareRecord fields => some fields
  | .selfRecord => some [("self", .selfRecord)]
  | _ => none

/-- Items numbered from zero, as fields. -/
def indexed (items : List Value) : Fields :=
  items.zipIdx.map fun item => (toString item.2, item.1)

/-- The units of a text, each a text of its own, numbered from zero. -/
def unitFields (units : List UInt16) : Fields :=
  indexed (units.map fun unit => ofUnits [unit])

/-- The fields of any value, as they are enumerated when its content is copied. An item that was
never there is no field. -/
def ownFields : Value → Fields
  | .record fields => fields
  | .bareRecord fields => fields
  | .classInstance _ fields => fields
  | .derived _ fields => fields
  | .selfRecord => [("self", .selfRecord)]
  | .selfList => [("0", .selfList)]
  | .list items => (indexed items).filter fun field => !field.2.isHole
  | .text s | .boxed (.text s) => unitFields (Text.units s)
  | .brokenText units | .boxed (.brokenText units) => unitFields units
  | .buffer bytes => indexed (bytes.map fun b => .number (.ofNat b.toNat))
  | .octets bytes => indexed (bytes.map fun b => .number (.ofNat b.toNat))
  | .words units => indexed (units.map fun u => .number (.ofNat u.toNat))
  | .sql source => [("text", .ofUnits source.units)]
  | .identifier names => [("names", .list (names.map fun name => .ofUnits name.units))]
  | .literal value => [("value", value)]
  | .composed items => [("items", .list items)]
  | _ => []

end Value

end QueryBind
