import QueryBind.Value.Display

/-! # Records under assignment

A record that is filled by assignments, one name at a time, together with what it inherits
from. An assignment defines a field of the record, unless what the record inherits has a say
in it: a value that heirs cannot replace refuses the assignment, an array of numbers keeps
the positions it does not have to itself, and one name of the common root stands for the
heritage itself. On a record that inherits from the root alone, every other name is simply
defined (`assign_of_ne`).
-/

namespace QueryBind

/-- What a record inherits from. -/
inductive Heritage where
  /-- The common root of records. -/
  | root
  | nothing
  | object (parent : Value)

/-- A record with what it inherits from. -/
structure Record where
  heritage : Heritage := .root
  fields : Fields := []

/-- What an assignment meets among the things that a record inherits. -/
inductive Bearing where
  /-- Nothing that stands in its way. -/
  | free
  /-- A value that heirs cannot replace, with the wording of the refusal. -/
  | fixed (refusal : String)
  /-- A position that is not there: the assignment has no effect. -/
  | void
  /-- The name of the heritage. -/
  | heritage
  deriving DecidableEq, Repr

namespace Bearing

/-- The name that stands for the heritage of a record. -/
def heritageName : String := "__proto__"

/-- The bearing of the common root. -/
def ofRoot (name : String) : Bearing :=
  if name = heritageName then .heritage else .free

/-- The refusal to replace a value that stands in an object. -/
def readOnly (name : String) : String :=
  "Cannot assign to read only property '" ++ name ++ "' of object '[object Object]'"

/-- The refusal to replace a value that an object computes. `heir` is how its heirs show. -/
def computed (heir name : String) : String :=
  "Cannot set property " ++ name ++ " of " ++ heir ++ " which has only a getter"

/-- The refusal to touch what a function knows of its calls. -/
def forbidden : String :=
  "'caller', 'callee', and 'arguments' properties may not be accessed on strict mode functions " ++
    "or the arguments objects for calls to them"

/-- The bearing of an object whose class fixes some names. -/
def ofClass (refusal : String → String) (fixed : List String) (name : String) : Bearing :=
  if fixed.contains name then .fixed (refusal name) else ofRoot name

/-- Whether a name is the text of a number. -/
def isNumeral (name : String) : Bool :=
  name == "-0" || (Number.ofText name).text == name

/-- The bearing of an array of numbers with this many positions. -/
def ofPositions (count : Nat) (fixed : List String) (name : String) : Bearing :=
  if isNumeral name then
    if (Fields.indexOf? name).any (· < count) then .free else .void
  else ofClass (computed "[object Object]") fixed name

/-- What arrays of numbers fix. -/
def arrayNames : List String :=
  ["length", "byteLength", "byteOffset", "buffer", "BYTES_PER_ELEMENT"]

/-- The bearing of a boxed text: its positions are fixed. -/
def ofUnits (count : Nat) (name : String) : Bearing :=
  if (Fields.indexOf? name).any (· < count) then .fixed (readOnly name)
  else ofClass readOnly ["length"] name

/-- The bearing of an object on assignments to its heirs. -/
def ofParent (name : String) : Value → Bearing
  | .bareRecord _ => .free
  | .derived parent fields => if Fields.contains fields name then .free else ofParent name parent
  | .function _ =>
    if ["arguments", "caller"].contains name then .fixed forbidden
    else ofClass readOnly ["length", "name"] name
  | .map _ => ofClass (computed "#<Map>") ["size"] name
  | .set _ => ofClass (computed "#<Set>") ["size"] name
  | .buffer bytes => ofPositions bytes.length (arrayNames ++ ["parent", "offset"]) name
  | .octets bytes => ofPositions bytes.length arrayNames name
  | .words units => ofPositions units.length arrayNames name
  | .boxed (.text s) => ofUnits (Text.unitCount s) name
  | .boxed (.brokenText units) => ofUnits units.length name
  | .boxed (.symbol _) => ofClass (computed "[object Symbol]") ["description"] name
  | parent => if Fields.contains parent.ownFields name then .free else ofRoot name

end Bearing

/-- The bearing of what a record inherits. -/
def Heritage.bearing (heritage : Heritage) (name : String) : Bearing :=
  match heritage with
  | .root => .ofRoot name
  | .nothing => .free
  | .object parent => .ofParent name parent

namespace Record

/-- Defines a field. -/
def define (record : Record) (name : String) (value : Value) : Record :=
  { record with fields := Fields.define record.fields name value }

/-- Makes a value the heritage of a record. Null stands for none; other primitives cannot be
inherited from and are passed over. -/
def inherit (record : Record) : Value → Record
  | .null => { record with heritage := .nothing }
  | value => if value.isPrimitive then record else { record with heritage := .object value }

/-- Assigns a value to a name. -/
def assign (record : Record) (name : String) (value : Value) : Except Fault Record :=
  if Fields.contains record.fields name then .ok (record.define name value)
  else
    match record.heritage.bearing name with
    | .free => .ok (record.define name value)
    | .fixed refusal => .error (.wrongKind refusal .undefined)
    | .void => .ok record
    | .heritage => .ok (record.inherit value)

/-- The record as a value. -/
def toValue (record : Record) : Value :=
  match record.heritage with
  | .root => .record record.fields
  | .nothing => .bareRecord record.fields
  | .object parent => .derived parent record.fields

/-- A name that does not stand for the heritage is defined. -/
theorem assign_of_ne (fields : Fields) {name : String} (other : name ≠ Bearing.heritageName)
    (value : Value) :
    (⟨.root, fields⟩ : Record).assign name value =
      .ok ⟨.root, Fields.define fields name value⟩ := by
  simp only [assign, Heritage.bearing, Bearing.ofRoot, other, if_false, define]
  split <;> rfl

end Record

end QueryBind
