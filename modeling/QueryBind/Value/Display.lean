import QueryBind.Error
import QueryBind.Number.Text
import QueryBind.Number.Numeral
import QueryBind.Value.Instant

/-! # Primitive forms of values

The text that stands for a value where a name or a message is wanted, and the primitive that
stands for it where it is compared or added. An object has a textual form and may have a
numeric one; which of them is looked at first depends on what it is wanted for. Not every
value has a primitive form.
-/

namespace QueryBind.Value

open Text (Wide)

/-- A value that has neither text nor number. -/
def noPrimitive : Fault :=
  .wrongKind "Cannot convert object to primitive value" .undefined

/-- Text of a primitive; a symbol shows its description. -/
def primitiveText : Value → Wide
  | .undefined | .hole => "undefined"
  | .null => "null"
  | .bool b => if b then "true" else "false"
  | .number n => n.text
  | .bigint n => toString n
  | .text s => s
  | .brokenText units => ⟨units⟩
  | .symbol description => "Symbol(" ++ description ++ ")"
  | _ => ""

/-- Text of a primitive inside a larger text, where a symbol is refused. -/
def innerText : Value → Except Fault Wide
  | .symbol _ => .error (.wrongKind "Cannot convert a Symbol value to a string" .undefined)
  | v => .ok (primitiveText v)

/-- The form of a value that is looked at first. -/
inductive Preference where
  | text
  | number
  /-- No form is wanted in particular. -/
  | either
  deriving DecidableEq, Repr

/-- A field of a record, be it its own or one that it inherits from another record. -/
def found? (name : String) : Value → Option Value
  | .record fields | .bareRecord fields | .classInstance _ fields => Fields.get? fields name
  | .derived parent fields => (Fields.get? fields name).or (found? name parent)
  | _ => none

/-- Whether a record inherits from the common root of records, if from far away. -/
def isRooted : Value → Bool
  | .bareRecord _ => false
  | .derived parent _ => isRooted parent
  | _ => true

/-- The primitive that a conversion function returns. -/
def primitiveResult? : Value → Option Value
  | .function result => if result.isPrimitive then some result else none
  | _ => none

/-- The primitive form of a record. It is what one of its conversion functions returns; the textual
form falls back to the text of all records, where that is inherited. -/
def recordPrimitive (preference : Preference) (v : Value) : Except Fault Value :=
  let textual := match v.found? "toString" with
    | some conversion => conversion.primitiveResult?
    | none => if v.isRooted then some (.text "[object Object]") else none
  let numeric := (v.found? "valueOf").bind primitiveResult?
  let found := if preference = .text then textual <|> numeric else numeric <|> textual
  match found with
  | some primitive => .ok primitive
  | none => .error noPrimitive

/-- The text of a record. -/
def recordText (v : Value) : Except Fault Wide :=
  match recordPrimitive .text v with
  | .ok primitive => innerText primitive
  | .error fault => .error fault

/-- Decimal texts of small numbers, separated by commas. -/
def commaNumbers (numbers : List Nat) : String :=
  ",".intercalate (numbers.map toString)

mutual

/-- The display text of a value. -/
def display : Value → Except Fault Wide
  | .list items => (displayItems items).map (Wide.join ",")
  | .selfList => .ok ""
  | .function _ => .ok "() => \x7b\x7d"
  | .record fields => recordText (.record fields)
  | .bareRecord fields => recordText (.bareRecord fields)
  | .classInstance className fields => recordText (.classInstance className fields)
  | .derived parent fields => recordText (.derived parent fields)
  | .map _ => .ok "[object Map]"
  | .set _ => .ok "[object Set]"
  | .buffer bytes => .ok (Text.Codec.decode .utf8 bytes)
  | .octets bytes => .ok (commaNumbers (bytes.map UInt8.toNat))
  | .words units => .ok (commaNumbers (units.map UInt16.toNat))
  | .date none => .ok "Invalid Date"
  | .date (some instant) => .ok (Instant.long instant)
  | .boxed inner => innerText inner
  | .selfRecord | .sql _ | .identifier _ | .literal _ | .composed _ => .ok "[object Object]"
  | v => .ok (primitiveText v)

/-- Display texts of list items: empty for the two null values, and no symbols. -/
def displayItems : List Value → Except Fault (List Wide)
  | [] => .ok []
  | item :: rest => do
    let first ← match item with
      | .undefined | .hole | .null => .ok (.ofText "")
      | .symbol description => innerText (.symbol description)
      | v => display v
    let others ← displayItems rest
    return first :: others

end

/-- The display text of a value inside a larger text, where a symbol is refused. -/
def inlineText : Value → Except Fault Wide
  | .symbol description => innerText (.symbol description)
  | v => display v

/-- The display text of a value inside a larger text, by its units. -/
def inlineUnits (v : Value) : Except Fault (List UInt16) :=
  v.inlineText.map Wide.units

/-- The primitive form of a value. Dates prefer their text unless a number is wanted. -/
def toPrimitive (preference : Preference) (v : Value) : Except Fault Value :=
  let shown := v.display.map fun text => ofUnits text.units
  match v with
  | .record _ | .bareRecord _ | .classInstance _ _ | .derived _ _ => recordPrimitive preference v
  | .boxed inner => .ok inner
  | .date instant =>
    if preference = .number then .ok (.number ((instant.map Number.ofInt).getD .nan)) else shown
  | _ => if v.isPrimitive then .ok v else shown

/-- The number that a primitive stands for. -/
def numberOf : Value → Except Fault Number
  | .null => .ok (.int 0)
  | .bool b => .ok (.int (if b then 1 else 0))
  | .number n => .ok n
  | .bigint n => .ok (.ofInt n)
  | .text s => .ok (.ofText s)
  | .symbol _ => .error (.wrongKind "Cannot convert a Symbol value to a number" .undefined)
  | _ => .ok .nan

/-- Whether the number that a value stands for is at most a bound. A big integer is compared
as it is, without rounding. -/
def isAtMost (v : Value) (bound : Number) : Except Fault Bool :=
  match v.toPrimitive .number with
  | .ok (.bigint n) => .ok (Number.intLe n bound)
  | .ok primitive => (numberOf primitive).map (·.le bound)
  | .error fault => .error fault

end QueryBind.Value
