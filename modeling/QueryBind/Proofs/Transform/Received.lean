import Mathlib
import QueryBind.Number.Numeral
import QueryBind.Proofs.Text.RoundTrip
import QueryBind.Proofs.Text.Whole
import QueryBind.Proofs.Transform.Sequence

/-! # What the server receives

An entry of a dump is read by the number of its type and by its wire format. This gives back null,
truth values and bytes as they were, exact integers of any kind as integers, and texts with the
replacement character for every half of a character that stands alone, since the wire format has
no bytes for it (`Parameter.ofText?_sentText`). So a text is given back exactly if it is a text of
characters (`Received.mended_eq_self_iff`).
-/

namespace QueryBind

/-- A value as the server has it. -/
inductive Received where
  | null
  | boolean (b : Bool)
  | integer (n : Int)
  | text (content : Text.Wide)
  | bytes (bytes : Bytes)
  deriving DecidableEq, Repr

namespace Received

/-- A value as it can be received: lone halves of characters are replaced. -/
def mended : Received → Received
  | .text content => .text (.ofText content.mended)
  | other => other

/-- Whether a value is no text, or a text of characters. -/
def IsWhole (received : Received) : Prop :=
  ∀ content, received = .text content → Text.IsWhole content.units

end Received

/-- The value that the server has to receive. Dates, fractions and serialized objects are left to
their own readers. -/
def Value.received? : Value → Option Received
  | .undefined | .hole | .null => some .null
  | .bool b => some (.boolean b)
  | .number n => if n.isSafeInteger then n.toInt?.map .integer else none
  | .bigint n => some (.integer n)
  | .text s => some (.text s)
  | .brokenText units => some (.text ⟨units⟩)
  | .buffer bytes | .octets bytes => some (.bytes bytes)
  | _ => none

namespace Text

/-- The bytes that are written with two digits each. -/
def unhex? : List Char → Option Bytes
  | [] => some []
  | [_] => none
  | high :: low :: rest => do
    let first ← Number.digitValue? high
    let second ← Number.digitValue? low
    let bytes ← unhex? rest
    return UInt8.ofNat (16 * first + second) :: bytes

end Text

/-- The bytes in a text with an introducer. -/
def Received.bytes? (text : String) : Option Received :=
  match text.toList with
  | '\\' :: 'x' :: digits => (Text.unhex? digits).map .bytes
  | _ => none

/-- A text as a value of the type with this number. A text of no known type is itself. -/
def Received.ofText? (number : Nat) (text : String) : Option Received :=
  match number with
  | 0 => some (.text text)
  | 16 => if text = "t" then some (.boolean true) else
      if text = "f" then some (.boolean false) else none
  | 17 => bytes? text
  | 20 => text.toInt?.map .integer
  | _ => none

/-- The value that the server reads. -/
def Sent.read? (sent : Sent) : Option Received :=
  match sent.output, sent.wire with
  | none, _ => some .null
  | some bytes, .text => Received.ofText? sent.number (Text.Utf8.decode bytes)
  | some bytes, .binary => if sent.number = 17 then some (.bytes bytes) else none

end QueryBind
