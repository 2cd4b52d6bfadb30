import QueryBind.Proofs.Transform.Received

/-! # Sequences, entry by entry

A sequence of values is dumped one value after the other, and each in its own format. The first
value that is refused decides how the dump fails (`TextTransform.dumpFrom_settled`). If none is,
every entry of the dump is what is sent for its value alone, and the server reads the value from it;
of a text it reads the characters. A value that was never there has no entry, and is not refused.
-/

namespace QueryBind

/-- Whether a value is an array of bytes. -/
def Value.isBytes : Value → Bool
  | .buffer _ | .octets _ => true
  | _ => false

namespace Parameter

end Parameter

namespace TextTransform

/-- A value is not sent in a format, and this is why. Positions are counted from one. -/
inductive Refused (position : Nat) : Value → Format → Unconvertible → Prop
  | symbol (description : String) (format : Format) :
    Refused position (.symbol description) format (.valueKind "symbol")
  | function (result : Value) (format : Format) :
    Refused position (.function result) format (.valueKind "function")
  | date (format : Format) : Refused position (.date none) format .invalidDate
  | noBinary {value : Value} {parameter : Parameter} (present : value.isNull = false)
    (other : value.isBytes = false) (typed : Parameter.ofValue value = .ok parameter) :
    Refused position value .binary (.noBinaryForm parameter.kindName position)

/-- What is sent for a value in a format. -/
structure Sends (encoding : String) (value : Value) (format : Format) (sent : Sent) : Prop where
  /-- The value on its own is sent in the same way. -/
  alone : (Transformer.text encoding).dump [value] [format] = .ok (.ofSent [sent])
  wire_eq_binary_iff : sent.wire = .binary ↔ value.isBytes = true ∧ format ≠ .text
  /-- The server is told the same type whatever format is asked for. -/
  number_eq : ∀ other again,
    (Transformer.text encoding).dump [value] [other] = .ok (.ofSent [again]) →
      again.number = sent.number
  /-- The server reads the value, with the replacement character for every lone half of one. -/
  read?_eq : ∀ received, value.received? = some received → sent.read? = some received.mended
  /-- So it reads the value as it was unless this is a text with a lone half of a character. -/
  read?_eq_iff : ∀ received, value.received? = some received →
    (sent.read? = some received ↔ received.IsWhole)

section One

variable {encoding : String} {position : Nat} {value : Value} {format : Format}

section Typed

variable {parameter : Parameter} (typed : Parameter.ofValue value = .ok parameter)
  (there : value.isHole = false)

include typed there

end Typed

/-- A value that was never there is not refused. -/
theorem Refused.isHole {reason : Unconvertible} (refused : Refused position value format reason) :
    value.isHole = false := by
  cases refused with
  | symbol | function | date => rfl
  | noBinary present => exact Value.isHole_of_isNull present

end One

/-! ## All values -/

/-- The entry at a place is refused. Places are counted from zero, and `position` is the position of
the first entry. -/
def RefusedAt (position : Nat) (items : List (Value × Format)) (place : Nat)
    (reason : Unconvertible) : Prop :=
  ∃ item, items[place]? = some item ∧ Refused (position + place) item.1 item.2 reason

/-- No entry in front of a place is refused. -/
def FreeBefore (position : Nat) (items : List (Value × Format)) (place : Nat) : Prop :=
  ∀ earlier < place, ∀ reason, ¬ RefusedAt position items earlier reason

section Items

variable {position : Nat} {item : Value × Format} {rest : List (Value × Format)} {place : Nat}
  {reason : Unconvertible}

end Items

/-- What becomes of entries: all of them that are there are sent, or the first one that is refused
decides. -/
inductive Settled (encoding : String) (position : Nat) (items : List (Value × Format)) :
    Except Fault (List (Option Bytes) × Description) → Prop
  | sent {sents : List Sent} (free : ∀ place reason, ¬ RefusedAt position items place reason)
    (each : List.Forall₂ (fun item sent => Sends encoding item.1 item.2 sent) (there items) sents) :
    Settled encoding position items
      (.ok (sents.map (·.output), ⟨sents.map (·.number), sents.map (·.wire)⟩))
  | refused {place : Nat} {reason : Unconvertible}
    (refused : RefusedAt position items place reason) (first : FreeBefore position items place) :
    Settled encoding position items (.error (.query (.conversion reason)))

/-- The boolean is refused, and the symbol behind it is not looked at. -/
example :
    (Transformer.text "utf8").dump [.text "a", .bool true, .symbol "s"] [.auto, .binary, .auto] =
      .error (.query (.conversion (.noBinaryForm "boolean" 2))) :=
  rfl

end TextTransform

end QueryBind
