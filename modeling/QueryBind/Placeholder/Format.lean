import QueryBind.Text.Codec

/-! # Parameter formats

The format that a placeholder asks for and the format in which a parameter is sent.
-/

namespace QueryBind

/-- What a placeholder asks for. -/
inductive Format where
  /-- The transformer decides. -/
  | auto
  | text
  | binary
  deriving DecidableEq, Repr

namespace Format

/-- The letter of a format. -/
def letter : Format → Char
  | .auto => 's'
  | .text => 't'
  | .binary => 'b'

/-- The byte of a format's letter. -/
def byte (format : Format) : UInt8 :=
  UInt8.ofNat format.letter.toNat

/-- The format with this letter. -/
def ofLetter? (c : Char) : Option Format :=
  if c = 's' then some .auto
  else if c = 't' then some .text
  else if c = 'b' then some .binary
  else none

/-- The format with this letter as a byte. -/
def ofByte? (b : UInt8) : Option Format :=
  ofLetter? (Char.ofNat b.toNat)

/-- The format named by a text, which has to be one letter. -/
def ofText? (name : String) : Option Format :=
  match name.toList with
  | [c] => ofLetter? c
  | _ => none

/-- A format is read from its letter. -/
@[simp] theorem ofLetter?_letter (format : Format) : ofLetter? format.letter = some format := by
  cases format <;> rfl

/-- A format is read from its byte. -/
@[simp] theorem ofByte?_byte (format : Format) : ofByte? format.byte = some format := by
  cases format <;> rfl

end Format

/-- How a parameter is sent. -/
inductive WireFormat where
  | text
  | binary
  deriving DecidableEq, Repr

/-- The number of a wire format. -/
def WireFormat.code : WireFormat → Nat
  | .text => 0
  | .binary => 1

end QueryBind
