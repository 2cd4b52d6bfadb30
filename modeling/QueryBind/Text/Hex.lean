/-! # Hexadecimal text of bytes -/

namespace QueryBind.Text

/-- The lower-case digit of a number below sixteen. -/
def hexDigit (n : Nat) : Char :=
  if n < 10 then Char.ofNat (0x30 + n) else Char.ofNat (0x57 + n)

/-- Two digits for a byte, the higher four bits first. -/
def hexByte (byte : UInt8) : List Char :=
  [hexDigit (byte.toNat / 16), hexDigit (byte.toNat % 16)]

/-- Two lower-case digits for every byte. -/
def hex (bytes : List UInt8) : String :=
  String.ofList (bytes.flatMap hexByte)

end QueryBind.Text
