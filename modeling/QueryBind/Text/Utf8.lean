/-! # The eight-bit Unicode format

Encoding writes each character with the core library's octets. Decoding never fails:
every maximal ill-formed run of octets that could have begun a character is read as one
replacement character, and a byte order mark is kept. The decoder is a machine with one
transition per octet, so it is a fold over its input.
-/

namespace QueryBind.Text.Utf8

/-- The octets of a text. -/
def encode (text : String) : List UInt8 :=
  text.toList.flatMap String.utf8EncodeChar

/-- What stands for an ill-formed run. -/
def replacement : Char := Char.ofNat 0xFFFD

/-- Between two octets the decoder is at a boundary or inside a character: it knows the
value read so far, how many octets are missing and the range of the next one. -/
inductive State where
  | boundary
  | inside (value missing low high : Nat)
  deriving DecidableEq, Repr

/-- The transition at a boundary. The ranges of the second octet exclude overlong forms,
surrogates and numbers above the last plane. -/
def start (octet : UInt8) : List Char × State :=
  let n := octet.toNat
  if n < 0x80 then ([Char.ofNat n], .boundary)
  else if n < 0xC2 then ([replacement], .boundary)
  else if n < 0xE0 then ([], .inside (n - 0xC0) 1 0x80 0xBF)
  else if n < 0xF0 then
    ([], .inside (n - 0xE0) 2 (if n = 0xE0 then 0xA0 else 0x80)
      (if n = 0xED then 0x9F else 0xBF))
  else if n < 0xF5 then
    ([], .inside (n - 0xF0) 3 (if n = 0xF0 then 0x90 else 0x80)
      (if n = 0xF4 then 0x8F else 0xBF))
  else ([replacement], .boundary)

/-- One octet read: the characters that it completes and the next state. An octet out of
range ends the run before it and is read again at the boundary. -/
def step : State → UInt8 → List Char × State
  | .boundary, octet => start octet
  | .inside value missing low high, octet =>
    let n := octet.toNat
    if low ≤ n ∧ n ≤ high then
      let value := value * 0x40 + (n - 0x80)
      if missing ≤ 1 then ([Char.ofNat value], .boundary)
      else ([], .inside value (missing - 1) 0x80 0xBF)
    else
      let (chars, next) := start octet
      (replacement :: chars, next)

/-- Characters read from the given state to the end of the octets; an unfinished
character at the end is replaced. -/
def decodeFrom : State → List UInt8 → List Char
  | .boundary, [] => []
  | .inside .., [] => [replacement]
  | state, octet :: rest =>
    let (chars, next) := step state octet
    chars ++ decodeFrom next rest

/-- The text of any octets. -/
def decode (octets : List UInt8) : String :=
  String.ofList (decodeFrom .boundary octets)

end QueryBind.Text.Utf8
