import QueryBind.Number.Basic
import QueryBind.Text.Blank

/-! # Reading numerals

The number that a text denotes, blanks around it aside. A blank text is zero; a text after
`0x`, `0o` or `0b` is read in that base and carries no sign; anything else is a decimal
numeral with optional sign, fraction and exponent, or `Infinity`. A text of no such form
denotes not-a-number.
-/

namespace QueryBind.Number

/-- The value of a digit in bases up to sixteen. -/
def digitValue? (c : Char) : Option Nat :=
  let n := c.toNat
  if 0x30 ≤ n ∧ n ≤ 0x39 then some (n - 0x30)
  else if 0x41 ≤ n ∧ n ≤ 0x46 then some (n - 0x37)
  else if 0x61 ≤ n ∧ n ≤ 0x66 then some (n - 0x57)
  else none

/-- The value of a digit string, most significant digit first, continuing from `value`. -/
def foldDigits? (base : Nat) (value : Nat) : List Char → Option Nat
  | [] => some value
  | c :: rest =>
    match digitValue? c with
    | some digit => if digit < base then foldDigits? base (value * base + digit) rest else none
    | none => none

/-- The value of a digit string with at least one digit. -/
def naturalOf? (base : Nat) (cs : List Char) : Option Nat :=
  if cs.isEmpty then none else foldDigits? base 0 cs

/-- An exponent: digits with an optional sign. -/
def exponentOf? : List Char → Option Int
  | '+' :: rest => (naturalOf? 10 rest).map Int.ofNat
  | '-' :: rest => (naturalOf? 10 rest).map fun n => -(n : Int)
  | cs => (naturalOf? 10 cs).map Int.ofNat

/-- The double nearest to `digits * 10 ^ place`. Values beyond the range of doubles are cut
off before any large power is formed. -/
def ofDecimal (digits : Nat) (place : Int) : Number :=
  let magnitude := ((Nat.toDigits 10 digits).length : Int) + place
  if digits = 0 then .int 0
  else if 310 < magnitude then ofBits 0x7FF0000000000000
  else if magnitude < -330 then .int 0
  else ofFloat (Float.ofScientific digits (decide (place < 0)) place.natAbs)

/-- Digits with an optional fraction, at least one digit in all, times a power of ten. -/
def significandOf? (cs : List Char) (exponent : Int) : Option Number :=
  let whole := cs.takeWhile (· ≠ '.')
  let fraction := (cs.drop whole.length).drop 1
  (naturalOf? 10 (whole ++ fraction)).map (ofDecimal · (exponent - fraction.length))

/-- A decimal numeral without sign. -/
def unsignedOf? (cs : List Char) : Option Number :=
  if cs = "Infinity".toList then some (ofBits 0x7FF0000000000000)
  else
    let significand := cs.takeWhile fun c => c ≠ 'e' ∧ c ≠ 'E'
    match cs.drop significand.length with
    | [] => significandOf? significand 0
    | _ :: exponent => (exponentOf? exponent).bind (significandOf? significand)

/-- A decimal numeral with an optional sign. -/
def signedOf? : List Char → Option Number
  | '+' :: rest => unsignedOf? rest
  | '-' :: rest => (unsignedOf? rest).map neg
  | cs => unsignedOf? cs

/-- The number in a text without blanks around it. -/
def numeralOf? : List Char → Option Number
  | [] => some (.int 0)
  | '0' :: 'x' :: rest | '0' :: 'X' :: rest => (naturalOf? 16 rest).map ofNat
  | '0' :: 'o' :: rest | '0' :: 'O' :: rest => (naturalOf? 8 rest).map ofNat
  | '0' :: 'b' :: rest | '0' :: 'B' :: rest => (naturalOf? 2 rest).map ofNat
  | cs => signedOf? cs

/-- The number that a text denotes. -/
def ofText (text : String) : Number :=
  (numeralOf? (Text.trimChars text.toList)).getD nan

end QueryBind.Number
