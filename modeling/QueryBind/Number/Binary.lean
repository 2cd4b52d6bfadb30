/-! # Double-precision bit patterns

A pattern of sixty-four bits read as a sign, a significand and a power of two.
-/

namespace QueryBind.Number

/-- What a bit pattern stands for. A finite pattern is `significand * 2 ^ exponent`, with the
sign in front. -/
inductive Reading where
  | notANumber
  | infinite (negative : Bool)
  | finite (negative : Bool) (significand : Nat) (exponent : Int)
  deriving DecidableEq, Repr

/-- A finite pattern as a multiple of `2 ^ (exponent - shift)`. -/
def Reading.scaled (negative : Bool) (significand shift : Nat) : Int :=
  let magnitude : Int := ((significand * Nat.pow 2 shift : Nat) : Int)
  if negative then -magnitude else magnitude

/-- The order of the numbers that patterns stand for, compared exactly. -/
def Reading.le : Reading → Reading → Bool
  | .notANumber, _ => false
  | _, .notANumber => false
  | .infinite negative, other => negative || other == .infinite false
  | _, .infinite negative => !negative
  | .finite negative significand exponent, .finite negative' significand' exponent' =>
    decide (scaled negative significand (exponent - exponent').toNat ≤
      scaled negative' significand' (exponent' - exponent).toNat)

/-- The sign, the eleven exponent bits and the fifty-two fraction bits. -/
def readBits (bits : UInt64) : Reading :=
  let n := bits.toNat
  let negative := decide (Nat.pow 2 63 ≤ n)
  let scale : Nat := n / Nat.pow 2 52 % Nat.pow 2 11
  let fraction : Nat := n % Nat.pow 2 52
  if scale = 2047 then
    if fraction = 0 then .infinite negative else .notANumber
  else if scale = 0 then .finite negative fraction (-1074)
  else .finite negative (Nat.pow 2 52 + fraction) ((scale : Int) - 1075)

/-- The one pattern that every not-a-number is written with. -/
def nanBits : UInt64 := 0x7FF8000000000000

/-- The pattern of negative zero. -/
def negativeZeroBits : UInt64 := 0x8000000000000000

end QueryBind.Number
