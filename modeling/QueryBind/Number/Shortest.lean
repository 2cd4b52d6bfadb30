/-! # Shortest decimal digits

The fewest decimal digits that read back as a given double, and among those the nearest
to it. The double is `significand * 2 ^ exponent`; a decimal reads back when it lies in the
interval of reals that round to the double, whose ends belong to it exactly if the
significand is even. For each number of digits only the two neighbours of the double on
that decimal grid have to be tried. All arithmetic is exact.
-/

namespace QueryBind.Number

/-- Number of decimal digits of a positive natural number. -/
def digitCount (n : Nat) : Nat :=
  (Nat.toDigits 10 n).length

/-- The exponent of the leading decimal digit of a positive ratio. -/
def leadingExponent (num den : Nat) : Int :=
  if den ≤ num then (digitCount (num / den) : Int) - 1
  else -(digitCount ((den - 1) / num) : Int)

/-- A double and the interval that rounds to it, as fractions over one denominator. -/
structure Interval where
  value : Nat
  low : Nat
  high : Nat
  den : Nat
  closed : Bool

/-- The interval of a finite positive double. Below a power of two the gap is half as wide,
except at the smallest normal double. -/
def Interval.around (significand : Nat) (exponent : Int) : Interval :=
  let up := Nat.pow 2 (exponent - 2).toNat
  let narrow := decide (significand = Nat.pow 2 52 ∧ -1074 < exponent)
  { value := 4 * significand * up
    low := (4 * significand - (if narrow then 1 else 2)) * up
    high := (4 * significand + 2) * up
    den := Nat.pow 2 (2 - exponent).toNat
    closed := decide (significand % 2 = 0) }

/-- Whether `digits * 10 ^ place` lies in the interval. -/
def Interval.contains (interval : Interval) (digits : Nat) (place : Int) : Bool :=
  let point := digits * Nat.pow 10 place.toNat * interval.den
  let low := interval.low * Nat.pow 10 (-place).toNat
  let high := interval.high * Nat.pow 10 (-place).toNat
  if interval.closed then low ≤ point && point ≤ high else low < point && point < high

/-- The neighbours of the value on the grid of multiples of `10 ^ place`, if one of them
reads back: the nearer one, or the even one of two equally near. -/
def Interval.pick? (interval : Interval) (place : Int) : Option Nat :=
  let num := interval.value * Nat.pow 10 (-place).toNat
  let den := interval.den * Nat.pow 10 place.toNat
  let below := num / den
  let above := below + 1
  match interval.contains below place, interval.contains above place with
  | true, true =>
    let twice := 2 * (num - below * den)
    if twice < den then some below
    else if den < twice then some above
    else if below % 2 = 0 then some below else some above
  | true, false => some below
  | false, true => some above
  | false, false => none

/-- Tries grids from the coarsest, `lead` being the exponent of the leading digit; the
attempts left are counted down. Returns the digits and the power of ten of the last one. -/
def Interval.search (interval : Interval) (lead : Int) : Nat → Nat × Int
  | 0 => (0, 0)
  | attempts + 1 =>
    let place := lead - 16 + attempts
    match interval.pick? place with
    | some digits => (digits, place)
    | none => interval.search lead attempts

/-- Shortest digits of a finite positive double with the power of ten of the last digit.
Seventeen digits always read back. -/
def shortest (significand : Nat) (exponent : Int) : Nat × Int :=
  let interval := Interval.around significand exponent
  interval.search (leadingExponent interval.value interval.den) 17

end QueryBind.Number
