import QueryBind.Number.Binary

/-! # Numbers

A number is a double. Integers small enough to be exact together with their neighbours
are kept as integers, negative zero is kept apart from zero, and every other double is
kept by its bits. `Number.ofBits` gives each double its form, so two numbers in these
forms are the same double exactly when they are equal terms.
-/

namespace QueryBind

/-- A double in canonical form. -/
inductive Number where
  /-- An integer of magnitude below `2 ^ 53`, zero included. -/
  | int (n : Int)
  /-- Zero with a negative sign. -/
  | negativeZero
  /-- A fraction, a larger integer, an infinity or not-a-number, by its bits. -/
  | wide (bits : UInt64)
  deriving DecidableEq, Repr, Inhabited

namespace Number

/-- Whether an integer and its neighbours are exact doubles. -/
def isSafe (n : Int) : Bool :=
  n.natAbs < Nat.pow 2 53

/-- The canonical form of a bit pattern. -/
def ofBits (bits : UInt64) : Number :=
  match readBits bits with
  | .notANumber => .wide nanBits
  | .infinite _ => .wide bits
  | .finite negative significand exponent =>
    if significand = 0 then if negative then .negativeZero else .int 0
    else if exponent ≤ 0 ∧ significand % Nat.pow 2 (-exponent).toNat = 0 then
      let magnitude : Int := ((significand / Nat.pow 2 (-exponent).toNat : Nat) : Int)
      .int (if negative then -magnitude else magnitude)
    else .wide bits

/-- The double nearest to an integer. -/
def ofInt (n : Int) : Number :=
  if isSafe n then .int n else ofBits (Float.ofInt n).toBits

/-- The double nearest to a natural number. -/
def ofNat (n : Nat) : Number :=
  ofInt n

/-- The number as a machine double. -/
def toFloat : Number → Float
  | .int n => Float.ofInt n
  | .negativeZero => Float.ofBits negativeZeroBits
  | .wide bits => Float.ofBits bits

/-- The canonical form of a machine double. -/
def ofFloat (x : Float) : Number :=
  ofBits x.toBits

/-- The bits of a number. -/
def toBits (n : Number) : UInt64 :=
  n.toFloat.toBits

/-- Not-a-number. -/
def nan : Number :=
  .wide nanBits

/-- Whether a number is not-a-number. -/
def isNaN : Number → Bool
  | .wide bits => readBits bits = .notANumber
  | _ => false

/-- Whether a number is neither infinite nor not-a-number. -/
def isFinite : Number → Bool
  | .wide bits =>
    match readBits bits with
    | .finite .. => true
    | _ => false
  | _ => true

/-- Whether a number is an exact integer with exact neighbours, of either zero. -/
def isSafeInteger : Number → Bool
  | .wide _ => false
  | _ => true

/-- The exact integer that a number is, if it is one. -/
def toInt? : Number → Option Int
  | .int n => some n
  | .negativeZero => some 0
  | .wide bits =>
    match readBits bits with
    | .finite negative significand exponent =>
      if exponent < 0 then none
      else
        let magnitude : Int := ((significand * Nat.pow 2 exponent.toNat : Nat) : Int)
        some (if negative then -magnitude else magnitude)
    | _ => none

/-- Whether a number is an integer; infinities are not. -/
def isInteger (n : Number) : Bool :=
  n.toInt?.isSome

/-- A number as a sign, a significand and a power of two. -/
def reading : Number → Reading
  | .int n => .finite (decide (n < 0)) n.natAbs 0
  | .negativeZero => .finite true 0 0
  | .wide bits => readBits bits

/-- Order of numbers. Nothing is below or above not-a-number, and the two zeros are equal. -/
def le (a b : Number) : Bool :=
  a.reading.le b.reading

/-- Whether an integer of any size is at most a number. -/
def intLe (n : Int) (bound : Number) : Bool :=
  (Reading.finite (decide (n < 0)) n.natAbs 0).le bound.reading

/-- Sum of two numbers: exact while it stays among the exact integers, rounded to the
nearest double otherwise. -/
def add : Number → Number → Number
  | .int a, .int b => ofInt (a + b)
  | a, b => ofFloat (a.toFloat + b.toFloat)

/-- The number with the other sign. -/
def neg : Number → Number
  | .int n => if n = 0 then .negativeZero else .int (-n)
  | .negativeZero => .int 0
  | .wide bits => ofFloat (-(Float.ofBits bits))

/-- A negative zero counts as zero wherever numbers are compared as keys. -/
def unsigned : Number → Number
  | .negativeZero => .int 0
  | n => n

/-- The reading of an integer stands for the integer. -/
theorem scaled_natAbs (n : Int) : Reading.scaled (decide (n < 0)) n.natAbs 0 = n := by
  unfold Reading.scaled
  by_cases negative : n < 0
  · simp only [negative, decide_true, if_true, Nat.pow_eq, Nat.pow_zero, Nat.mul_one]
    omega
  · simp only [negative, decide_false, Bool.false_eq_true, if_false, Nat.pow_eq, Nat.pow_zero,
      Nat.mul_one]
    omega

/-- Integers are compared as integers. -/
theorem le_int (a b : Int) : (int a).le (int b) = true ↔ a ≤ b := by
  change decide (Reading.scaled (decide (a < 0)) a.natAbs 0 ≤
    Reading.scaled (decide (b < 0)) b.natAbs 0) = true ↔ a ≤ b
  rw [scaled_natAbs, scaled_natAbs, decide_eq_true_eq]

/-- Integers with a safe sum are added as integers. -/
theorem add_int_of_isSafe (a b : Int) (safe : isSafe (a + b) = true) :
    (int a).add (int b) = int (a + b) := by
  simp [add, ofInt, safe]

end Number

end QueryBind
