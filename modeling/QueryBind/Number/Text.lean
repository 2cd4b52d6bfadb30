import QueryBind.Number.Basic
import QueryBind.Number.Shortest

/-! # Text of a number

A number is written with its shortest digits. Twenty-one digits and more in front of the
point, or six zeros and more behind it, are written with an exponent.
-/

namespace QueryBind.Number

/-- A run of zeros. -/
def zeros (n : Nat) : String :=
  String.ofList (List.replicate n '0')

/-- Digits without the zeros at their end, which move into the power of ten. At most as many
are dropped as there are digits. -/
def stripZeros : Nat → Nat × Int → Nat × Int
  | 0, number => number
  | fuel + 1, (digits, place) =>
    if digits % 10 = 0 ∧ digits ≠ 0 then stripZeros fuel (digits / 10, place + 1)
    else (digits, place)

/-- Layout of the digits `digits` with the power of ten of the last one: plain while the point
falls between the sixth zero in front of the digits and the twenty-first place. -/
def layout (digits : Nat) (place : Int) : String :=
  let written := String.ofList (Nat.toDigits 10 digits)
  let count : Int := digitCount digits
  let point := count + place
  if count ≤ point ∧ point ≤ 21 then written ++ zeros (point - count).toNat
  else if 0 < point ∧ point ≤ 21 then
    String.ofList (written.toList.take point.toNat) ++ "." ++
      String.ofList (written.toList.drop point.toNat)
  else if -6 < point ∧ point ≤ 0 then "0." ++ zeros (-point).toNat ++ written
  else
    let scale := point - 1
    let lead := String.ofList (written.toList.take 1)
    let rest := written.toList.drop 1
    lead ++ (if rest = [] then "" else "." ++ String.ofList rest) ++ "e" ++
      (if scale < 0 then "-" else "+") ++ toString scale.natAbs

/-- Text of a number; both zeros are written the same. -/
def text : Number → String
  | .int n => toString n
  | .negativeZero => "0"
  | .wide bits =>
    match readBits bits with
    | .notANumber => "NaN"
    | .infinite negative => if negative then "-Infinity" else "Infinity"
    | .finite negative significand exponent =>
      let (digits, place) := stripZeros 17 (shortest significand exponent)
      (if negative then "-" else "") ++ layout digits place

end QueryBind.Number
