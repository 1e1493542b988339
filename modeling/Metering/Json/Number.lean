import Metering.Decimal.Integer
import Metering.Value

/-!
# Numbers of JSON

A number without a point and an exponent is a whole number if it has 64 bits, with its sign or without.
Any other one is a floating-point number: the digits that make up a word of 64 bits, times or over a
power of ten. The digits that follow those count only by their places.
-/

namespace Metering.Json

/-- The number that digits make after `n`, up to the first one with which it exceeds a word, and how
many digits are left from there on. -/
def readDigits (n : Nat) : List Char → Nat × Nat
  | [] => (n, 0)
  | c :: cs =>
    let longer := n * 10 + Decimal.digit c
    if longer ≤ 0xffffffffffffffff then readDigits longer cs else (n, cs.length + 1)

/-- A power of ten. -/
def powerOfTen (n : Nat) : Float := .ofScientific 1 false n

/-- The greatest power of ten that a double holds. -/
def greatestPower : Nat := 308

/-- `x` times a power of ten, if it is finite. -/
def raised? (x : Float) (n : Nat) : Option Float :=
  if n ≤ greatestPower then
    let y := x * powerOfTen n
    if y.isInf then none else some y
  else if x == 0 then some x
  else none

/-- `x` over a power of ten. -/
def lowered (x : Float) (n : Nat) : Float :=
  if n ≤ greatestPower then x / powerOfTen n
  else if x == 0 then x
  else lowered (x / powerOfTen greatestPower) (n - greatestPower)
termination_by n
decreasing_by simp [greatestPower] at *; omega

/-- A word times a power of ten, if it is finite. -/
def scaled? (n : Nat) (exponent : Int) : Option Float :=
  let x := (UInt64.ofNat n).toFloat
  if 0 ≤ exponent then raised? x exponent.toNat else some (lowered x exponent.natAbs)

/-- A floating-point number from the digits before and after its point and its exponent. -/
def float? (isNegative : Bool) (whole fraction : List Char) (exponent : Int) : Option Value := do
  let (n, left) := readDigits 0 whole
  let (n, leftOfFraction) := readDigits n fraction
  let places : Int := fraction.length - leftOfFraction
  let x ← scaled? n (left - places + exponent)
  return .float (if isNegative then -x else x)

/-- A number without a point and an exponent. -/
def integer? (isNegative : Bool) (digits : List Char) : Option Value :=
  let (n, left) := readDigits 0 digits
  if left ≠ 0 ∨ (isNegative ∧ (n = 0 ∨ 0x8000000000000000 < n)) then float? isNegative digits [] 0
  else some (.integer (if isNegative then -n else n))

end Metering.Json
