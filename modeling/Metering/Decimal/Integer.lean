/-!
# Decimal numbers

Reading of integers from ASCII digits. An unsigned number may have a plus sign, a signed one either
sign; nothing else stands beside the digits, and the value has to fit.
-/

namespace Metering.Decimal

/-- Value of a digit. -/
def digit (c : Char) : Nat := c.toNat - '0'.toNat

/-- Value of a list of digits. -/
def value (cs : List Char) : Nat := cs.foldl (fun n c => n * 10 + digit c) 0

/-- The value of a list of characters that are all digits, at least one. -/
def digits? (cs : List Char) : Option Nat :=
  if cs ≠ [] ∧ cs.all (·.isDigit) then some (value cs) else none

/-- An unsigned number of at most `most`. -/
def unsigned? (most : Nat) (text : String) : Option Nat :=
  let body := match text.toList with
    | '+' :: rest => rest
    | cs => cs
  (digits? body).filter (· ≤ most)

/-- A signed number from `least` to `most`. -/
def signed? (least most : Int) (text : String) : Option Int :=
  let number : Option Int := match text.toList with
    | '+' :: rest => (digits? rest).map Int.ofNat
    | '-' :: rest => (digits? rest).map fun n => -Int.ofNat n
    | cs => (digits? cs).map Int.ofNat
  number.filter fun n => least ≤ n ∧ n ≤ most

/-- An identifier of 64 bits. -/
def word? (text : String) : Option UInt64 := (unsigned? 0xffffffffffffffff text).map UInt64.ofNat

/-- A signed number of 64 bits. -/
def int64? (text : String) : Option Int := signed? (-0x8000000000000000) 0x7fffffffffffffff text

example : unsigned? 255 "+007" = some 7 := by decide
example : unsigned? 255 "256" = none := by decide
example : unsigned? 255 "+" = none := by decide
example : signed? (-128) 127 "-0" = some 0 := by decide

end Metering.Decimal
