/-!
# Backoff between attempts

The delay before a retry grows by a constant factor up to a bound. It is computed in floating point:
a power by repeated squaring, the smaller of the product and the bound (the bound where the product
is no number), and the whole part of it.
-/

namespace Metering.Redis

/-- How often and how patiently to try again; delays in milliseconds. -/
structure RetryPolicy where
  /-- Attempts after the first one. -/
  maxRetries : Nat := 3
  initialDelay : Nat := 50
  maxDelay : Nat := 2000
  multiplier : Float := 2
  /-- Stretch each delay a little at random. -/
  jitter : Bool := true

namespace RetryPolicy

/-- One attempt and no retry, without jitter. -/
def none : RetryPolicy := { maxRetries := 0, jitter := false }

/-- Multiplies `result` by `base^exponent`, squaring the base for each binary digit. -/
def powerInto (base : Float) (exponent : Nat) (result : Float) : Float :=
  let result := if exponent % 2 = 1 then result * base else result
  if exponent / 2 = 0 then result else powerInto (base * base) (exponent / 2) result
termination_by exponent

/-- The largest exponent of a power. -/
def maxExponent : Nat := 0x7fffffff

/-- The smaller of two numbers, or the one that is a number. -/
def lesser (x y : Float) : Float :=
  if x.isNaN then y else if y.isNaN then x else if y < x then y else x

/-- The double nearest to a number of milliseconds. -/
def floatOf (n : Nat) : Float := (UInt64.ofNat n).toFloat

/-- Milliseconds to wait before retry number `attempt + 1`, without jitter. -/
def delay (p : RetryPolicy) (attempt : Nat) : Nat :=
  let grown := floatOf p.initialDelay * powerInto p.multiplier (min attempt maxExponent) 1
  (lesser grown (floatOf p.maxDelay)).toUInt64.toNat

/-- Another attempt is allowed after `attempt` failures. -/
def allows (p : RetryPolicy) (attempt : Nat) : Bool := attempt < p.maxRetries

end RetryPolicy

end Metering.Redis
