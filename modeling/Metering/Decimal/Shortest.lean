/-!
# Shortest decimals

A binary floating-point number `m * 2^q` stands for all reals that round to it. Its shortest decimal
is the number with the fewest digits among them, and of those with equally many the nearest one.
Grids `10^g` are tried from coarse to fine; on each only the two neighbours of the number matter. Where
both are equally near, the format decides.

Written forms: positional, or with an exponent after the first digit.
-/

namespace Metering.Decimal

/-- The number `digits * 10^exponent`. -/
structure Scientific where
  digits : Nat
  exponent : Int
deriving DecidableEq, Inhabited

/-- What becomes of a number in the middle between two decimals. -/
inductive Tie
  /-- The greater one is taken. -/
  | up
  /-- The one with the even last digit is taken. -/
  | even
deriving DecidableEq

/-- A positive fraction together with the ends of the interval that rounds to it. -/
structure Rounding where
  low : Nat
  value : Nat
  high : Nat
  denominator : Nat
  /-- The ends round to the value, too. -/
  isClosed : Bool

namespace Rounding

/-- The reals that round to `m * 2^q`, where `isEdge` tells that the number below is nearer. -/
def ofBinary (m : Nat) (q : Int) (isEdge : Bool) : Rounding :=
  let scale := Nat.pow 2 (q - 2).toNat
  { low := (4 * m - (if isEdge then 1 else 2)) * scale
    value := 4 * m * scale
    high := (4 * m + 2) * scale
    denominator := Nat.pow 2 (2 - q).toNat
    isClosed := m % 2 = 0 }

/-- `n * 10^g` lies in the interval. -/
def contains (r : Rounding) (n : Nat) (g : Int) : Bool :=
  let point := n * Nat.pow 10 g.toNat * r.denominator
  let unit := Nat.pow 10 (-g).toNat
  if r.isClosed then r.low * unit ≤ point && point ≤ r.high * unit
  else r.low * unit < point && point < r.high * unit

/-- The nearest of the two neighbours on the grid `10^g` that lie in the interval. -/
def onGrid (tie : Tie) (r : Rounding) (g : Int) : Option Scientific :=
  let unit := Nat.pow 10 (-g).toNat
  let step := Nat.pow 10 g.toNat * r.denominator
  let below := r.value * unit / step
  let rest := r.value * unit % step
  let prefersBelow := 2 * rest < step || (2 * rest = step && tie = .even && below % 2 = 0)
  let candidates := if prefersBelow then [below, below + 1] else [below + 1, below]
  (candidates.find? fun n => n ≠ 0 && r.contains n g).map (⟨·, g⟩)

/-- The first hit on a grid from `10^g` on down, within `tries` grids. -/
def search (tie : Tie) (r : Rounding) : Nat → Int → Option Scientific
  | 0, _ => none
  | tries + 1, g => (r.onGrid tie g).or (r.search tie tries (g - 1))

end Rounding

/-- Exponent of the coarsest grid that a double can need. -/
def coarsest : Int := 309

/-- Number of grids from the coarsest to the finest that a double can need. -/
def gridCount : Nat := 660

/-- The shortest decimal of a positive finite double, given by its bits. -/
def shortest (tie : Tie) (bits : UInt64) : Scientific :=
  let field := (bits >>> 52 &&& 0x7ff).toNat
  let fraction := (bits &&& 0xfffffffffffff).toNat
  let rounding := if field = 0 then Rounding.ofBinary fraction (-1074) false
    else .ofBinary (0x10000000000000 + fraction) (field - 1075) (fraction = 0 && field ≠ 1)
  (rounding.search tie gridCount coarsest).getD default

/-- Positional notation. -/
def Scientific.text (s : Scientific) : String :=
  let digits := (Nat.repr s.digits).toList
  if 0 ≤ s.exponent then String.ofList (digits ++ List.replicate s.exponent.toNat '0')
  else
    let places := (-s.exponent).toNat
    let padded := List.replicate (places + 1 - digits.length) '0' ++ digits
    let whole := padded.length - places
    String.ofList (padded.take whole ++ '.' :: padded.drop whole)

/-- The exponent of the first digit. -/
def Scientific.leading (s : Scientific) : Int := (Nat.repr s.digits).length - 1 + s.exponent

/-- Notation with an exponent, which always has a sign, and a point after the first digit if others
follow. -/
def Scientific.exponentText (s : Scientific) : String :=
  let sign := if 0 ≤ s.leading then "+" else "-"
  let digits := match (Nat.repr s.digits).toList with
    | [digit] => [digit]
    | digit :: rest => digit :: '.' :: rest
    | [] => []
  String.ofList digits ++ "e" ++ sign ++ Nat.repr s.leading.natAbs

/-- The written form of a double, where `positive` writes those that are finite and not zero. -/
def signedText (zero : String) (positive : UInt64 → String) (x : Float) : String :=
  if x.isNaN then "NaN"
  else
    let sign := if x.toBits >>> 63 = 1 then "-" else ""
    if x.isInf then sign ++ "inf"
    else if x == 0 then sign ++ zero
    else sign ++ positive x.abs.toBits

/-- A text with a point, if it has none. -/
def withPoint (text : String) : String := if text.toList.contains '.' then text else text ++ ".0"

/-- The positional form of a double; a whole number has no point. -/
def floatText : Float → String := signedText "0" fun bits => (shortest .up bits).text

/-- The positional form of a double, with a point. -/
def pointedText : Float → String := signedText "0.0" fun bits => withPoint (shortest .up bits).text

/-- The compact form of a double, which has an exponent where the number is below `1e-5` or from `1e16`
on, and a point otherwise. -/
def compactText : Float → String :=
  signedText "0.0" fun bits =>
    let s := shortest .even bits
    if -5 ≤ s.leading ∧ s.leading ≤ 15 then withPoint s.text else s.exponentText

end Metering.Decimal
