/-
# RobotCombat.Number.Shortest — the fewest decimal digits that read back

Every positive number of a binary format has an interval of reals that round to
it (its ends included exactly when the mantissa is even). `shortest` tries
decimal grids from coarse to fine and takes the first one that has a point in
the interval, the point nearer to the number if there are two, and the even one
at a tie. The grid of `n` digits has its two points next to the number at the
floor of the scaled number and one above, so two tests settle a grid.
-/
import RobotCombat.Number.Binary

namespace RobotCombat.Number

set_option autoImplicit false

/-- A decimal number `digits * 10 ^ exponent`. -/
structure Decimal where
  digits : Nat
  exponent : Int
  deriving DecidableEq, Repr

/-- A dyadic number with the interval that rounds to it, all four scaled to
quarters of its last place: the number is `4 * mantissa`, its upper end
`4 * mantissa + 2` and its lower end `4 * mantissa - below`. -/
structure Neighbourhood where
  mantissa : Nat
  exponent : Int
  below : Nat

namespace Neighbourhood

/-- The neighbourhood of a finite positive number. The gap below a power of two
is half as wide, unless the number is among the smallest. -/
def of (f : Format) (mantissa : Nat) (exponent : Int) : Neighbourhood :=
  let narrow := mantissa = Nat.pow 2 f.fractionBits ∧ f.minExponent < exponent
  ⟨mantissa, exponent, if narrow then 1 else 2⟩

/-- Numerator of the place value `2 ^ (exponent - 2) / 10 ^ grid`. -/
def scaleNum (n : Neighbourhood) (grid : Int) : Nat :=
  Nat.pow 2 (n.exponent - 2).toNat * Nat.pow 10 (-grid).toNat

/-- Denominator of the place value `2 ^ (exponent - 2) / 10 ^ grid`. -/
def scaleDen (n : Neighbourhood) (grid : Int) : Nat :=
  Nat.pow 2 (2 - n.exponent).toNat * Nat.pow 10 grid.toNat

/-- Whether the grid point `point * 10 ^ grid` rounds to the number. -/
def holds (n : Neighbourhood) (grid : Int) (point : Nat) : Bool :=
  let scaled := point * n.scaleDen grid
  let low := (4 * n.mantissa - n.below) * n.scaleNum grid
  let high := (4 * n.mantissa + 2) * n.scaleNum grid
  if n.mantissa % 2 = 0 then low ≤ scaled && scaled ≤ high
  else low < scaled && scaled < high

/-- The grid point at or below the number. -/
def floorPoint (n : Neighbourhood) (grid : Int) : Nat :=
  4 * n.mantissa * n.scaleNum grid / n.scaleDen grid

/-- The grid point nearest to the number, the even one at a tie. -/
def nearPoint (n : Neighbourhood) (grid : Int) : Nat :=
  roundHalfEven (4 * n.mantissa * n.scaleNum grid) (n.scaleDen grid)

/-- The point of a grid that rounds to the number and lies nearest to it. -/
def pointOn? (n : Neighbourhood) (grid : Int) : Option Nat :=
  let low := n.floorPoint grid
  let near := n.nearPoint grid
  if n.holds grid near then some near
  else if n.holds grid low then some low
  else if n.holds grid (low + 1) then some (low + 1)
  else none

/-- The number of decimal places before the point (zero or negative for a number
below one tenth). -/
def places (n : Neighbourhood) : Int :=
  let num := n.mantissa * Nat.pow 2 n.exponent.toNat
  let den := Nat.pow 2 (-n.exponent).toNat
  if den ≤ num then (Nat.toDigits 10 (num / den)).length
  else 1 - (Nat.toDigits 10 ((den - 1) / num)).length

/-- The first of the grids `top`, `top - 1`, … that has a point for the number. -/
def search (n : Neighbourhood) : Nat → Int → Option Decimal
  | 0, _ => none
  | tries + 1, grid =>
    match n.pointOn? grid with
    | some point => some ⟨point, grid⟩
    | none => n.search tries (grid - 1)

end Neighbourhood

/-- Drops the zeros at the end of the digits into the exponent. -/
def Decimal.trimZeros : Nat → Decimal → Decimal
  | 0, d => d
  | fuel + 1, d =>
    if d.digits ≠ 0 ∧ d.digits % 10 = 0 then
      Decimal.trimZeros fuel ⟨d.digits / 10, d.exponent + 1⟩
    else d

/-- The shortest decimal that reads back as `mantissa * 2 ^ exponent`. Twenty
grids reach past the seventeen digits that suffice for every 64-bit number. -/
def shortest (f : Format) (mantissa : Nat) (exponent : Int) : Decimal :=
  if mantissa = 0 then ⟨0, 0⟩
  else
    let n := Neighbourhood.of f mantissa exponent
    ((n.search 20 n.places).getD ⟨0, 0⟩).trimZeros 20

end RobotCombat.Number
