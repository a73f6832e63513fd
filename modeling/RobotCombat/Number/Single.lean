/-
# RobotCombat.Number.Single — the 32-bit arithmetic of the simulation

Sums, products, quotients and comparisons are those of `Float32`. This module
adds what the rules of a match need beside them: the larger and the smaller of
two numbers with a missing number ignored, clamping, rounding with halves away
from zero, conversions that saturate, and the text of a number rounded to whole
units. Rounding and conversion go through the exact dyadic value of a word.
-/
import RobotCombat.Number.Binary

namespace RobotCombat.Number

set_option autoImplicit false

/-- The distance from one to the next 32-bit number. -/
def epsilon : Float32 := Float32.ofBits 0x34000000

/-- The 32-bit number nearest to half a turn. -/
def pi : Float32 := Float32.ofBits 0x40490FDB

/-- The 32-bit number nearest to a quarter turn. -/
def halfPi : Float32 := Float32.ofBits 0x3FC90FDB

/-- The larger of two numbers; the other one if one is not a number, and the
second one if they are equal. -/
def larger (x y : Float32) : Float32 :=
  if y.isNaN then x else if y < x then x else y

/-- The smaller of two numbers; the other one if one is not a number, and the
first one if they are equal. -/
def smaller (x y : Float32) : Float32 :=
  if x.isNaN then y else if y < x then y else x

/-- A number moved into the range from `low` to `high`. What is not a number
stays so. -/
def clamp (x low high : Float32) : Float32 :=
  if x < low then low else if high < x then high else x

/-- The exact value of a 32-bit number. -/
def reading (x : Float32) : Reading :=
  single.decode x.toBits.toNat

/-- The 32-bit number of a word of its format. -/
def ofWord (negative : Bool) (magnitude : Nat) : Float32 :=
  Float32.ofBits (UInt32.ofNat (single.signed negative magnitude))

/-- The whole number nearest to `mantissa * 2 ^ exponent`, a half going up. -/
def wholeUp (mantissa : Nat) (exponent : Int) : Nat :=
  roundHalfUp (mantissa * Nat.pow 2 exponent.toNat) (Nat.pow 2 (-exponent).toNat)

/-- The nearest whole number, a half going away from zero. The sign of zero is
kept. -/
def roundAway (x : Float32) : Float32 :=
  match reading x with
  | .finite negative mantissa exponent =>
    if 0 ≤ exponent then x
    else ofWord negative (single.nearest (wholeUp mantissa exponent) 1)
  | _ => x

/-- The largest whole number that is not above `x`. -/
def floor (x : Float32) : Float32 :=
  match reading x with
  | .finite negative mantissa exponent =>
    if 0 ≤ exponent then x
    else
      let unit := Nat.pow 2 (-exponent).toNat
      let whole := if negative then (mantissa + unit - 1) / unit else mantissa / unit
      ofWord negative (single.nearest whole 1)
  | _ => x

/-- The whole part of a number as a natural number, held between zero and
`limit`; zero for what is not a number. -/
def toNatUpTo (limit : Nat) (x : Float32) : Nat :=
  match reading x with
  | .finite negative mantissa exponent =>
    if negative then 0
    else min limit (mantissa * Nat.pow 2 exponent.toNat / Nat.pow 2 (-exponent).toNat)
  | .infinite negative => if negative then 0 else limit
  | .notANumber => 0

/-- The largest 64-bit count. -/
def maxCount : Nat := UInt64.size - 1

/-- The 32-bit number nearest to a 64-bit count. -/
def ofCount (n : Nat) : Float32 :=
  (UInt64.ofNat n).toFloat32

/-- The 32-bit number nearest to a natural number of any size. -/
def ofNat (n : Nat) : Float32 :=
  ofWord false (single.nearest n 1)

/-- The 32-bit number nearest to a 64-bit one. -/
def ofDouble (x : Float) : Float32 :=
  match double.decode x.toBits.toNat with
  | .finite negative mantissa exponent => ofWord negative (single.nearestDyadic mantissa exponent)
  | .infinite negative => ofWord negative single.infinityWord
  | .notANumber => Float32.ofBits 0x7FC00000

/-- A number in whole units, a half going to the even neighbour; a negative
number keeps its sign even where it rounds to zero. -/
def wholeText (x : Float32) : String :=
  match reading x with
  | .finite negative mantissa exponent =>
    let whole := roundHalfEven (mantissa * Nat.pow 2 exponent.toNat) (Nat.pow 2 (-exponent).toNat)
    (if negative then "-" else "") ++ toString whole
  | .infinite negative => if negative then "-inf" else "inf"
  | .notANumber => "NaN"

end RobotCombat.Number
