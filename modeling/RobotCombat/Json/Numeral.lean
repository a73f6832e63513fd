/-
# RobotCombat.Json.Numeral — the numbers of a document, and what they denote

A numeral is kept as written: sign, whole part, digits after the point, and
exponent. It counts as a whole number if it has neither point nor exponent and
fits 64 bits (with the sign, if negative and not zero); every other numeral
denotes a 64-bit floating number.

That number is reached in one step from at most 64 bits of leading digits: the
digits become the nearest floating number, which is multiplied or divided by a
power of ten. Digits past 64 bits move the power and change nothing else. A
numeral beyond the largest floating number denotes nothing.

`ofSingle` and `ofDouble` write a finite floating number with the fewest digits
that read back: positionally with a digit after the point between the limits of
`Layout`, with an exponent outside them.
-/
import RobotCombat.Number.Shortest
import RobotCombat.Number.Single

namespace RobotCombat.Json

set_option autoImplicit false

open Number

/-- A numeral as written. An empty fraction means no point. -/
structure Numeral where
  negative : Bool
  whole : Nat
  fraction : List Nat
  exponent : Option Int
  deriving DecidableEq, Repr

/-- What a numeral denotes. -/
inductive Quantity where
  | count (n : Nat)
  | debt (n : Nat)
  | floating (x : Float)

/-- The power of ten as a 64-bit floating number. -/
def tenTo (n : Nat) : Float :=
  Float.ofBits (UInt64.ofNat (double.nearest (Nat.pow 10 n) 1))

/-- The decimal digits of a number, the highest first. -/
def decimalDigits (n : Nat) : List Nat :=
  (Nat.toDigits 10 n).map fun c => c.toNat - '0'.toNat

/-- Leading digits collected into 64 bits, with the power of ten that the digits
dropped or taken after the point leave over. -/
structure Leading where
  significand : Nat
  power : Int
  full : Bool

namespace Leading

/-- One more digit before the point. Once a digit does not fit, it and all
later ones only raise the power. -/
def addWhole (l : Leading) (digit : Nat) : Leading :=
  let next := l.significand * 10 + digit
  if l.full || maxCount < next then { l with power := l.power + 1, full := true }
  else { l with significand := next }

/-- One more digit after the point. Once a digit does not fit, it and all later
ones are dropped. -/
def addFraction (l : Leading) (digit : Nat) : Leading :=
  let next := l.significand * 10 + digit
  if l.full || maxCount < next then { l with full := true }
  else { l with significand := next, power := l.power - 1 }

end Leading

/-- Divides by powers of ten that are themselves numbers of the format, until
the rest of the exponent is one. Three divisions reach zero. -/
def divideDown : Nat → Float → Int → Float
  | 0, x, _ => x
  | fuel + 1, x, exponent =>
    if -308 ≤ exponent then x / tenTo (-exponent).toNat
    else divideDown fuel (x / tenTo 308) (exponent + 308)

/-- The number `significand * 10 ^ exponent`; none past the largest one. -/
def scaled? (significand : Nat) (exponent : Int) : Option Float :=
  let x := (UInt64.ofNat significand).toFloat
  if significand = 0 then some 0
  else if exponent < 0 then some (divideDown 4 x exponent)
  else if 308 < exponent then none
  else
    let y := x * tenTo exponent.toNat
    if y.isInf then none else some y

namespace Numeral

/-- A natural number as a numeral. -/
def ofNat (n : Nat) : Numeral := ⟨false, n, [], none⟩

/-- A whole number as a numeral. -/
def ofInt (n : Int) : Numeral := ⟨n < 0, n.natAbs, [], none⟩

/-- An exponent of this size leaves zero or passes every floating number. -/
def exponentBound : Int := 2147483648

/-- The floating number that a numeral denotes, without its sign. -/
def magnitude? (n : Numeral) : Option Float :=
  let whole := (decimalDigits n.whole).foldl Leading.addWhole ⟨0, 0, false⟩
  let leading := n.fraction.foldl Leading.addFraction { whole with full := false }
  match n.exponent with
  | none => scaled? leading.significand leading.power
  | some e =>
    if exponentBound ≤ e then (if leading.significand = 0 then some 0 else none)
    else if e ≤ -exponentBound then some 0
    else scaled? leading.significand (leading.power + e)

/-- What a numeral denotes. -/
def quantity? (n : Numeral) : Option Quantity :=
  if n.fraction.isEmpty && n.exponent.isNone && n.whole ≤ maxCount
      && !(n.negative && (n.whole = 0 || UInt64.size / 2 < n.whole)) then
    some (if n.negative then .debt n.whole else .count n.whole)
  else n.magnitude?.map fun x => .floating (if n.negative then -x else x)

/-- The 32-bit number that a numeral denotes: a whole number is rounded once, any
other numeral after its 64-bit number. -/
def toSingle? (n : Numeral) : Option Float32 :=
  n.quantity?.map fun
    | .count k => Number.ofNat k
    | .debt k => -Number.ofNat k
    | .floating x => Number.ofDouble x

/-- The 64-bit number that a numeral denotes. -/
def toDouble? (n : Numeral) : Option Float :=
  n.quantity?.map fun
    | .count k => (UInt64.ofNat k).toFloat
    | .debt k => -(UInt64.ofNat k).toFloat
    | .floating x => x

/-- The count below a bound that a numeral writes as a whole number. -/
def toCount? (n : Numeral) (limit : Nat) : Option Nat :=
  match n.quantity? with
  | some (.count k) => if k < limit then some k else none
  | _ => none

end Numeral

/-- Between which decimal places a number is written positionally: if its first
digit stands after place `lowest` and not after place `highest`. -/
structure Layout where
  lowest : Int
  highest : Int

/-- A 32-bit number is written positionally from 0.000001 to below ten million
million. -/
def singleLayout : Layout := ⟨-6, 13⟩

/-- A 64-bit number is written positionally from 0.00001 to below ten thousand
million million. -/
def doubleLayout : Layout := ⟨-5, 16⟩

/-- A row of zeros. -/
def zeros (n : Nat) : List Nat := List.replicate n 0

/-- The numeral of a decimal. -/
def Layout.numeral (layout : Layout) (negative : Bool) (d : Decimal) : Numeral :=
  let digits := decimalDigits d.digits
  let places : Int := digits.length + d.exponent
  if 0 ≤ d.exponent ∧ places ≤ layout.highest then
    ⟨negative, d.digits * Nat.pow 10 d.exponent.toNat, [0], none⟩
  else if 0 < places ∧ places ≤ layout.highest then
    let unit := Nat.pow 10 (-d.exponent).toNat
    ⟨negative, d.digits / unit, digits.drop places.toNat, none⟩
  else if layout.lowest < places ∧ places ≤ 0 then
    ⟨negative, 0, zeros (-places).toNat ++ digits, none⟩
  else
    ⟨negative, digits.headD 0, digits.drop 1, some (places - 1)⟩

/-- The numeral of a finite number of a format. -/
def numeralOf? (f : Format) (layout : Layout) (word : Nat) : Option Numeral :=
  match f.decode word with
  | .finite negative mantissa exponent =>
    some (layout.numeral negative (shortest f mantissa exponent))
  | _ => none

/-- The numeral of a finite 32-bit number. -/
def Numeral.ofSingle? (x : Float32) : Option Numeral :=
  numeralOf? single singleLayout x.toBits.toNat

/-- The numeral of a finite 64-bit number. -/
def Numeral.ofDouble? (x : Float) : Option Numeral :=
  numeralOf? double doubleLayout x.toBits.toNat

end RobotCombat.Json
