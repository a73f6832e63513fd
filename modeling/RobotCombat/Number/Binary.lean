/-
# RobotCombat.Number.Binary — binary floating formats, read and written exactly

A `Format` says how many fraction and exponent bits a word has. `decode` reads a
word as a sign and a dyadic number `mantissa * 2 ^ exponent`; `nearest` writes
the word of the closest number to a quotient of naturals, a tie going to the
even mantissa and a quotient past the largest number to infinity.
`nearestDecimal` is `nearest` at `digits * 10 ^ exponent`.

All of it is arithmetic on `Nat` and `Int`, so that nothing about rounding is
hidden in a primitive.
-/

namespace RobotCombat.Number

set_option autoImplicit false

/-- The widths of the fraction and exponent fields of a binary word. -/
structure Format where
  fractionBits : Nat
  exponentBits : Nat
  deriving DecidableEq, Repr

/-- The 32-bit format. -/
def single : Format := ⟨23, 8⟩

/-- The 64-bit format. -/
def double : Format := ⟨52, 11⟩

/-- What a word stands for. -/
inductive Reading where
  | finite (negative : Bool) (mantissa : Nat) (exponent : Int)
  | infinite (negative : Bool)
  | notANumber
  deriving DecidableEq, Repr

/-- A quotient rounded to the nearest natural number, a half going to the even
neighbour. -/
def roundHalfEven (num den : Nat) : Nat :=
  let floor := num / den
  let rest := 2 * (num % den)
  if rest < den then floor
  else if den < rest then floor + 1
  else if floor % 2 = 0 then floor
  else floor + 1

/-- A quotient rounded to the nearest natural number, a half going up. -/
def roundHalfUp (num den : Nat) : Nat :=
  (2 * num + den) / (2 * den)

namespace Format

/-- The exponent of the smallest positive number, `2 ^ minExponent`. -/
def minExponent (f : Format) : Int :=
  2 - (Nat.pow 2 (f.exponentBits - 1) + f.fractionBits : Nat)

/-- The word of positive infinity. -/
def infinityWord (f : Format) : Nat :=
  (Nat.pow 2 f.exponentBits - 1) * Nat.pow 2 f.fractionBits

/-- The place of the sign bit. -/
def signWord (f : Format) : Nat :=
  Nat.pow 2 (f.fractionBits + f.exponentBits)

/-- Reads a word. -/
def decode (f : Format) (word : Nat) : Reading :=
  let negative := f.signWord ≤ word
  let magnitude := word % f.signWord
  let field := magnitude / Nat.pow 2 f.fractionBits
  let fraction := magnitude % Nat.pow 2 f.fractionBits
  if f.infinityWord < magnitude then .notANumber
  else if magnitude = f.infinityWord then .infinite negative
  else if field = 0 then .finite negative fraction f.minExponent
  else .finite negative (Nat.pow 2 f.fractionBits + fraction) (f.minExponent + (field - 1))

/-- The exponent at which a positive quotient has a full mantissa, or the
smallest exponent if that is larger. -/
def exponentOf (f : Format) (num den : Nat) : Int :=
  let guess : Int := num.log2 - den.log2 - f.fractionBits
  let whole := Nat.pow 2 f.fractionBits * (den * Nat.pow 2 guess.toNat)
  let exact := if num * Nat.pow 2 (-guess).toNat < whole then guess - 1 else guess
  max exact f.minExponent

/-- The word of the number nearest to the quotient `num / den`. -/
def nearest (f : Format) (num den : Nat) : Nat :=
  if num = 0 then 0
  else
    let exponent := f.exponentOf num den
    let mantissa :=
      roundHalfEven (num * Nat.pow 2 (-exponent).toNat) (den * Nat.pow 2 exponent.toNat)
    min (mantissa + (exponent - f.minExponent).toNat * Nat.pow 2 f.fractionBits) f.infinityWord

/-- The word with its sign bit set as told. -/
def signed (f : Format) (negative : Bool) (magnitude : Nat) : Nat :=
  if negative then f.signWord + magnitude else magnitude

/-- The word nearest to `digits * 10 ^ exponent`. A number of more than 400
places before the point is past every format here, and one that starts more
than 400 places after it is nearer to zero than to anything else. -/
def nearestDecimal (f : Format) (digits : Nat) (exponent : Int) : Nat :=
  let places : Int := (Nat.toDigits 10 digits).length + exponent
  if digits = 0 ∨ places < -400 then 0
  else if 400 < places then f.infinityWord
  else f.nearest (digits * Nat.pow 10 exponent.toNat) (Nat.pow 10 (-exponent).toNat)

/-- The word nearest to `mantissa * 2 ^ exponent`. -/
def nearestDyadic (f : Format) (mantissa : Nat) (exponent : Int) : Nat :=
  f.nearest (mantissa * Nat.pow 2 exponent.toNat) (Nat.pow 2 (-exponent).toNat)

end Format

end RobotCombat.Number
