/-
# RobotCombat.Proofs.Json.Numeral — what a numeral denotes is a number

A numeral past the largest number may denote infinity, but no numeral denotes what is not
a number: its digits become a 64-bit number, which is only multiplied by or divided by
powers of ten, and those are finite and not zero (`tenTo_isScale`).

* `asSingle?_ne_nan`: a decoded 32-bit number is a number.
-/
import RobotCombat.Json.Field
import RobotCombat.Proofs.Number.Words

namespace RobotCombat.Json

set_option autoImplicit false

open Number

/-- The powers of ten that numerals are scaled by are finite and not zero. -/
theorem tenTo_isScale {n : Nat} (small : n ≤ 308) : IsScale (tenTo n) := by
  have powers : ∀ n < 309, (tenTo n).isFinite = true ∧ 0 < tenTo n := by decide +kernel
  obtain ⟨finite, positive⟩ := powers n (by omega)
  exact isScale_of_positive finite positive

theorem divideDown_ne_nan :
    ∀ (fuel : Nat) {x : Float} {exponent : Int}, x ≠ .nan → exponent < 0 →
      divideDown fuel x exponent ≠ .nan
  | 0, _, _, real, _ => real
  | fuel + 1, x, exponent, real, negative => by
      unfold divideDown
      split
      · exact div_ne_nan real (tenTo_isScale (by omega))
      · exact divideDown_ne_nan fuel (div_ne_nan real (tenTo_isScale le_rfl)) (by omega)

theorem scaled?_ne_nan {significand : Nat} {exponent : Int} {x : Float}
    (known : scaled? significand exponent = some x) : x ≠ .nan := by
  unfold scaled? at known
  dsimp only at known
  split at known
  · cases known
    decide
  · split at known
    · cases known
      exact divideDown_ne_nan 4 (toFloat_ne_nan _) (by assumption)
    · split at known
      · cases known
      · split at known
        · cases known
        · cases known
          exact mul_ne_nan (toFloat_ne_nan _) (tenTo_isScale (by omega))

namespace Numeral

variable {n : Numeral}

theorem magnitude?_ne_nan {x : Float} (known : n.magnitude? = some x) : x ≠ .nan := by
  have zero : (0 : Float) ≠ .nan := by decide
  unfold magnitude? at known
  dsimp only at known
  split at known
  · exact scaled?_ne_nan known
  · split at known
    · split at known
      · cases known
        exact zero
      · cases known
    · split at known
      · cases known
        exact zero
      · exact scaled?_ne_nan known

theorem quantity?_ne_nan {x : Float} (known : n.quantity? = some (.floating x)) : x ≠ .nan := by
  unfold quantity? at known
  split at known
  · split at known <;> cases known
  · obtain ⟨magnitude, denoted, floating⟩ := Option.map_eq_some_iff.mp known
    cases floating
    split
    · exact double_neg_ne_nan (magnitude?_ne_nan denoted)
    · exact magnitude?_ne_nan denoted

/-- The 32-bit number that a numeral denotes is a number. -/
theorem toSingle?_ne_nan {x : Float32} (known : n.toSingle? = some x) : x ≠ .nan := by
  obtain ⟨quantity, denoted, rfl⟩ := Option.map_eq_some_iff.mp known
  cases quantity with
  | count k => exact ofNat_ne_nan k
  | debt k => exact neg_ne_nan (ofNat_ne_nan k)
  | floating x => exact ofDouble_ne_nan (quantity?_ne_nan denoted)

end Numeral

/-- A decoded 32-bit number is a number. -/
theorem asSingle?_ne_nan {j : Json} {x : Float32} (decoded : asSingle? j = some x) :
    x ≠ .nan := by
  cases j with
  | number n => exact Numeral.toSingle?_ne_nan decoded
  | _ => cases decoded

end RobotCombat.Json
