/-
# RobotCombat.Proofs.Number.Height — 32-bit numbers as whole numbers

Every finite number is a multiple of the smallest positive one, `2 ^ (-149)`. The `height` of
a number counts these multiples; infinity stands at `2 ^ 277`, where the next number after the
largest one would be. `Fits` says which mantissas and exponents a word can have.

* `le_iff_height`: numbers are ordered as their heights;
* `heightOf_pack`: a word keeps the height of what is packed into it, except that nothing is
  higher than infinity.
-/
import RobotCombat.Proofs.Number.Sign

namespace RobotCombat.Number

set_option autoImplicit false

open Float.Model (Format UnpackedFloat)
open Float.Model.UnpackedFloat

/-! ## Magnitudes -/

/-- The mantissas and exponents of the format: a full mantissa of twenty-four digits, or fewer
at the least exponent. -/
structure Fits (m : Nat) (e : Int) : Prop where
  digits : m < 2 ^ 24
  least : -149 ≤ e
  full : 2 ^ 23 ≤ m ∨ e = -149

/-- How many times the smallest positive number `m * 2 ^ e` is. -/
def magnitude (m : Nat) (e : Int) : Nat := m * 2 ^ (e + 149).toNat

theorem magnitude_pos {m : Nat} (hm : 0 < m) (e : Int) : 0 < magnitude m e :=
  Nat.mul_pos hm (Nat.two_pow_pos _)

theorem magnitude_le {m m' : Nat} (h : m ≤ m') (e : Int) : magnitude m e ≤ magnitude m' e :=
  Nat.mul_le_mul_right _ h

/-- A larger exponent outweighs every mantissa. -/
theorem Fits.magnitude_lt {m m' : Nat} {e e' : Int} (fits : Fits m e) (fits' : Fits m' e')
    (h : e < e') : magnitude m e < magnitude m' e' := by
  have normal : 2 ^ 23 ≤ m' := by
    have least := fits.least
    have full := fits'.full
    omega
  have room : (e + 149).toNat + 24 ≤ (e' + 149).toNat + 23 := by
    have least := fits.least
    omega
  calc magnitude m e
      < 2 ^ 24 * 2 ^ (e + 149).toNat :=
        Nat.mul_lt_mul_of_pos_right fits.digits (Nat.two_pow_pos _)
    _ = 2 ^ ((e + 149).toNat + 24) := by rw [← pow_add, Nat.add_comm]
    _ ≤ 2 ^ ((e' + 149).toNat + 23) := Nat.pow_le_pow_right Nat.two_pos room
    _ = 2 ^ 23 * 2 ^ (e' + 149).toNat := by rw [← pow_add, Nat.add_comm]
    _ ≤ magnitude m' e' := Nat.mul_le_mul_right _ normal

theorem Fits.magnitude_lt_of_lex {m m' : Nat} {e e' : Int} (fits : Fits m e) (fits' : Fits m' e')
    (h : e < e' ∨ e = e' ∧ m < m') : magnitude m e < magnitude m' e' := by
  rcases h with above | ⟨rfl, above⟩
  · exact fits.magnitude_lt fits' above
  · exact Nat.mul_lt_mul_of_pos_right above (Nat.two_pow_pos _)

/-- The magnitude of infinity: the first one past the largest exponent. -/
def peak : Nat := magnitude (2 ^ 23) 105

theorem fits_peak : Fits (2 ^ 23) 105 := ⟨by decide, by decide, .inl le_rfl⟩

/-- The numbers of the format lie below infinity. -/
theorem Fits.magnitude_lt_peak {m : Nat} {e : Int} (fits : Fits m e) (small : e ≤ 104) :
    magnitude m e < peak :=
  fits.magnitude_lt fits_peak (by omega)

/-- What is past the largest exponent lies at infinity or above it. -/
theorem Fits.peak_le_magnitude {m : Nat} {e : Int} (fits : Fits m e) (large : 105 ≤ e) :
    peak ≤ magnitude m e := by
  rcases large.lt_or_eq with above | rfl
  · exact (fits_peak.magnitude_lt fits above).le
  · have normal : 2 ^ 23 ≤ m := by
      have full := fits.full
      omega
    exact magnitude_le normal 105

/-! ## Heights -/

/-- The height of an unpacked number. -/
def heightOf : UnpackedFloat → ℤ
  | .infinity s => s.apply peak
  | .finite s m e _ => s.apply (magnitude m e)
  | .zero _ => 0
  | .notANumber => 0

/-- Unpacked numbers that a word can hold. -/
def InFormat : UnpackedFloat → Prop
  | .finite _ m e _ => Fits m e ∧ e ≤ 104
  | _ => True

/-- How high a 32-bit number is, in steps of the smallest positive one. -/
def height (x : Float32) : ℤ := heightOf x.toModel.unpack

theorem inFormat_unpack (word : BitVec Format.binary32.numBits) :
    InFormat (unpack .binary32 word) := by
  have bias : Format.binary32.exponentBias = 127 := rfl
  have exponent : (unpackExponent word).toNat < 2 ^ 8 := BitVec.isLt _
  have mantissa : (unpackMantissa word).toNat < 2 ^ 23 := BitVec.isLt _
  unfold unpack
  simp only [bias]
  split
  · split <;> trivial
  · rename_i bounded
    split
    · split
      · trivial
      -- without a leading digit the exponent is the least one
      · rename_i none _
        have least : (unpackExponent word).toNat = 0 := by rw [none]; rfl
        rw [least]
        exact ⟨⟨by omega, by omega, by omega⟩, by omega⟩
    · rename_i some
      have positive : 0 < (unpackExponent word).toNat :=
        Nat.pos_of_ne_zero fun zero => some (BitVec.eq_of_toNat_eq zero)
      have below : (unpackExponent word).toNat ≠ 255 := fun ones =>
        bounded (BitVec.eq_of_toNat_eq ones)
      have leading : (1#1 ++ unpackMantissa word).toNat =
          2 ^ 23 + (unpackMantissa word).toNat := by
        rw [BitVec.toNat_append, ← Nat.shiftLeft_add_eq_or_of_lt mantissa]
        rfl
      exact ⟨⟨by omega, by omega, by omega⟩, by omega⟩

theorem inFormat (x : Float32) : InFormat x.toModel.unpack := inFormat_unpack _

/-- Finite numbers stand between zero and infinity. -/
theorem InFormat.bounds {s : Sign} {m : Nat} {e : Int} {h : 0 < m}
    (inside : InFormat (.finite s m e h)) : 0 < magnitude m e ∧ magnitude m e < peak :=
  ⟨magnitude_pos h e, inside.1.magnitude_lt_peak inside.2⟩

theorem InFormat.between {u : UnpackedFloat} (inside : InFormat u) :
    -peak ≤ heightOf u ∧ heightOf u ≤ peak := by
  rcases u with (_ | _) | _ | _ | ⟨_ | _, m, e, h⟩
  case finite.negative | finite.positive =>
    have bounds := inside.bounds
    simp only [heightOf, Sign.apply]
    omega
  all_goals
    simp only [heightOf, Sign.apply]
    omega

theorem InFormat.strictly_between {u : UnpackedFloat} (inside : InFormat u)
    (finite : u.isFinite = true) : -peak < heightOf u ∧ heightOf u < peak := by
  have top : 0 < peak := magnitude_pos (by decide) 105
  rcases u with s | _ | s | ⟨_ | _, m, e, h⟩
  case infinity | notANumber => cases finite
  case finite.negative | finite.positive =>
    have bounds := inside.bounds
    simp only [heightOf, Sign.apply]
    omega
  simp only [heightOf]
  omega

theorem height_bounds (x : Float32) : -peak ≤ height x ∧ height x ≤ peak := (inFormat x).between

theorem height_bounds_of_finite {x : Float32} (finite : x.isFinite = true) :
    -peak < height x ∧ height x < peak :=
  (inFormat x).strictly_between finite

/-! ## The order -/

theorem heightOf_lt_of_rankOf {u v : UnpackedFloat} (hu : InFormat u) (hv : InFormat v)
    (less : rankOf u < rankOf v) : heightOf u < heightOf v := by
  have top : 0 < peak := magnitude_pos (by decide) 105
  rcases u with (_ | _) | _ | _ | ⟨_ | _, m, e, h⟩ <;>
    rcases v with (_ | _) | _ | _ | ⟨_ | _, m', e', h'⟩ <;>
      simp only [rankOf, heightOf, Sign.apply, Prod.Lex.toLex_lt_toLex] at less ⊢
  case finite.negative.finite.negative =>
    have lower : e' < e ∨ e' = e ∧ m' < m := by omega
    have farther := hv.1.magnitude_lt_of_lex hu.1 lower
    omega
  case finite.positive.finite.positive =>
    have higher : e < e' ∨ e = e' ∧ m < m' := by omega
    have farther := hu.1.magnitude_lt_of_lex hv.1 higher
    omega
  all_goals grind [InFormat.bounds]

theorem heightOf_eq_of_rankOf {u v : UnpackedFloat} (same : rankOf u = rankOf v) :
    heightOf u = heightOf v := by
  rcases u with (_ | _) | _ | _ | ⟨_ | _, m, e, h⟩ <;>
    rcases v with (_ | _) | _ | _ | ⟨_ | _, m', e', h'⟩ <;>
      simp_all [rankOf, heightOf]

/-- Numbers are ordered as their heights. -/
theorem le_iff_height (x y : Float32) : x ≤ y ↔ x ≠ .nan ∧ y ≠ .nan ∧ height x ≤ height y := by
  rw [le_iff_rank]
  refine and_congr_right fun _ => and_congr_right fun _ => ⟨fun low => ?_, fun low => ?_⟩
  · rcases low.lt_or_eq with less | same
    · exact (heightOf_lt_of_rankOf (inFormat x) (inFormat y) less).le
    · exact (heightOf_eq_of_rankOf same).le
  · by_contra above
    exact absurd low (heightOf_lt_of_rankOf (inFormat y) (inFormat x) (not_le.mp above)).not_ge

/-! ## Packing -/

theorem unpack_normal (s : Sign) {m : Nat} {e : Int} (h : 0 < m) (normal : 2 ^ 23 ≤ m)
    (fits : Fits m e) (small : e ≤ 104) :
    unpack .binary32 (packComponents .binary32 s (BitVec.ofNat 8 (e + 150).toNat)
      (BitVec.ofNat 23 m)) = .finite s m e h := by
  have bias : Format.binary32.exponentBias = 127 := rfl
  have digits := fits.digits
  have least := fits.least
  have field : (BitVec.ofNat 8 (e + 150).toNat).toNat = (e + 150).toNat := by
    rw [BitVec.toNat_ofNat, Nat.mod_eq_of_lt (by omega)]
  have bounded : BitVec.ofNat 8 (e + 150).toNat ≠ -1#8 := fun ones => by
    have all : (BitVec.ofNat 8 (e + 150).toNat).toNat = 255 := by rw [ones]; rfl
    omega
  have some : BitVec.ofNat 8 (e + 150).toNat ≠ 0#8 := fun none => by
    have zero : (BitVec.ofNat 8 (e + 150).toNat).toNat = 0 := by rw [none]; rfl
    omega
  have mantissa : (1#1 ++ BitVec.ofNat 23 m).toNat = m := by
    rw [BitVec.toNat_append, ← Nat.shiftLeft_add_eq_or_of_lt (BitVec.isLt _), BitVec.toNat_ofNat,
      Nat.shiftLeft_eq]
    simp only [BitVec.toNat_ofNat]
    omega
  unfold unpack
  simp only [unpackSign_packComponents, unpackExponent_packComponents,
    unpackMantissa_packComponents, Sign.ofBitVec_toBitVec, bias]
  rw [if_neg bounded, if_neg some]
  simp only [UnpackedFloat.finite.injEq, true_and]
  exact ⟨mantissa, by omega⟩

theorem unpack_subnormal (s : Sign) {m : Nat} (h : 0 < m) (short : m < 2 ^ 23) :
    unpack .binary32 (packComponents .binary32 s 0#8 (BitVec.ofNat 23 m)) =
      .finite s m (-149) h := by
  have bias : Format.binary32.exponentBias = 127 := rfl
  have mantissa : (BitVec.ofNat 23 m).toNat = m := by
    rw [BitVec.toNat_ofNat, Nat.mod_eq_of_lt short]
  have some : BitVec.ofNat 23 m ≠ 0#23 := fun none => by
    have zero : (BitVec.ofNat 23 m).toNat = 0 := by rw [none]; rfl
    omega
  unfold unpack
  simp only [unpackSign_packComponents, unpackExponent_packComponents,
    unpackMantissa_packComponents, Sign.ofBitVec_toBitVec, bias]
  rw [if_neg (by decide), if_pos trivial, dif_neg some]
  simp only [UnpackedFloat.finite.injEq, true_and]
  exact ⟨mantissa, rfl⟩

/-- A word gives back the number that it holds. -/
theorem unpack_pack_of_fits (s : Sign) {m : Nat} {e : Int} (h : 0 < m) (fits : Fits m e)
    (small : e ≤ 104) :
    unpack .binary32 (pack .binary32 (.finite s m e h)) = .finite s m e h := by
  have bias : Format.binary32.exponentBias = 127 := rfl
  have width : Format.binary32.mantissaBits = 24 := rfl
  have least := fits.least
  have field : (e + (127 : Nat) + (23 : Nat)).toNat = (e + 150).toNat := by omega
  unfold pack
  simp only [bias, width, field]
  rw [if_neg (by omega)]
  by_cases normal : 2 ^ 23 ≤ m
  · have full : m.log2 = 23 := (Nat.log2_eq_iff h.ne').mpr ⟨normal, fits.digits⟩
    rw [if_pos (by omega)]
    exact unpack_normal s h normal fits small
  · have short : m.log2 < 23 := (Nat.log2_lt h.ne').mpr (not_le.mp normal)
    obtain rfl : e = -149 := fits.full.resolve_left normal
    rw [if_neg (by omega)]
    exact unpack_subnormal s h (not_le.mp normal)

theorem unpack_packedInfinity (s : Sign) :
    unpack .binary32 (packedInfinity .binary32 s) = .infinity s := by
  cases s <;> rfl

/-- A number past the largest exponent is packed as infinity. -/
theorem unpack_pack_of_large (s : Sign) {m : Nat} {e : Int} (h : 0 < m) (large : 105 ≤ e) :
    unpack .binary32 (pack .binary32 (.finite s m e h)) = .infinity s := by
  have bias : Format.binary32.exponentBias = 127 := rfl
  unfold pack
  simp only [bias]
  rw [if_pos (by omega), unpack_packedInfinity]

/-- Unpacked numbers as rounding leaves them, before they are held against infinity. -/
def Rounded : UnpackedFloat → Prop
  | .finite _ m e _ => Fits m e
  | _ => True

/-- A height held between the infinities. -/
def capped (z : ℤ) : ℤ := max (-peak) (min z peak)

theorem capped_mono {z z' : ℤ} (h : z ≤ z') : capped z ≤ capped z' :=
  max_le_max_left _ (min_le_min_right _ h)

/-- A word is as high as what is packed into it, up to infinity. -/
theorem heightOf_pack {u : UnpackedFloat} (rounded : Rounded u) :
    heightOf (unpack .binary32 (pack .binary32 u)) = capped (heightOf u) := by
  have top : 0 < peak := magnitude_pos (by decide) 105
  unfold capped
  cases u with
  | notANumber =>
      rw [(unpack_eq_notANumber_iff_of_valid valid_pack).mpr rfl]
      simp only [heightOf]
      omega
  | zero s =>
      rw [(unpack_eq_zero_iff_of_valid valid_pack).mpr rfl]
      simp only [heightOf]
      omega
  | infinity s =>
      rw [show pack .binary32 (.infinity s) = packedInfinity .binary32 s from rfl,
        unpack_packedInfinity]
      cases s <;> simp only [heightOf, Sign.apply] <;> omega
  | finite s m e h =>
      by_cases small : e ≤ 104
      · have below := rounded.magnitude_lt_peak small
        rw [unpack_pack_of_fits s h rounded small]
        cases s <;> simp only [heightOf, Sign.apply] <;> omega
      · have above := rounded.peak_le_magnitude (by omega)
        rw [unpack_pack_of_large s h (by omega)]
        cases s <;> simp only [heightOf, Sign.apply] <;> omega

end RobotCombat.Number
