import Mathlib.FieldTheory.Finite.Basic
import SecurityToken.Crypto.Modular

/-!
# Remainders as residues

The arithmetic on numbers below a modulus is that of the residue ring: differences, powers, and for
a prime modulus inverses. Euclid's algorithm comes to the greatest common divisor, so that numbers
without a common divisor do get an inverse.
-/

namespace SecurityToken.Modular

variable {modulus : Nat}

theorem cast_subtract (hmodulus : 0 < modulus) (left right : Nat) :
    (subtract modulus left right : ZMod modulus) = left - right := by
  have hle := (Nat.mod_lt right hmodulus).le
  rw [subtract, ZMod.natCast_mod, Nat.cast_add, Nat.cast_sub hle, ZMod.natCast_self,
    ZMod.natCast_mod, zero_sub, ← sub_eq_add_neg]

theorem subtract_eq_zero (hmodulus : 0 < modulus) {left right : Nat} :
    subtract modulus left right = 0 ↔ (subtract modulus left right : ZMod modulus) = 0 := by
  have hlt : subtract modulus left right < modulus := Nat.mod_lt _ hmodulus
  rw [ZMod.natCast_eq_zero_iff]
  exact ⟨fun hzero => hzero ▸ dvd_zero modulus, fun hdvd => Nat.eq_zero_of_dvd_of_lt hdvd hlt⟩

/-- A power is the same one modulo each factor of the modulus. -/
theorem cast_power_of_dvd {factor : Nat} (hfactor : factor ∣ modulus) (base exponent : Nat) :
    (power modulus base exponent : ZMod factor) = (base : ZMod factor) ^ exponent := by
  rw [power_eq, ← Nat.cast_pow, ZMod.natCast_eq_natCast_iff', Nat.mod_mod_of_dvd _ hfactor]
  rfl

theorem cast_power (base exponent : Nat) :
    (power modulus base exponent : ZMod modulus) = (base : ZMod modulus) ^ exponent :=
  cast_power_of_dvd dvd_rfl base exponent

theorem cast_inverse [Fact modulus.Prime] {value : Nat} (hvalue : (value : ZMod modulus) ≠ 0) :
    (inverse modulus value : ZMod modulus) = (value : ZMod modulus)⁻¹ := by
  have htwo := (Fact.out : modulus.Prime).two_le
  rw [inverse, cast_power]
  refine eq_inv_of_mul_eq_one_left ?_
  rw [← pow_succ, show modulus - 2 + 1 = modulus - 1 by omega]
  exact ZMod.pow_card_sub_one_eq_one hvalue

theorem fst_euclid (left right : Nat) (leftFactor rightFactor : Int) :
    (euclid left right leftFactor rightFactor).1 = Nat.gcd left right := by
  fun_induction euclid left right leftFactor rightFactor with
  | case1 left leftFactor rightFactor => exact (Nat.gcd_zero_right left).symm
  | case2 left right leftFactor rightFactor _ ih =>
      rw [ih, Nat.gcd_comm, ← Nat.gcd_rec, Nat.gcd_comm]

theorem coprimeInverse?_isSome {value : Nat} (hcoprime : Nat.Coprime value modulus) :
    (coprimeInverse? modulus value).isSome = true := by
  have hone : (euclid value modulus 1 0).1 = 1 := (fst_euclid value modulus 1 0).trans hcoprime
  unfold coprimeInverse?
  simp only [hone, if_true, Option.isSome_some]

end SecurityToken.Modular
