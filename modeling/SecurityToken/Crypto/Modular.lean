/-!
Arithmetic on natural numbers modulo another one.
Main statements: repeated squaring computes the power, and `coprimeInverse?` finds an inverse.
-/

namespace SecurityToken.Modular

/-- The remainder of a power, by repeated squaring. -/
def power (modulus base exponent : Nat) : Nat :=
  if h : exponent = 0 then 1 % modulus
  else
    let half := power modulus (base * base % modulus) (exponent / 2)
    if exponent % 2 = 1 then half * base % modulus else half
termination_by exponent
decreasing_by omega

theorem power_eq (modulus base exponent : Nat) :
    power modulus base exponent = Nat.pow base exponent % modulus := by
  change power modulus base exponent = base ^ exponent % modulus
  induction exponent using Nat.strongRecOn generalizing base with
  | ind exponent ih =>
      unfold power
      split
      next h => subst h; rfl
      next h =>
        have hhalf : power modulus (base * base % modulus) (exponent / 2) =
            base ^ (2 * (exponent / 2)) % modulus := by
          rw [ih (exponent / 2) (by omega), ← Nat.pow_mod, Nat.pow_mul, Nat.pow_two]
        dsimp only
        rw [hhalf]
        split
        next hodd =>
          rw [Nat.mod_mul_mod, ← Nat.pow_succ]
          congr 2
          omega
        next heven =>
          congr 2
          omega

def subtract (modulus left right : Nat) : Nat :=
  (left + (modulus - right % modulus)) % modulus

/-- The inverse of a remainder modulo a prime, after Fermat. -/
def inverse (prime value : Nat) : Nat :=
  power prime value (prime - 2)

/-- The greatest common divisor of two numbers with a factor of the first of all numbers, given that
factor of both. -/
def euclid (left right : Nat) (leftFactor rightFactor : Int) : Nat × Int :=
  if _h : right = 0 then (left, leftFactor)
  else
    euclid right (left % right) rightFactor (leftFactor - (left / right : Nat) * rightFactor)
termination_by right
decreasing_by exact Nat.mod_lt _ (Nat.pos_of_ne_zero _h)

def coprimeInverse? (modulus value : Nat) : Option Nat :=
  let (divisor, factor) := euclid value modulus 1 0
  if divisor = 1 then some (factor % modulus).toNat else none

theorem dvd_euclid_sub (modulus value : Int) (left right : Nat) (leftFactor rightFactor : Int)
    (hleft : modulus ∣ left - leftFactor * value)
    (hright : modulus ∣ right - rightFactor * value) :
    modulus ∣ (euclid left right leftFactor rightFactor).1 -
      (euclid left right leftFactor rightFactor).2 * value := by
  fun_induction euclid left right leftFactor rightFactor with
  | case1 => exact hleft
  | case2 left right leftFactor rightFactor _ ih =>
      refine ih hright ?_
      have hstep := Int.dvd_sub hleft (Int.dvd_mul_of_dvd_right (b := ((left / right : Nat) : Int)) hright)
      rw [Int.natCast_emod, Int.emod_def, ← Int.natCast_ediv]
      grind

theorem coprimeInverse?_spec {modulus value inverse : Nat} (hpos : 0 < modulus)
    (h : coprimeInverse? modulus value = some inverse) :
    inverse * value % modulus = 1 % modulus := by
  have hdvd := dvd_euclid_sub modulus value value modulus 1 0
    (by simp) (by simp)
  simp only [coprimeInverse?, Option.ite_none_right_eq_some, Option.some.injEq] at h
  obtain ⟨hone, rfl⟩ := h
  rw [hone] at hdvd
  have hnonneg := Int.emod_nonneg (euclid value modulus 1 0).2 (b := modulus) (by omega)
  have hcast : (((euclid value modulus 1 0).2 % (modulus : Int)).toNat * value % modulus : Int) =
      1 % (modulus : Int) := by
    rw [Int.toNat_of_nonneg hnonneg, Int.mul_emod, Int.emod_emod_of_dvd _ (Int.dvd_refl _),
      ← Int.mul_emod]
    exact (Int.emod_eq_emod_iff_emod_sub_eq_zero.mpr (Int.emod_eq_zero_of_dvd hdvd)).symm
  exact_mod_cast hcast

end SecurityToken.Modular
