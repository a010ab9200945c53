import Mathlib.AlgebraicGeometry.EllipticCurve.Affine.Point
import SecurityToken.Proofs.Crypto.Primality

/-!
# The group of a curve

Triples stand for points of the Weierstrass curve over the field of the remainders, with the point
at infinity for all triples whose last number is zero. Doubling and adding triples is doubling and
adding points there, so that a multiple of a triple stands for the multiple of its point, and
dividing in the end gives back the coordinates of that point and no others. The laws of the group,
associativity above all, are those of the library.
-/

namespace SecurityToken

namespace Curve

variable {curve : Curve}

theorem prime_pos (curve : Curve) : 0 < curve.prime :=
  curve.prime_prime.pos

/-- The curve over its field. -/
def weierstrass (curve : Curve) : WeierstrassCurve (ZMod curve.prime) :=
  ⟨0, 0, 0, -3, curve.coefficient⟩

theorem discriminant_ne_zero (curve : Curve) : curve.weierstrass.Δ ≠ 0 := by
  have hdiscriminant : curve.weierstrass.Δ =
      ((1728 - 432 * curve.coefficient ^ 2 : ℤ) : ZMod curve.prime) := by
    simp only [WeierstrassCurve.Δ, WeierstrassCurve.b₂, WeierstrassCurve.b₄, WeierstrassCurve.b₆,
      WeierstrassCurve.b₈, weierstrass]
    push_cast
    ring
  rw [hdiscriminant, Ne, ZMod.intCast_zmod_eq_zero_iff_dvd]
  cases curve <;> decide

instance : curve.weierstrass.IsElliptic :=
  ⟨isUnit_iff_ne_zero.2 curve.discriminant_ne_zero⟩

abbrev Group (curve : Curve) : Type := curve.weierstrass.toAffine.Point

theorem equation_iff {x y : ZMod curve.prime} :
    curve.weierstrass.toAffine.Equation x y ↔ y ^ 2 = x ^ 3 - 3 * x + curve.coefficient := by
  rw [WeierstrassCurve.Affine.equation_iff]
  simp only [WeierstrassCurve.toAffine, weierstrass]
  constructor
  · intro h
    linear_combination h
  · intro h
    linear_combination h

theorem cast_cubic (curve : Curve) (x : Nat) :
    (curve.cubic x : ZMod curve.prime) =
      (x : ZMod curve.prime) ^ 3 - 3 * x + curve.coefficient := by
  rw [cubic, Modular.cast_subtract curve.prime_pos]
  push_cast
  ring

theorem cast_two_ne_zero (curve : Curve) : (2 : ZMod curve.prime) ≠ 0 := by
  have hcast : (2 : ZMod curve.prime) = ((2 : Nat) : ZMod curve.prime) := by norm_cast
  rw [hcast, Ne, ZMod.natCast_eq_zero_iff]
  cases curve <;> decide

theorem negY_eq (x y : ZMod curve.prime) : curve.weierstrass.toAffine.negY x y = -y := by
  simp [WeierstrassCurve.Affine.negY, Curve.weierstrass]

theorem eq_neg_iff (y : ZMod curve.prime) : y = -y ↔ y = 0 := by
  rw [eq_neg_iff_add_eq_zero, ← two_mul, mul_eq_zero, or_iff_right curve.cast_two_ne_zero]

theorem addX_eq (x₁ x₂ slope : ZMod curve.prime) :
    curve.weierstrass.toAffine.addX x₁ x₂ slope = slope ^ 2 - x₁ - x₂ := by
  simp [WeierstrassCurve.Affine.addX, Curve.weierstrass]

theorem addY_eq (x₁ x₂ y₁ slope : ZMod curve.prime) :
    curve.weierstrass.toAffine.addY x₁ x₂ y₁ slope =
      slope * (x₁ - (slope ^ 2 - x₁ - x₂)) - y₁ := by
  rw [WeierstrassCurve.Affine.addY, negY_eq, WeierstrassCurve.Affine.negAddY, addX_eq]
  ring

theorem slope_self {x y : ZMod curve.prime} (hy : y ≠ 0) :
    curve.weierstrass.toAffine.slope x x y y = (3 * x ^ 2 - 3) / (2 * y) := by
  have hne : y ≠ curve.weierstrass.toAffine.negY x y := by
    rw [negY_eq]
    exact fun heq => hy ((eq_neg_iff y).1 heq)
  rw [WeierstrassCurve.Affine.slope_of_Y_ne rfl hne, negY_eq]
  simp only [Curve.weierstrass]
  ring

end Curve

namespace Point

variable {curve : Curve}

theorem equation (point : Point curve) :
    curve.weierstrass.toAffine.Equation (point.x : ZMod curve.prime) point.y := by
  rw [Curve.equation_iff, ← Curve.cast_cubic, ← point.on_curve, ZMod.natCast_mod, Nat.cast_mul,
    pow_two]

/-- A key's point as one of the group. -/
def toGroup (point : Point curve) : curve.Group :=
  .mk point.equation

theorem ofCoordinates?_eq_some {x y : Nat} {point : Point curve} :
    ofCoordinates? curve x y = some point ↔ point.x = x ∧ point.y = y := by
  unfold ofCoordinates?
  constructor
  · intro h
    split at h
    · obtain rfl := Option.some.inj h
      exact ⟨rfl, rfl⟩
    · cases h
  · rintro ⟨rfl, rfl⟩
    exact dif_pos ⟨point.x_lt, point.y_lt, point.on_curve⟩

end Point

namespace Triple

variable {curve : Curve}

/-- Whether a triple stands for a point. -/
inductive Represents (curve : Curve) : Triple → curve.Group → Prop where
  | infinity {triple : Triple} (hz : triple.z = 0) : Represents curve triple 0
  | point {triple : Triple} {x y : ZMod curve.prime}
      (hpoint : curve.weierstrass.toAffine.Nonsingular x y)
      (hz : (triple.z : ZMod curve.prime) ≠ 0)
      (hx : (triple.x : ZMod curve.prime) = x * (triple.z : ZMod curve.prime) ^ 2)
      (hy : (triple.y : ZMod curve.prime) = y * (triple.z : ZMod curve.prime) ^ 3) :
      Represents curve triple (.some x y hpoint)

theorem represents_ofPoint (point : Point curve) :
    Represents curve (.ofPoint point) point.toGroup := by
  refine .point _ ?_ ?_ ?_
  · simp [ofPoint]
  · simp [ofPoint]
  · simp [ofPoint]

theorem Represents.eq_zero_iff {triple : Triple} {point : curve.Group}
    (hrepresents : Represents curve triple point) : point = 0 ↔ triple.z = 0 := by
  cases hrepresents with
  | infinity hz => exact iff_of_true rfl hz
  | point hpoint hz hx hy =>
      refine iff_of_false (WeierstrassCurve.Affine.Point.some_ne_zero hpoint) fun hzero => hz ?_
      rw [hzero, Nat.cast_zero]

theorem cast_mod_eq_zero {value : Nat} :
    value % curve.prime = 0 ↔ (value : ZMod curve.prime) = 0 := by
  rw [ZMod.natCast_eq_zero_iff, Nat.dvd_iff_mod_eq_zero]

theorem cast_double (triple : Triple) :
    ((triple.double curve).z : ZMod curve.prime) = 2 * triple.y * triple.z ∧
    ((triple.double curve).x : ZMod curve.prime) =
      9 * (triple.x ^ 2 - triple.z ^ 4) ^ 2 - 8 * triple.x * triple.y ^ 2 ∧
    ((triple.double curve).y : ZMod curve.prime) =
      3 * (triple.x ^ 2 - triple.z ^ 4) * (4 * triple.x * triple.y ^ 2 -
        (9 * (triple.x ^ 2 - triple.z ^ 4) ^ 2 - 8 * triple.x * triple.y ^ 2)) -
        8 * triple.y ^ 4 := by
  simp only [Triple.double, Modular.cast_subtract curve.prime_pos, ZMod.natCast_mod, Nat.cast_mul,
    Nat.cast_add, Nat.cast_ofNat]
  refine ⟨trivial, ?_, ?_⟩
  · ring
  · ring

theorem Represents.double {triple : Triple} {point : curve.Group}
    (hrepresents : Represents curve triple point) :
    Represents curve (triple.double curve) (point + point) := by
  obtain ⟨hcastZ, hcastX, hcastY⟩ := @cast_double curve triple
  cases hrepresents with
  | infinity hz =>
      rw [add_zero]
      refine .infinity ?_
      simp [Triple.double, hz]
  | @point x y hpoint hz hx hy =>
      have htwo := curve.cast_two_ne_zero
      rw [hx, hy] at hcastX hcastY
      rw [hy] at hcastZ
      by_cases hzero : y = 0
      · subst hzero
        have heq : (0 : ZMod curve.prime) = curve.weierstrass.toAffine.negY x 0 := by
          rw [Curve.negY_eq, neg_zero]
        rw [WeierstrassCurve.Affine.Point.add_self_of_Y_eq heq]
        refine .infinity (cast_mod_eq_zero.2 ?_)
        rw [Nat.cast_mul, Nat.cast_mul, hy]
        ring
      · have hne : y ≠ curve.weierstrass.toAffine.negY x y := by
          rw [Curve.negY_eq]
          exact fun heq => hzero ((Curve.eq_neg_iff y).1 heq)
        rw [WeierstrassCurve.Affine.Point.add_self_of_Y_ne hne]
        refine .point _ ?_ ?_ ?_
        · rw [hcastZ]
          exact mul_ne_zero (mul_ne_zero htwo (mul_ne_zero hzero (pow_ne_zero 3 hz))) hz
        · rw [hcastX, hcastZ, Curve.slope_self hzero, Curve.addX_eq]
          field_simp
          ring
        · rw [hcastY, hcastZ, Curve.slope_self hzero, Curve.addY_eq]
          field_simp
          ring

/-- By how much the first coordinates of two points differ, over one denominator. -/
def run (curve : Curve) (left right : Triple) : Nat :=
  Modular.subtract curve.prime
    (right.x * (left.z * left.z % curve.prime) % curve.prime)
    (left.x * (right.z * right.z % curve.prime) % curve.prime)

/-- By how much the second ones do. -/
def rise (curve : Curve) (left right : Triple) : Nat :=
  Modular.subtract curve.prime
    (right.y * (left.z * left.z % curve.prime * left.z % curve.prime) % curve.prime)
    (left.y * (right.z * right.z % curve.prime * right.z % curve.prime) % curve.prime)

/-- The sum of two points that are not above each other. -/
def chord (curve : Curve) (left right : Triple) : Triple :=
  let p := curve.prime
  let square := right.z * right.z % p
  let run := run curve left right
  let rise := rise curve left right
  let runSquare := run * run % p
  let runCube := runSquare * run % p
  let shared := left.x * square % p * runSquare % p
  let x := Modular.subtract p (rise * rise) (runCube + 2 * shared)
  let y := Modular.subtract p (rise * Modular.subtract p shared x)
    (left.y * (square * right.z % p) % p * runCube)
  ⟨x, y, run * (left.z * right.z) % p⟩

theorem add_eq {left right : Triple} (hleft : left.z ≠ 0) (hright : right.z ≠ 0) :
    add curve left right =
      if run curve left right = 0 then
        if rise curve left right = 0 then double curve left else infinity
      else chord curve left right := by
  rw [add, if_neg hleft, if_neg hright]
  rfl

section Difference

variable (left right : Triple)

theorem cast_run :
    (run curve left right : ZMod curve.prime) =
      right.x * (left.z : ZMod curve.prime) ^ 2 - left.x * (right.z : ZMod curve.prime) ^ 2 := by
  rw [run, Modular.cast_subtract curve.prime_pos]
  simp only [ZMod.natCast_mod, Nat.cast_mul]
  ring

theorem cast_rise :
    (rise curve left right : ZMod curve.prime) =
      right.y * (left.z : ZMod curve.prime) ^ 3 - left.y * (right.z : ZMod curve.prime) ^ 3 := by
  rw [rise, Modular.cast_subtract curve.prime_pos]
  simp only [ZMod.natCast_mod, Nat.cast_mul]
  ring

theorem cast_chord :
    ((chord curve left right).z : ZMod curve.prime) =
      run curve left right * (left.z * right.z) ∧
    ((chord curve left right).x : ZMod curve.prime) =
      (rise curve left right : ZMod curve.prime) ^ 2 -
        ((run curve left right : ZMod curve.prime) ^ 3 +
          2 * (left.x * (right.z : ZMod curve.prime) ^ 2 *
            (run curve left right : ZMod curve.prime) ^ 2)) ∧
    ((chord curve left right).y : ZMod curve.prime) =
      rise curve left right * (left.x * (right.z : ZMod curve.prime) ^ 2 *
        (run curve left right : ZMod curve.prime) ^ 2 - (chord curve left right).x) -
        left.y * (right.z : ZMod curve.prime) ^ 3 *
          (run curve left right : ZMod curve.prime) ^ 3 := by
  simp only [chord, Modular.cast_subtract curve.prime_pos, ZMod.natCast_mod, Nat.cast_mul,
    Nat.cast_add, Nat.cast_ofNat]
  refine ⟨trivial, ?_, ?_⟩
  · ring
  · ring

end Difference

section Points

variable {left right : Triple} {x₁ y₁ x₂ y₂ : ZMod curve.prime}
  {hpoint₁ : curve.weierstrass.toAffine.Nonsingular x₁ y₁}
  {hpoint₂ : curve.weierstrass.toAffine.Nonsingular x₂ y₂}

theorem run_eq_zero (hleft : Represents curve left (.some x₁ y₁ hpoint₁))
    (hright : Represents curve right (.some x₂ y₂ hpoint₂)) :
    run curve left right = 0 ↔ x₁ = x₂ := by
  obtain _ | ⟨_, hz₁, hx₁, -⟩ := hleft
  obtain _ | ⟨_, hz₂, hx₂, -⟩ := hright
  have hproduct : (run curve left right : ZMod curve.prime) =
      (x₂ - x₁) * ((left.z : ZMod curve.prime) * right.z) ^ 2 := by
    rw [cast_run, hx₁, hx₂]
    ring
  rw [run, Modular.subtract_eq_zero curve.prime_pos, ← run, hproduct, mul_eq_zero,
    or_iff_left (pow_ne_zero 2 (mul_ne_zero hz₁ hz₂)), sub_eq_zero, eq_comm]

theorem rise_eq_zero (hleft : Represents curve left (.some x₁ y₁ hpoint₁))
    (hright : Represents curve right (.some x₂ y₂ hpoint₂)) :
    rise curve left right = 0 ↔ y₁ = y₂ := by
  obtain _ | ⟨_, hz₁, -, hy₁⟩ := hleft
  obtain _ | ⟨_, hz₂, -, hy₂⟩ := hright
  have hproduct : (rise curve left right : ZMod curve.prime) =
      (y₂ - y₁) * ((left.z : ZMod curve.prime) * right.z) ^ 3 := by
    rw [cast_rise, hy₁, hy₂]
    ring
  rw [rise, Modular.subtract_eq_zero curve.prime_pos, ← rise, hproduct, mul_eq_zero,
    or_iff_left (pow_ne_zero 3 (mul_ne_zero hz₁ hz₂)), sub_eq_zero, eq_comm]

theorem Represents.chord (hleft : Represents curve left (.some x₁ y₁ hpoint₁))
    (hright : Represents curve right (.some x₂ y₂ hpoint₂)) (hne : x₁ ≠ x₂) :
    Represents curve (chord curve left right)
      (.some x₁ y₁ hpoint₁ + .some x₂ y₂ hpoint₂) := by
  obtain ⟨hcastZ, hcastX, hcastY⟩ := @cast_chord curve left right
  have hrun : (run curve left right : ZMod curve.prime) ≠ 0 := by
    rw [run, Ne, ← Modular.subtract_eq_zero curve.prime_pos, ← run]
    exact fun hzero => hne ((run_eq_zero hleft hright).1 hzero)
  obtain _ | ⟨_, hz₁, hx₁, hy₁⟩ := hleft
  obtain _ | ⟨_, hz₂, hx₂, hy₂⟩ := hright
  have hdifference : x₁ - x₂ ≠ 0 := sub_ne_zero.2 hne
  rw [WeierstrassCurve.Affine.Point.add_of_X_ne hne]
  refine .point _ ?_ ?_ ?_
  · rw [hcastZ]
    exact mul_ne_zero hrun (mul_ne_zero hz₁ hz₂)
  · rw [hcastX, hcastZ, cast_rise, cast_run, hx₁, hy₁, hx₂, hy₂, Curve.addX_eq,
      WeierstrassCurve.Affine.slope_of_X_ne hne]
    field_simp
    ring
  · rw [hcastY, hcastX, hcastZ, cast_rise, cast_run, hx₁, hy₁, hx₂, hy₂, Curve.addY_eq,
      WeierstrassCurve.Affine.slope_of_X_ne hne]
    field_simp
    ring

end Points

theorem Represents.add {left right : Triple} {point other : curve.Group}
    (hleft : Represents curve left point) (hright : Represents curve right other) :
    Represents curve (add curve left right) (point + other) := by
  by_cases hzero : left.z = 0
  · obtain rfl := hleft.eq_zero_iff.2 hzero
    rw [zero_add, Triple.add, if_pos hzero]
    exact hright
  by_cases hzero' : right.z = 0
  · obtain rfl := hright.eq_zero_iff.2 hzero'
    rw [add_zero, Triple.add, if_neg hzero, if_pos hzero']
    exact hleft
  rw [add_eq hzero hzero']
  cases hleft with
  | infinity hz => exact absurd hz hzero
  | @point x₁ y₁ hpoint₁ hz₁ hx₁ hy₁ =>
      cases hright with
      | infinity hz => exact absurd hz hzero'
      | @point x₂ y₂ hpoint₂ hz₂ hx₂ hy₂ =>
          have hleft := Represents.point hpoint₁ hz₁ hx₁ hy₁
          have hright := Represents.point hpoint₂ hz₂ hx₂ hy₂
          by_cases hx : x₁ = x₂
          · rw [if_pos ((run_eq_zero hleft hright).2 hx)]
            by_cases hy : y₁ = y₂
            · rw [if_pos ((rise_eq_zero hleft hright).2 hy)]
              subst hx hy
              exact hleft.double
            · -- On one vertical line there are but two points, and they are opposite.
              rw [if_neg fun hrise => hy ((rise_eq_zero hleft hright).1 hrise)]
              have hopposite := (WeierstrassCurve.Affine.Y_eq_of_X_eq hpoint₁.1 hpoint₂.1
                hx).resolve_left hy
              rw [WeierstrassCurve.Affine.Point.add_of_Y_eq hx hopposite]
              exact .infinity rfl
          · rw [if_neg fun hrun => hx ((run_eq_zero hleft hright).1 hrun)]
            exact hleft.chord hright hx

/-- Doubling and adding along the binary digits of a number comes to its multiple. -/
theorem Represents.multiply {triple : Triple} {point : curve.Group}
    (hrepresents : Represents curve triple point) (scalar : Nat) :
    Represents curve (multiply curve scalar triple) (scalar • point) := by
  induction scalar, triple using Triple.multiply.induct curve generalizing point with
  | case1 triple =>
      rw [Triple.multiply, dif_pos rfl, zero_nsmul]
      exact .infinity rfl
  | case2 scalar triple hscalar hodd ih =>
      have hsum : scalar • point = (scalar / 2) • (point + point) + point := by
        rw [← two_nsmul, ← mul_nsmul, ← succ_nsmul]
        congr 1
        omega
      rw [Triple.multiply, dif_neg hscalar, hsum]
      simp only [if_pos hodd]
      exact (ih hrepresents.double).add hrepresents
  | case3 scalar triple hscalar heven ih =>
      have hsum : scalar • point = (scalar / 2) • (point + point) := by
        rw [← two_nsmul, ← mul_nsmul]
        congr 1
        omega
      rw [Triple.multiply, dif_neg hscalar, hsum]
      simp only [if_neg heven]
      exact ih hrepresents.double

theorem eq_mod_iff {value remainder : Nat} (hlt : remainder < curve.prime) :
    remainder = value % curve.prime ↔ (remainder : ZMod curve.prime) = value := by
  rw [ZMod.natCast_eq_natCast_iff', Nat.mod_eq_of_lt hlt]

/-- The coordinates that a triple gives in the end are those of the point that it stands for. -/
theorem Represents.point?_eq_some {triple : Triple} {point : curve.Group} {found : Point curve}
    (hrepresents : Represents curve triple point) :
    triple.point? curve = some found ↔ point = found.toGroup := by
  unfold point?
  cases hrepresents with
  | infinity hz =>
      rw [if_pos hz]
      refine iff_of_false nofun fun heq => ?_
      exact WeierstrassCurve.Affine.Point.some_ne_zero _ heq.symm
  | @point x y hpoint hz hx hy =>
      have hzero : triple.z ≠ 0 := fun hzero => hz (by rw [hzero, Nat.cast_zero])
      have hx' : (found.x = triple.x * (Modular.inverse curve.prime triple.z *
          Modular.inverse curve.prime triple.z % curve.prime) % curve.prime) ↔
          (found.x : ZMod curve.prime) = x := by
        rw [eq_mod_iff found.x_lt, Nat.cast_mul, ZMod.natCast_mod, Nat.cast_mul,
          Modular.cast_inverse hz, hx]
        field_simp
      have hy' : (found.y = triple.y * (Modular.inverse curve.prime triple.z *
          Modular.inverse curve.prime triple.z % curve.prime *
          Modular.inverse curve.prime triple.z % curve.prime) % curve.prime) ↔
          (found.y : ZMod curve.prime) = y := by
        rw [eq_mod_iff found.y_lt, Nat.cast_mul, ZMod.natCast_mod, Nat.cast_mul, ZMod.natCast_mod,
          Nat.cast_mul, Modular.cast_inverse hz, hy]
        field_simp
      rw [if_neg hzero]
      refine Point.ofCoordinates?_eq_some.trans ?_
      rw [hx', hy', Point.toGroup]
      constructor
      · rintro ⟨rfl, rfl⟩
        rfl
      · intro heq
        obtain ⟨rfl, rfl⟩ := WeierstrassCurve.Affine.Point.some.inj heq
        exact ⟨rfl, rfl⟩

end Triple

namespace Curve

variable {curve : Curve}

theorem order_nsmul_generator (curve : Curve) :
    curve.order • (Point.generator curve).toGroup = 0 := by
  rw [((Triple.represents_ofPoint _).multiply curve.order).eq_zero_iff]
  cases curve <;> decide +kernel

end Curve

end SecurityToken
