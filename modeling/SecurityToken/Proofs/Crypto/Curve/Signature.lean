import Mathlib.GroupTheory.OrderOfElement
import SecurityToken.Crypto.Curve.Signature
import SecurityToken.Proofs.Crypto.Curve.Group
import SecurityToken.Proofs.Crypto.Number

/-!
# A signature on a curve verifies

Whoever verifies adds a multiple of the generator to a multiple of the key. The factors are chosen
so that the sum is the multiple of the generator by the secret number, and that is the point whose
first coordinate the signature holds. Multiples of the generator hang on the factor modulo its order
only.
-/

namespace SecurityToken.Curve

variable {curve : Curve}

theorem order_pos (curve : Curve) : 0 < curve.order :=
  curve.prime_order.pos

theorem order_lt (curve : Curve) : curve.order < 256 ^ curve.size := by
  cases curve <;> decide

theorem nsmul_generator_congr {left right : Nat}
    (hcast : (left : ZMod curve.order) = right) :
    left • (Point.generator curve).toGroup = right • (Point.generator curve).toGroup := by
  have hdvd := addOrderOf_dvd_of_nsmul_eq_zero curve.order_nsmul_generator
  exact nsmul_eq_nsmul_iff_modEq.2 (((ZMod.natCast_eq_natCast_iff _ _ _).1 hcast).of_dvd hdvd)

theorem represents_multiply_generator (scalar : Nat) :
    Triple.Represents curve (.multiply curve scalar (.ofPoint (.generator curve)))
      (scalar • (Point.generator curve).toGroup) :=
  (Triple.represents_ofPoint _).multiply scalar

theorem PrivateKey.toGroup_point (key : PrivateKey curve) :
    key.point.toGroup = key.scalar • (Point.generator curve).toGroup :=
  ((represents_multiply_generator _).point?_eq_some.1 key.point_eq).symm

theorem signWith?_eq_some {key : PrivateKey curve} {secret : Nat} {message signature : Bytes} :
    curve.signWith? key secret message = some signature ↔
      ∃ commitment : Point curve, ∃ first second : Nat,
        secret • (Point.generator curve).toGroup = commitment.toGroup ∧
        first = commitment.x % curve.order ∧
        second = Modular.inverse curve.order secret *
          (curve.messageScalar message + first * key.scalar) % curve.order ∧
        first ≠ 0 ∧ second ≠ 0 ∧
        signature = Bytes.ofNat curve.size first ++ Bytes.ofNat curve.size second := by
  simp only [signWith?, Option.bind_eq_bind, Option.bind_eq_some_iff,
    (represents_multiply_generator secret).point?_eq_some, Option.ite_none_left_eq_some, not_or,
    Option.some.injEq]
  constructor
  · rintro ⟨commitment, hcommitment, ⟨hfirst, hsecond⟩, rfl⟩
    exact ⟨commitment, _, _, hcommitment, rfl, rfl, hfirst, hsecond, rfl⟩
  · rintro ⟨commitment, _, _, hcommitment, rfl, rfl, hfirst, hsecond, rfl⟩
    exact ⟨commitment, hcommitment, ⟨hfirst, hsecond⟩, rfl⟩

/-- The factors of the generator and of the key add up to the secret number. -/
theorem cast_factors {secret digest first scalar second : Nat}
    (hsecret : (secret : ZMod curve.order) ≠ 0) (hsecond : (second : ZMod curve.order) ≠ 0)
    (heq : (second : ZMod curve.order) = (secret : ZMod curve.order)⁻¹ * (digest + first * scalar)) :
    ((digest * Modular.inverse curve.order second % curve.order +
      first * Modular.inverse curve.order second % curve.order * scalar : Nat) :
        ZMod curve.order) = secret := by
  push_cast
  rw [ZMod.natCast_mod, ZMod.natCast_mod, Nat.cast_mul, Nat.cast_mul, Modular.cast_inverse hsecond]
  have hproduct : (digest : ZMod curve.order) + first * scalar = secret * second := by
    rw [heq, mul_inv_cancel_left₀ hsecret]
  rw [mul_right_comm, ← add_mul, hproduct, mul_assoc, mul_inv_cancel₀ hsecond, mul_one]

theorem verify_of_signWith? {key : PrivateKey curve} {secret : Nat} {message signature : Bytes}
    (hsign : curve.signWith? key secret message = some signature) :
    curve.verify key.point message signature = true := by
  obtain ⟨commitment, first, second, hcommitment, hfirst, hsecond, hfirst₀, hsecond₀, rfl⟩ :=
    signWith?_eq_some.1 hsign
  have hfirst_lt : first < curve.order := hfirst ▸ Nat.mod_lt _ curve.order_pos
  have hsecond_lt : second < curve.order := hsecond ▸ Nat.mod_lt _ curve.order_pos
  have hcast : (second : ZMod curve.order) ≠ 0 := by
    rw [Ne, ZMod.natCast_eq_zero_iff]
    exact Nat.not_dvd_of_pos_of_lt (Nat.pos_of_ne_zero hsecond₀) hsecond_lt
  have hsecret : (secret : ZMod curve.order) ≠ 0 := by
    -- Otherwise the commitment would be the point at infinity.
    intro hzero
    rw [← Nat.cast_zero] at hzero
    rw [nsmul_generator_congr hzero, zero_nsmul] at hcommitment
    exact WeierstrassCurve.Affine.Point.some_ne_zero _ hcommitment.symm
  have hsum : (curve.messageScalar message * Modular.inverse curve.order second % curve.order) •
        (Point.generator curve).toGroup +
      (first * Modular.inverse curve.order second % curve.order) • key.point.toGroup =
        commitment.toGroup := by
    rw [key.toGroup_point, ← mul_nsmul', ← add_nsmul, ← hcommitment]
    apply nsmul_generator_congr
    apply cast_factors hsecret hcast
    rw [hsecond, ZMod.natCast_mod, Nat.cast_mul, Modular.cast_inverse hsecret]
    push_cast
    rfl
  have hfound := ((represents_multiply_generator _).add
    ((Triple.represents_ofPoint key.point).multiply _)).point?_eq_some.2 hsum
  have htake : ((Bytes.ofNat curve.size first ++ Bytes.ofNat curve.size second).take curve.size) =
      Bytes.ofNat curve.size first :=
    List.take_left' (Bytes.length_ofNat _ _)
  have hdrop : ((Bytes.ofNat curve.size first ++ Bytes.ofNat curve.size second).drop curve.size) =
      Bytes.ofNat curve.size second :=
    List.drop_left' (Bytes.length_ofNat _ _)
  have hlength : (Bytes.ofNat curve.size first ++ Bytes.ofNat curve.size second).length =
      2 * curve.size := by
    rw [List.length_append, Bytes.length_ofNat, Bytes.length_ofNat, two_mul]
  unfold verify
  rw [htake, hdrop, Bytes.toNat_ofNat_of_lt (hfirst_lt.trans curve.order_lt),
    Bytes.toNat_ofNat_of_lt (hsecond_lt.trans curve.order_lt)]
  refine (if_pos ⟨hlength, Nat.pos_of_ne_zero hfirst₀, hfirst_lt, Nat.pos_of_ne_zero hsecond₀,
    hsecond_lt⟩).trans ?_
  simp only [hfound]
  exact beq_iff_eq.2 hfirst.symm

/-- Whatever a curve key signs, its point verifies. -/
theorem verify_of_sign? {key : PrivateKey curve} {message signature : Bytes}
    (hsign : curve.sign? key message = some signature) :
    curve.verify key.point message signature = true := by
  obtain ⟨secret, _, hsign⟩ := Option.bind_eq_some_iff.1 hsign
  exact verify_of_signWith? hsign

theorem verify_nil (key : Point curve) (message : Bytes) : curve.verify key message [] = false := by
  have hsize : ¬([] : Bytes).length = 2 * curve.size := by
    cases curve <;> decide
  exact if_neg fun h => hsize h.1

end SecurityToken.Curve
