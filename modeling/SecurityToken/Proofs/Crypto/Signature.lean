import SecurityToken.Proofs.Crypto.Curve.Signature
import SecurityToken.Proofs.Crypto.Rsa
import SecurityToken.Proofs.Suite.Standard

/-!
# What one key signs, its counterpart verifies

A scheme hangs on the material of its key and on the algorithm. Whoever only verifies needs the
public half, and whatever the other half signs is verified with it. No scheme takes the empty
signature, so that what is signed never passes for unsigned.
-/

namespace SecurityToken

/-- Whether a key is of the material of another one, or of its public half. -/
def Key.Counterpart (key other : Key) : Prop :=
  key.material = other.material ∨ key.material = other.material.toPublic

namespace SignatureScheme

theorem verify_of_signRsa {algorithm : SignatureAlgorithm} {key : Rsa.PrivateKey}
    {entropy : Entropy} {message signature : Bytes}
    (hsign : signRsa algorithm (some key) entropy message = .ok signature) :
    verifyRsa algorithm key.publicKey message signature = true := by
  unfold signRsa at hsign
  unfold verifyRsa
  simp only at hsign
  by_cases hsalted : algorithm.isProbabilistic = true
  · rw [if_pos hsalted] at hsign ⊢
    exact Rsa.Salted.verify_of_sign hsign
  · rw [if_neg hsalted] at hsign ⊢
    exact Rsa.Fixed.verify_of_sign hsign

theorem verifyRsa_nil (algorithm : SignatureAlgorithm) (key : Rsa.PublicKey) (message : Bytes) :
    verifyRsa algorithm key message [] = false := by
  unfold verifyRsa
  rw [Rsa.Salted.verify_nil, Rsa.Fixed.verify_nil, ite_self]

theorem verify_of_signCurve {curve : Curve} {key : Curve.PrivateKey curve}
    {message signature : Bytes}
    (hsign : signCurve curve (some key) message = .ok signature) :
    curve.verify key.point message signature = true := by
  unfold signCurve at hsign
  simp only at hsign
  split at hsign
  next found hfound =>
    obtain rfl := Except.ok.inj hsign
    exact Curve.verify_of_sign? hfound
  next => cases hsign

theorem hmac_nil (digest : Digest) (secret message : Bytes) :
    (digest.hmac secret message == []) = false := by
  rw [beq_eq_false_iff_ne]
  intro hnil
  have hlength := digest.length_hmac secret message
  rw [hnil] at hlength
  exact absurd hlength digest.size_pos.ne

end SignatureScheme

namespace KeyMaterial.Serves

variable {material : KeyMaterial} {algorithm : SignatureAlgorithm} {forSigning : Bool}
  {scheme : SignatureScheme}

theorem toPublic (hserves : material.Serves algorithm false scheme) :
    material.toPublic.Serves algorithm false scheme := by
  cases hserves with
  | secret hsymmetric hsize => exact .secret hsymmetric hsize
  | rsaPair hrsa => exact .rsaPublic hrsa
  | rsaPublic hrsa => exact .rsaPublic hrsa
  | curvePair => exact .curvePublic
  | curvePublic => exact .curvePublic

theorem verify_of_sign (hserves : material.Serves algorithm true scheme) {entropy : Entropy}
    {message signature : Bytes} (hsign : scheme.sign entropy message = .ok signature) :
    ∃ verifier, material.Serves algorithm false verifier ∧
      verifier.verify message signature = true := by
  cases hserves with
  | secret hsymmetric hsize =>
      obtain rfl := Except.ok.inj hsign
      exact ⟨_, .secret hsymmetric hsize, beq_self_eq_true _⟩
  | rsaPair hrsa => exact ⟨_, .rsaPair hrsa, SignatureScheme.verify_of_signRsa hsign⟩
  | curvePair => exact ⟨_, .curvePair, SignatureScheme.verify_of_signCurve hsign⟩

theorem verify_nil (hserves : material.Serves algorithm forSigning scheme) (message : Bytes) :
    scheme.verify message [] = false := by
  cases hserves with
  | secret hsymmetric hsize => exact SignatureScheme.hmac_nil _ _ _
  | rsaPair hrsa => exact SignatureScheme.verifyRsa_nil _ _ _
  | rsaPublic hrsa => exact SignatureScheme.verifyRsa_nil _ _ _
  | curvePair => exact Curve.verify_nil _ _
  | curvePublic => exact Curve.verify_nil _ _

end KeyMaterial.Serves

namespace Key

variable {key other : Key} {algorithm : SignatureAlgorithm}

theorem verify_of_sign (hother : other.Counterpart key) {scheme : SignatureScheme}
    {entropy : Entropy} {message signature : Bytes}
    (hscheme : key.signatureScheme algorithm true = .ok scheme)
    (hsign : scheme.sign entropy message = .ok signature) :
    signature ≠ [] ∧ ∃ verifier, other.signatureScheme algorithm false = .ok verifier ∧
      verifier.verify message signature = true := by
  obtain ⟨verifier, hserves, hverify⟩ := (signatureScheme_eq_ok.1 hscheme).verify_of_sign hsign
  constructor
  · rintro rfl
    rw [hserves.verify_nil] at hverify
    cases hverify
  · refine ⟨verifier, signatureScheme_eq_ok.2 ?_, hverify⟩
    rcases hother with hmaterial | hmaterial
    · rwa [hmaterial]
    · rw [hmaterial]
      exact hserves.toPublic

end Key

end SecurityToken
