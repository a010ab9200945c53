import SecurityToken.Crypto.Suite.Standard
import SecurityToken.Proofs.Basic

/-!
# What the standard suite serves

A scheme comes from the standard suite only under the exact name of an algorithm, and a signature
scheme only from a key that supports the algorithm. A key that does not fit a known algorithm is
never reported as if nobody knew the algorithm.
-/

namespace SecurityToken

theorem name_of_find? {α : Type} {all : List α} {nameOf : α → String} {name : String} {found : α}
    (hfind : (all.find? fun candidate => nameOf candidate == name) = some found) :
    name = nameOf found := by
  have hname : nameOf found = name := by simpa using List.find?_some hfind
  exact hname.symm

theorem SignatureAlgorithm.name_of_ofName {name : String} {algorithm : SignatureAlgorithm}
    (hname : SignatureAlgorithm.ofName name = .ok algorithm) : name = algorithm.name := by
  unfold SignatureAlgorithm.ofName at hname
  split at hname
  next found hfind =>
    obtain rfl := Except.ok.inj hname
    exact name_of_find? hfind
  next => exact nomatch hname

theorem SignatureAlgorithm.ofName_name (algorithm : SignatureAlgorithm) :
    SignatureAlgorithm.ofName algorithm.name = .ok algorithm := by
  cases algorithm <;> rfl

theorem SignatureAlgorithm.name_ne_empty (algorithm : SignatureAlgorithm) :
    algorithm.name ≠ "" := by
  cases algorithm <;> decide

/-- An algorithm that goes by the name that is given, or else by the empty one, is given. -/
theorem SignatureAlgorithm.eq_some_of_getD {name? : Option String} {algorithm : SignatureAlgorithm}
    (hname : name?.getD "" = algorithm.name) : name? = some algorithm.name := by
  cases name? with
  | none => exact absurd hname.symm algorithm.name_ne_empty
  | some name => exact congrArg some hname

theorem KeyAlgorithm.name_of_ofName {name : String} {algorithm : KeyAlgorithm}
    (hname : KeyAlgorithm.ofName name = .ok algorithm) : name = algorithm.name := by
  unfold KeyAlgorithm.ofName at hname
  split at hname
  next found hfind =>
    obtain rfl := Except.ok.inj hname
    exact name_of_find? hfind
  next => exact nomatch hname

theorem ContentAlgorithm.name_of_ofName {name : String} {algorithm : ContentAlgorithm}
    (hname : ContentAlgorithm.ofName name = .ok algorithm) : name = algorithm.name := by
  unfold ContentAlgorithm.ofName at hname
  split at hname
  next found hfind =>
    obtain rfl := Except.ok.inj hname
    exact name_of_find? hfind
  next => exact nomatch hname

theorem KeyAlgorithm.ofName_name (algorithm : KeyAlgorithm) :
    KeyAlgorithm.ofName algorithm.name = .ok algorithm := by
  cases algorithm <;> rfl

theorem ContentAlgorithm.ofName_name (algorithm : ContentAlgorithm) :
    ContentAlgorithm.ofName algorithm.name = .ok algorithm := by
  cases algorithm <;> rfl

/-- Which scheme the material of a key makes under an algorithm, to sign with or only to verify. -/
inductive KeyMaterial.Serves :
    KeyMaterial → SignatureAlgorithm → (forSigning : Bool) → SignatureScheme → Prop where
  | secret {bytes : Bytes} {algorithm : SignatureAlgorithm} {forSigning : Bool}
      (hsymmetric : algorithm.isSymmetric = true)
      (hsize : SignatureAlgorithm.minimumSecretBits ≤ 8 * bytes.length) :
      Serves (.secret bytes) algorithm forSigning {
        algorithm := algorithm.name
        sign := fun _ message => .ok (algorithm.digest.hmac bytes message)
        verify := fun message signature => algorithm.digest.hmac bytes message == signature }
  | rsaPair {key : Rsa.PrivateKey} {algorithm : SignatureAlgorithm} {forSigning : Bool}
      (hrsa : algorithm.isRsa = true) :
      Serves (.rsaPair key) algorithm forSigning {
        algorithm := algorithm.name
        sign := SignatureScheme.signRsa algorithm (if forSigning then some key else none)
        verify := SignatureScheme.verifyRsa algorithm key.publicKey }
  | rsaPublic {key : Rsa.PublicKey} {algorithm : SignatureAlgorithm}
      (hrsa : algorithm.isRsa = true) :
      Serves (.rsaPublic key) algorithm false {
        algorithm := algorithm.name
        sign := SignatureScheme.signRsa algorithm none
        verify := SignatureScheme.verifyRsa algorithm key }
  | curvePair {curve : Curve} {key : Curve.PrivateKey curve} {forSigning : Bool} :
      Serves (.curvePair curve key) (SignatureScheme.curveAlgorithm curve) forSigning
        (.ofCurve curve (if forSigning then some key else none) key.point)
  | curvePublic {curve : Curve} {key : Point curve} :
      Serves (.curvePublic curve key) (SignatureScheme.curveAlgorithm curve) false
        (.ofCurve curve none key)

/-- A key that gets no scheme under a known algorithm is unfit for it, or too small, or lacks the
half that signs. -/
theorem Key.signatureScheme_cases (key : Key) (algorithm : SignatureAlgorithm) (forSigning : Bool) :
    (∃ scheme, key.signatureScheme algorithm forSigning = .ok scheme ∧
      key.material.Serves algorithm forSigning scheme) ∨
    ∃ fault, key.signatureScheme algorithm forSigning = .error fault ∧
      fault.isUnsupported = false := by
  unfold Key.signatureScheme
  cases key.material with
  | secret bytes =>
      by_cases hsymmetric : algorithm.isSymmetric = true
      · by_cases hshort : 8 * bytes.length < SignatureAlgorithm.minimumSecretBits
        · refine .inr
            ⟨.keyTooSmall SignatureAlgorithm.minimumSecretBits (8 * bytes.length), ?_, rfl⟩
          simp [SignatureScheme.hmac, hsymmetric, hshort]
        · refine .inl ⟨_, ?_, .secret hsymmetric (Nat.not_lt.1 hshort)⟩
          simp [SignatureScheme.hmac, hsymmetric, hshort]
      · exact .inr ⟨.keyMismatch key.handle algorithm.name, if_neg hsymmetric, rfl⟩
  | rsaPair pair =>
      by_cases hrsa : algorithm.isRsa = true
      · exact .inl ⟨_, (if_pos hrsa).trans (if_pos hrsa), .rsaPair hrsa⟩
      · exact .inr ⟨.keyMismatch key.handle algorithm.name, if_neg hrsa, rfl⟩
  | rsaPublic publicKey =>
      by_cases hrsa : algorithm.isRsa = true
      · have hknown : ¬(!algorithm.isRsa) = true := by simpa using hrsa
        cases forSigning with
        | true => exact .inr ⟨.noPrivateKey, if_neg hknown, rfl⟩
        | false => exact .inl ⟨_, (if_neg hknown).trans (if_pos hrsa), .rsaPublic hrsa⟩
      · have hunfit : (!algorithm.isRsa) = true := by simpa using hrsa
        exact .inr ⟨.keyMismatch key.handle algorithm.name, if_pos hunfit, rfl⟩
  | curvePair curve pair =>
      by_cases hcurve : algorithm = SignatureScheme.curveAlgorithm curve
      · subst hcurve
        exact .inl ⟨_, if_pos rfl, .curvePair⟩
      · exact .inr ⟨.keyMismatch key.handle algorithm.name, if_neg hcurve, rfl⟩
  | curvePublic curve publicKey =>
      by_cases hcurve : algorithm = SignatureScheme.curveAlgorithm curve
      · subst hcurve
        cases forSigning with
        | true => exact .inr ⟨.noPrivateKey, if_neg fun hne => hne rfl, rfl⟩
        | false => exact .inl ⟨_, if_neg fun hne => hne rfl, .curvePublic⟩
      · exact .inr ⟨.keyMismatch key.handle algorithm.name, if_pos hcurve, rfl⟩

theorem Key.signatureScheme_eq_ok {key : Key} {algorithm : SignatureAlgorithm} {forSigning : Bool}
    {scheme : SignatureScheme} :
    key.signatureScheme algorithm forSigning = .ok scheme ↔
      key.material.Serves algorithm forSigning scheme := by
  constructor
  · intro hscheme
    rcases key.signatureScheme_cases algorithm forSigning with ⟨found, hfound, hserves⟩ |
      ⟨fault, hfault, _⟩
    · obtain rfl := Except.ok.inj (hfound.symm.trans hscheme)
      exact hserves
    · cases hfault.symm.trans hscheme
  · intro hserves
    unfold Key.signatureScheme
    generalize key.material = material at hserves
    cases hserves with
    | secret hsymmetric hsize => simp [SignatureScheme.hmac, hsymmetric, Nat.not_lt.2 hsize]
    | rsaPair hrsa => exact (if_pos hrsa).trans (if_pos hrsa)
    | rsaPublic hrsa => simp [SignatureScheme.rsa, hrsa]
    | curvePair => exact if_pos rfl
    | curvePublic => exact if_neg fun hne => hne rfl

theorem Key.isUnsupported_of_error {key : Key} {algorithm : SignatureAlgorithm} {forSigning : Bool}
    {fault : CryptoFault} (herror : key.signatureScheme algorithm forSigning = .error fault) :
    fault.isUnsupported = false := by
  rcases key.signatureScheme_cases algorithm forSigning with ⟨found, hfound, _⟩ |
    ⟨other, hother, hunsupported⟩
  · cases hfound.symm.trans herror
  · obtain rfl := Except.error.inj (hother.symm.trans herror)
    exact hunsupported

theorem SignatureAlgorithm.isUnsupported_of_error {name : String} {fault : CryptoFault}
    (herror : SignatureAlgorithm.ofName name = .error fault) : fault.isUnsupported = true := by
  unfold SignatureAlgorithm.ofName at herror
  split at herror
  · exact nomatch herror
  · obtain rfl := Except.error.inj herror
    rfl

theorem KeyAlgorithm.isUnsupported_of_error {name : String} {fault : CryptoFault}
    (herror : KeyAlgorithm.ofName name = .error fault) : fault.isUnsupported = true := by
  unfold KeyAlgorithm.ofName at herror
  split at herror
  · exact nomatch herror
  · obtain rfl := Except.error.inj herror
    rfl

theorem ContentAlgorithm.isUnsupported_of_error {name : String} {fault : CryptoFault}
    (herror : ContentAlgorithm.ofName name = .error fault) : fault.isUnsupported = true := by
  unfold ContentAlgorithm.ofName at herror
  split at herror
  · exact nomatch herror
  · obtain rfl := Except.error.inj herror
    rfl

/-- A key that gets no scheme under a known algorithm is unfit for it or of the wrong length. -/
theorem Key.isUnsupported_of_keyScheme_error {key : Key} {algorithm : KeyAlgorithm}
    {fault : CryptoFault} (herror : key.keyScheme algorithm = .error fault) :
    fault.isUnsupported = false := by
  have haes : ∀ {size : Nat} {bytes : Bytes}, algorithm.wrappingKeySize? = some size →
      KeyScheme.aes algorithm bytes = .error fault → fault.isUnsupported = false := by
    intro size bytes hsize hfails
    simp only [KeyScheme.aes, hsize] at hfails
    split at hfails
    · obtain rfl := Except.error.inj hfails
      rfl
    · exact nomatch hfails
  have hrsa : ∀ {privateKey : Option Rsa.PrivateKey} {publicKey : Rsa.PublicKey},
      (if algorithm.isRsa then KeyScheme.rsa algorithm privateKey publicKey
        else key.mismatch algorithm.name) = .error fault → fault.isUnsupported = false := by
    intro privateKey publicKey hfails
    by_cases hrsa : algorithm.isRsa = true
    · rw [if_pos hrsa, KeyScheme.rsa, if_pos hrsa] at hfails
      exact nomatch hfails
    · rw [if_neg hrsa] at hfails
      obtain rfl := Except.error.inj hfails
      rfl
  unfold Key.keyScheme at herror
  cases hmaterial : key.material with
  | secret bytes =>
      rw [hmaterial] at herror
      cases algorithm with
      | a128kw => exact haes rfl herror
      | a256kw => exact haes rfl herror
      | direct => exact nomatch herror
      | rsaOaep => exact Except.error.inj herror ▸ rfl
      | rsaOaep256 => exact Except.error.inj herror ▸ rfl
      | rsa15 => exact Except.error.inj herror ▸ rfl
  | rsaPair pair =>
      rw [hmaterial] at herror
      exact hrsa herror
  | rsaPublic publicKey =>
      rw [hmaterial] at herror
      exact hrsa herror
  | curvePair curve pair =>
      rw [hmaterial] at herror
      exact Except.error.inj herror ▸ rfl
  | curvePublic curve publicKey =>
      rw [hmaterial] at herror
      exact Except.error.inj herror ▸ rfl

theorem ContentCipher.exists_ofAlgorithm (algorithm : ContentAlgorithm) :
    ∃ cipher, ContentCipher.ofAlgorithm algorithm = .ok cipher := by
  cases algorithm with
  | a128gcm => exact ⟨_, rfl⟩
  | a256gcm => exact ⟨_, rfl⟩
  | a128cbcHs256 => exact ⟨_, rfl⟩
  | a256cbcHs512 => exact ⟨_, rfl⟩

theorem Key.supportsSignature_of_scheme {key : Key} {algorithm : SignatureAlgorithm}
    {forSigning : Bool} {scheme : SignatureScheme}
    (hscheme : key.signatureScheme algorithm forSigning = .ok scheme) :
    key.supportsSignature algorithm = true := by
  have hserves := Key.signatureScheme_eq_ok.1 hscheme
  unfold Key.supportsSignature
  generalize key.material = material at hserves ⊢
  cases hserves with
  | secret hsymmetric hsize => simpa [hsymmetric] using hsize
  | rsaPair hrsa => exact hrsa
  | rsaPublic hrsa => exact hrsa
  | @curvePair curve key => cases curve <;> rfl
  | @curvePublic curve key => cases curve <;> rfl

namespace CryptoSuite

theorem standard_signature_eq_ok {key : Key} {name : String} {forSigning : Bool}
    {scheme : SignatureScheme}
    (hanswer : ((standard.signature key name forSigning).run ()).1 = .ok scheme) :
    ∃ algorithm : SignatureAlgorithm, name = algorithm.name ∧
      key.signatureScheme algorithm forSigning = .ok scheme := by
  obtain ⟨algorithm, hname, hscheme⟩ := except_bind_eq_ok.1 hanswer
  exact ⟨algorithm, SignatureAlgorithm.name_of_ofName hname, hscheme⟩

theorem standard_signature_name (key : Key) (algorithm : SignatureAlgorithm)
    (forSigning : Bool) :
    ((standard.signature key algorithm.name forSigning).run ()).1 =
      key.signatureScheme algorithm forSigning := by
  change (SignatureAlgorithm.ofName algorithm.name >>= fun found =>
    key.signatureScheme found forSigning) = _
  rw [SignatureAlgorithm.ofName_name]
  rfl

theorem standard_keyManagement_eq_ok {key : Key} {name : String} {scheme : KeyScheme}
    (hanswer : ((standard.keyManagement key name).run ()).1 = .ok scheme) :
    ∃ algorithm : KeyAlgorithm, name = algorithm.name ∧ key.keyScheme algorithm = .ok scheme := by
  obtain ⟨algorithm, hname, hscheme⟩ := except_bind_eq_ok.1 hanswer
  exact ⟨algorithm, KeyAlgorithm.name_of_ofName hname, hscheme⟩

theorem standard_content_eq_ok {name : String} {cipher : ContentCipher}
    (hanswer : ((standard.content name).run ()).1 = .ok cipher) :
    ∃ algorithm : ContentAlgorithm, name = algorithm.name ∧
      ContentCipher.ofAlgorithm algorithm = .ok cipher := by
  obtain ⟨algorithm, hname, hcipher⟩ := except_bind_eq_ok.1 hanswer
  exact ⟨algorithm, ContentAlgorithm.name_of_ofName hname, hcipher⟩

theorem standard_keyManagement_name (key : Key) (algorithm : KeyAlgorithm) :
    ((standard.keyManagement key algorithm.name).run ()).1 = key.keyScheme algorithm := by
  change (KeyAlgorithm.ofName algorithm.name >>= fun found => key.keyScheme found) = _
  rw [KeyAlgorithm.ofName_name]
  rfl

theorem standard_content_name (algorithm : ContentAlgorithm) :
    ((standard.content algorithm.name).run ()).1 = ContentCipher.ofAlgorithm algorithm := by
  change (ContentAlgorithm.ofName algorithm.name >>= fun found =>
    ContentCipher.ofAlgorithm found) = _
  rw [ContentAlgorithm.ofName_name]
  rfl

end CryptoSuite

end SecurityToken
