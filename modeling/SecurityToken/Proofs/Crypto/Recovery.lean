import SecurityToken.Crypto.Suite.Standard
import SecurityToken.Proofs.Crypto.Content
import SecurityToken.Proofs.Crypto.Number
import SecurityToken.Proofs.Crypto.Signature
import SecurityToken.Proofs.Crypto.Wrapping

/-!
# What was sealed is opened again

A content cipher opens what it sealed, since the lengths are those that it asks for, the tag is
computed anew over the same bytes, and the block cipher is undone. A key scheme gives back the
content key that it wrapped: pass by pass with AES, and as it is where the key was agreed on
beforehand. With RSA it is so as far as the private operation undoes the public one.
-/

namespace SecurityToken

/-! ### Sealed content -/

theorem Gcm.combine_combine (cipher : BlockCipher) (iv message : Bytes) :
    combine cipher iv (combine cipher iv message) = message := by
  have hlength := length_combine cipher iv message
  unfold combine at hlength ⊢
  rw [hlength, Bytes.xor_xor_cancel (Nat.le_of_eq (length_keystream cipher iv _).symm)]

theorem Gcm.admitsSealed_combine (cipher : BlockCipher) (iv : Bytes) {associated message : Bytes}
    (hadmits : admits associated message = true) :
    admitsSealed associated (combine cipher iv message) = true := by
  obtain ⟨hmessage, hassociated⟩ := Bool.and_eq_true_iff.1 hadmits
  refine Bool.and_eq_true_iff.2 ⟨decide_eq_true ?_, hassociated⟩
  rw [length_combine]
  exact Nat.le_add_right_of_le (of_decide_eq_true hmessage)

namespace ContentCipher

variable {algorithm : ContentAlgorithm} {entropy : Entropy} {plaintext associated key : Bytes}

theorem encryptWith_eq_ok {made : Bytes → Sealing} {sealing : Sealing} :
    encryptWith algorithm made entropy key = .ok sealing ↔
      key.length = algorithm.keySize ∧ made (entropy.bytes .iv algorithm.ivSize) = sealing := by
  unfold encryptWith
  split
  next hlength => simp [hlength]
  next hlength => simp [hlength]

theorem lengthsFit_iff {sealing : Sealing} :
    lengthsFit algorithm sealing key = true ↔
      key.length = algorithm.keySize ∧ sealing.iv.length = algorithm.ivSize ∧
        sealing.tag.length = algorithm.tagSize := by
  simp [lengthsFit, and_assoc]

theorem Galois.open?_sealWith (hdigest : algorithm.tagDigest? = none)
    (hadmits : Gcm.admits associated plaintext = true) (hkey : key.length = algorithm.keySize)
    {iv : Bytes} (hiv : iv.length = algorithm.ivSize) :
    open? algorithm (sealWith plaintext associated key iv) associated key = some plaintext := by
  have hfit : lengthsFit algorithm (sealWith plaintext associated key iv) key = true :=
    lengthsFit_iff.2 ⟨hkey, hiv, length_tag hdigest _ _ _ _⟩
  unfold open?
  rw [if_pos ⟨hfit, Gcm.admitsSealed_combine _ iv hadmits, rfl⟩]
  exact congrArg some (Gcm.combine_combine _ iv plaintext)

theorem Composite.open?_sealWith {digest : Digest} (hdigest : algorithm.tagDigest? = some digest)
    (hkey : key.length = algorithm.keySize) {iv : Bytes} (hiv : iv.length = algorithm.ivSize) :
    open? algorithm digest (sealWith algorithm digest plaintext associated key iv) associated key =
      some plaintext := by
  have hfit : lengthsFit algorithm (sealWith algorithm digest plaintext associated key iv) key =
      true :=
    lengthsFit_iff.2 ⟨hkey, hiv, length_tag hdigest _ _ _ _⟩
  have hwhole : (sealWith algorithm digest plaintext associated key iv).ciphertext.length % 16 =
      0 := by
    unfold sealWith
    rw [Cbc.length_encrypt, Nat.mul_mod_left]
  unfold open?
  rw [if_pos ⟨hfit, Cbc.encrypt_ne_nil _ _ _, hwhole, rfl⟩]
  exact Cbc.decrypt?_encrypt _ _ _

/-- A content cipher opens what it sealed. -/
theorem decrypt_encrypt {cipher : ContentCipher} (hcipher : ofAlgorithm algorithm = .ok cipher)
    {sealing : Sealing}
    (hencrypt : cipher.encrypt entropy plaintext associated key = .ok sealing) :
    cipher.decrypt sealing associated key = .ok plaintext := by
  have hiv := entropy.length_bytes .iv algorithm.ivSize
  rcases ofAlgorithm_eq_ok hcipher with ⟨hnone, rfl⟩ | ⟨digest, hdigest, rfl⟩
  · obtain ⟨hencrypt, hadmits⟩ := Galois.encrypt_eq_ok.1 hencrypt
    obtain ⟨hkey, rfl⟩ := encryptWith_eq_ok.1 hencrypt
    exact congrArg authenticated (Galois.open?_sealWith hnone hadmits hkey hiv)
  · obtain ⟨hkey, rfl⟩ := encryptWith_eq_ok.1 hencrypt
    exact congrArg authenticated (Composite.open?_sealWith hdigest hkey hiv)

end ContentCipher

/-! ### Content keys -/

/-- Whether a key opens what is sealed for another one: it is the same, or its private half. -/
structure Key.Opens (opener key : Key) : Prop where
  counterpart : key.Counterpart opener
  hasPrivate : opener.hasPrivate = true

/-- Whether what is wrapped for the public half of a key comes out again with the private one. -/
def Rsa.PrivateKey.Unwraps (pair : Rsa.PrivateKey) : Prop :=
  ∀ (algorithm : KeyAlgorithm) (entropy : Entropy) (contentKey wrapped : Bytes),
    KeyScheme.wrapRsa algorithm pair.publicKey entropy contentKey = .ok wrapped →
      KeyScheme.unwrapRsa? algorithm pair wrapped = some contentKey

namespace KeyScheme

variable {algorithm : KeyAlgorithm} {entropy : Entropy} {contentKey wrapped : Bytes}
  {scheme : KeyScheme}

theorem unwrap_of_aes {wrappingKey : Bytes} (hscheme : aes algorithm wrappingKey = .ok scheme)
    (hwrap : scheme.wrap entropy contentKey = .ok wrapped) :
    scheme.unwrap wrapped = .ok contentKey := by
  unfold aes at hscheme
  split at hscheme
  · cases hscheme
  split at hscheme
  · cases hscheme
  obtain rfl := Except.ok.inj hscheme
  exact unwrapped_iff_wrapAes.2 hwrap

theorem unwrap_of_rsa {pair : Rsa.PrivateKey} (hunwraps : pair.Unwraps)
    {own : Option Rsa.PrivateKey} (hscheme : rsa algorithm own pair.publicKey = .ok scheme)
    (hwrap : scheme.wrap entropy contentKey = .ok wrapped) :
    ∃ opening, rsa algorithm (some pair) pair.publicKey = .ok opening ∧
      opening.unwrap wrapped = .ok contentKey := by
  unfold rsa at hscheme ⊢
  split at hscheme
  next hrsa =>
    obtain rfl := Except.ok.inj hscheme
    rw [if_pos hrsa]
    exact ⟨_, rfl, congrArg unwrapped (hunwraps algorithm entropy contentKey wrapped hwrap)⟩
  next => cases hscheme

end KeyScheme

/-- A content key that was wrapped under a key comes out again under one that opens what is sealed
for it, be it drawn or agreed on beforehand. -/
theorem Key.Opens.unwrap_of_wrap {opener key : Key} (hopens : opener.Opens key)
    (hrsa : ∀ pair, opener.material = .rsaPair pair → pair.Unwraps) {algorithm : KeyAlgorithm}
    {scheme : KeyScheme} (hscheme : key.keyScheme algorithm = .ok scheme) {entropy : Entropy}
    {drawn wrapped : Bytes}
    (hwrap : scheme.wrap entropy (scheme.ownKey.getD drawn) = .ok wrapped) :
    ∃ opening, opener.keyScheme algorithm = .ok opening ∧
      opening.unwrap wrapped = .ok (scheme.ownKey.getD drawn) := by
  obtain ⟨hcounterpart, hprivate⟩ := hopens
  unfold Key.Counterpart at hcounterpart
  unfold Key.hasPrivate at hprivate
  unfold Key.keyScheme at hscheme ⊢
  cases hopener : opener.material with
  | secret bytes =>
      have hkey : key.material = .secret bytes := by
        rw [hopener] at hcounterpart
        exact hcounterpart.elim id id
      rw [hkey] at hscheme
      cases algorithm with
      | a128kw | a256kw => exact ⟨scheme, hscheme, KeyScheme.unwrap_of_aes hscheme hwrap⟩
      | direct =>
          obtain rfl := Except.ok.inj hscheme
          obtain rfl := Except.ok.inj hwrap
          exact ⟨_, rfl, rfl⟩
      | rsaOaep | rsaOaep256 | rsa15 => cases hscheme
  | rsaPair pair =>
      rw [hopener] at hcounterpart
      rcases hcounterpart with hkey | hkey <;>
      · rw [hkey] at hscheme
        simp only [KeyMaterial.toPublic] at hscheme
        split at hscheme
        next halgorithm =>
          simp only [halgorithm, if_true]
          exact KeyScheme.unwrap_of_rsa (hrsa pair hopener) hscheme hwrap
        next => cases hscheme
  | rsaPublic publicKey =>
      rw [hopener] at hprivate
      cases hprivate
  | curvePair curve pair =>
      rw [hopener] at hcounterpart
      rcases hcounterpart with hkey | hkey <;>
      · rw [hkey] at hscheme
        cases hscheme
  | curvePublic curve point =>
      rw [hopener] at hprivate
      cases hprivate

end SecurityToken
