import SecurityToken.Proofs.Crypto.Sealing

/-!
# What the tag of a composite cipher is computed over

The associated data, the initialization vector and the ciphertext stand one behind the other with
nothing between them. The number at the end tells how long the first of them is, the second has a
fixed length, and the third is what remains, so that no byte can pass from one to another unnoticed.
A sealing is opened only under the tag that is computed over it.
-/

namespace SecurityToken

namespace ContentCipher

namespace Composite

variable {associated associated' iv iv' ciphertext ciphertext' message : Bytes}

/-- Whether a message is laid out as three parts and the length of the first of them in bits, written
in eight bytes with the most significant one in front. -/
def LaysOut (message associated iv ciphertext : Bytes) : Prop :=
  ∃ count, message = associated ++ iv ++ ciphertext ++ count ∧ count.length = 8 ∧
    count.toNat = 8 * associated.length

/-- The number has room for the length of what is shorter than two to the sixty-one bytes. -/
theorem laysOut_tagInput (hlength : associated.length < 2 ^ 61) :
    LaysOut (tagInput associated iv ciphertext) associated iv ciphertext := by
  have hroom : 8 * associated.length < 256 ^ 8 := by
    calc 8 * associated.length < 8 * 2 ^ 61 := Nat.mul_lt_mul_of_pos_left hlength (by decide)
      _ = 256 ^ 8 := by norm_num
  exact ⟨_, rfl, Bytes.length_ofNat 8 _, Bytes.toNat_ofNat_of_lt hroom⟩

/-- A layout is read from its end: the number first, then the parts by their lengths. -/
theorem LaysOut.parts_eq (hlayout : LaysOut message associated iv ciphertext)
    (hlayout' : LaysOut message associated' iv' ciphertext') (hiv : iv.length = iv'.length) :
    associated = associated' ∧ iv = iv' ∧ ciphertext = ciphertext' := by
  obtain ⟨count, rfl, hsize, hvalue⟩ := hlayout
  obtain ⟨count', heq, hsize', hvalue'⟩ := hlayout'
  obtain ⟨hparts, rfl⟩ := List.append_inj' heq (hsize.trans hsize'.symm)
  have hlength : associated.length = associated'.length := by omega
  rw [List.append_assoc, List.append_assoc] at hparts
  obtain ⟨hassociated, hrest⟩ := List.append_inj hparts hlength
  exact ⟨hassociated, List.append_inj hrest hiv⟩

variable {algorithm : ContentAlgorithm} {digest : Digest} {sealing : Sealing}
  {key plaintext : Bytes}

theorem open?_eq_some :
    open? algorithm digest sealing associated key = some plaintext ↔
      (key.length = algorithm.keySize ∧ sealing.iv.length = algorithm.ivSize ∧
        sealing.tag.length = algorithm.tagSize) ∧
      sealing.ciphertext ≠ [] ∧ sealing.ciphertext.length % 16 = 0 ∧
      tag algorithm digest associated sealing.iv sealing.ciphertext key = sealing.tag ∧
      Cbc.decrypt? (Aes.cipher (cipherKey key)) (Block.filled sealing.iv) sealing.ciphertext =
        some plaintext := by
  unfold open?
  rw [Option.ite_none_right_eq_some, lengthsFit_iff]
  simp only [and_assoc]

theorem tagSize_eq (hdigest : algorithm.tagDigest? = some digest) :
    algorithm.tagSize = digest.size / 2 := by
  cases algorithm <;> cases hdigest <;> rfl

theorem ivSize_eq (hdigest : algorithm.tagDigest? = some digest) : algorithm.ivSize = 16 := by
  cases algorithm <;> cases hdigest <;> rfl

end Composite

/-- What is known of a sealing that was opened: its tag is the front half of the keyed digest of its
layout, under the front half of the key, and its ciphertext is made of whole blocks. -/
structure Opened (digest : Digest) (sealing : Sealing) (associated key : Bytes) : Prop where
  iv : sealing.iv.length = 16
  ciphertext : sealing.ciphertext ≠ [] ∧ 16 ∣ sealing.ciphertext.length
  tagLength : sealing.tag.length = digest.size / 2
  tag : sealing.tag = (digest.hmac (key.take (key.length / 2))
    (Composite.tagInput associated sealing.iv sealing.ciphertext)).take (digest.size / 2)

variable {algorithm : ContentAlgorithm} {digest : Digest} {cipher : ContentCipher}

theorem opened_of_decrypt (hdigest : algorithm.tagDigest? = some digest)
    (hcipher : composite algorithm = .ok cipher) {sealing : Sealing}
    {associated key plaintext : Bytes}
    (hopen : cipher.decrypt sealing associated key = .ok plaintext) :
    Opened digest sealing associated key := by
  unfold composite at hcipher
  rw [hdigest] at hcipher
  obtain rfl := Except.ok.inj hcipher
  obtain ⟨⟨-, hiv, htagSize⟩, hblocks, hwhole, htag, -⟩ :=
    Composite.open?_eq_some.1 (authenticated_eq_ok.1 hopen)
  rw [Composite.ivSize_eq hdigest] at hiv
  rw [Composite.tagSize_eq hdigest] at htagSize
  rw [Composite.tag, Composite.tagSize_eq hdigest] at htag
  exact ⟨hiv, ⟨hblocks, Nat.dvd_of_mod_eq_zero hwhole⟩, htagSize, htag.symm⟩

/-- What the tag is computed over gives the associated data, the initialization vector and the
ciphertext, and nothing is opened but under the tag that is computed over it. -/
theorem composite_authenticates (hdigest : algorithm.tagDigest? = some digest)
    (hcipher : composite algorithm = .ok cipher) :
    (∀ associated iv ciphertext : Bytes, associated.length < 2 ^ 61 →
      Composite.LaysOut (Composite.tagInput associated iv ciphertext) associated iv ciphertext) ∧
    (∀ associated associated' iv iv' ciphertext ciphertext' : Bytes,
      associated.length < 2 ^ 61 → associated'.length < 2 ^ 61 → iv.length = 16 →
      iv'.length = 16 →
      Composite.tagInput associated iv ciphertext =
        Composite.tagInput associated' iv' ciphertext' →
      associated = associated' ∧ iv = iv' ∧ ciphertext = ciphertext') ∧
    ∀ sealing associated key plaintext, cipher.decrypt sealing associated key = .ok plaintext →
      Opened digest sealing associated key := by
  refine ⟨fun _ _ _ => Composite.laysOut_tagInput, ?_, ?_⟩
  · intro associated associated' iv iv' ciphertext ciphertext' hlength hlength' hiv hiv' hsame
    have hlayout : Composite.LaysOut (Composite.tagInput associated iv ciphertext) associated iv
        ciphertext := Composite.laysOut_tagInput hlength
    rw [hsame] at hlayout
    exact hlayout.parts_eq (Composite.laysOut_tagInput hlength') (hiv.trans hiv'.symm)
  · intro sealing associated key plaintext hopen
    exact opened_of_decrypt hdigest hcipher hopen

/-! ### A byte on the border -/

def zeroIv : Bytes := List.replicate 16 0

def borderKey : Bytes := List.replicate 32 1

def borderSealing : Sealing :=
  Composite.sealWith .a128cbcHs256 .sha256 [2, 3] [1] borderKey zeroIv

/-- A zero in front of an initialization vector of zeros may as well be the last byte of the
associated data or, behind it, the first of the ciphertext. What the tag is computed over tells. -/
theorem composite_authenticates_borderSealing :
    ∃ cipher, composite .a128cbcHs256 = .ok cipher ∧
      cipher.decrypt borderSealing [1] borderKey = .ok [2, 3] ∧
      Opened .sha256 borderSealing [1] borderKey ∧
      [1, 0] ++ zeroIv ++ borderSealing.ciphertext =
        [1] ++ zeroIv ++ (0 :: borderSealing.ciphertext) ∧
      Composite.tagInput [1, 0] zeroIv borderSealing.ciphertext ≠
        Composite.tagInput [1] zeroIv (0 :: borderSealing.ciphertext) := by
  obtain ⟨cipher, hcipher⟩ : ∃ cipher, composite .a128cbcHs256 = .ok cipher := ⟨_, rfl⟩
  have hdigest : ContentAlgorithm.tagDigest? .a128cbcHs256 = some .sha256 := rfl
  obtain ⟨-, hunambiguous, hopened⟩ := composite_authenticates hdigest hcipher
  have hopen : cipher.decrypt borderSealing [1] borderKey = .ok [2, 3] := by
    obtain rfl := Except.ok.inj hcipher
    exact authenticated_eq_ok.2 (Composite.open?_sealWith hdigest rfl rfl)
  refine ⟨cipher, hcipher, hopen, hopened _ _ _ _ hopen, rfl, fun hsame => ?_⟩
  obtain ⟨hassociated, -, -⟩ :=
    hunambiguous _ _ _ _ _ _ (by decide) (by decide) rfl rfl hsame
  exact nomatch hassociated

end ContentCipher

end SecurityToken
