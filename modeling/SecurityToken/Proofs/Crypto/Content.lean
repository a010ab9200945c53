import SecurityToken.Crypto.Content
import SecurityToken.Proofs.Basic
import SecurityToken.Proofs.Crypto.Digest

/-!
# How long what is sealed is

A content cipher gives the initialization vector and the tag the sizes of its algorithm, and the
ciphertext is as long as the plaintext, or filled up to whole blocks. None of them is empty where the
plaintext is not; the reader of encrypted tokens asks for no more.
-/

namespace SecurityToken

namespace Gcm

theorem length_keystream (cipher : BlockCipher) (iv : Bytes) (length : Nat) :
    (keystream cipher iv length).length = length := by
  have hblocks : length ≤ (length + 15) / 16 * 16 := by omega
  rw [keystream, List.length_take, Bytes.length_flatMap fun _ => Block.length_bytes _,
    List.length_range, Nat.min_eq_left hblocks]

theorem length_combine (cipher : BlockCipher) (iv message : Bytes) :
    (combine cipher iv message).length = message.length := by
  simp [combine, Bytes.xor, length_keystream]

end Gcm

namespace Cbc

theorem length_encryptBlocks (cipher : BlockCipher) (previous : Block) (blocks : List Block) :
    (encryptBlocks cipher previous blocks).length = blocks.length := by
  induction blocks generalizing previous with
  | nil => rfl
  | cons block rest ih => simp only [encryptBlocks, List.length_cons, ih]

theorem length_pad (message : Bytes) : (pad message).length = (message.length / 16 + 1) * 16 := by
  simp only [pad, padLength, List.length_append, List.length_replicate]
  omega

/-- A whole block of padding comes behind a message of whole blocks. -/
theorem length_encrypt (cipher : BlockCipher) (iv : Block) (message : Bytes) :
    (encrypt cipher iv message).length = (message.length / 16 + 1) * 16 := by
  have hsplit := Block.flatMap_bytes_split (pad message) (length_pad_mod message)
  rw [encrypt, Bytes.length_flatMap Block.length_bytes, length_encryptBlocks,
    ← Bytes.length_flatMap Block.length_bytes, hsplit, length_pad]

theorem encrypt_ne_nil (cipher : BlockCipher) (iv : Block) (message : Bytes) :
    encrypt cipher iv message ≠ [] := by
  rw [← List.length_pos_iff, length_encrypt]
  exact Nat.mul_pos (Nat.succ_pos _) (by decide)

end Cbc

/-- Whether all parts that the reader wants filled are. -/
structure Sealing.Filled (sealing : Sealing) : Prop where
  iv : sealing.iv ≠ []
  ciphertext : sealing.ciphertext ≠ []
  tag : sealing.tag ≠ []

namespace ContentCipher

theorem iv_ne_nil (algorithm : ContentAlgorithm) (entropy : Entropy) :
    entropy.bytes .iv algorithm.ivSize ≠ [] := by
  rw [← List.length_pos_iff, Entropy.length_bytes]
  cases algorithm <;> decide

theorem filled_of_encryptWith {algorithm : ContentAlgorithm} {made : Bytes → Sealing}
    {entropy : Entropy} {key : Bytes} {sealing : Sealing}
    (hmade : ∀ iv, (made iv).iv = iv ∧ (made iv).ciphertext ≠ [] ∧ (made iv).tag ≠ [])
    (hencrypt : encryptWith algorithm made entropy key = .ok sealing) : sealing.Filled := by
  unfold encryptWith at hencrypt
  split at hencrypt
  · obtain rfl := Except.ok.inj hencrypt
    obtain ⟨hiv, hciphertext, htag⟩ := hmade (entropy.bytes .iv algorithm.ivSize)
    exact ⟨hiv.symm ▸ iv_ne_nil algorithm entropy, hciphertext, htag⟩
  · cases hencrypt

theorem Galois.encrypt_eq_ok {algorithm : ContentAlgorithm} {entropy : Entropy}
    {plaintext associated key : Bytes} {sealing : Sealing} :
    encrypt algorithm entropy plaintext associated key = .ok sealing ↔
      encryptWith algorithm (sealWith plaintext associated key) entropy key = .ok sealing ∧
        Gcm.admits associated plaintext = true := by
  unfold encrypt
  rw [except_bind_eq_ok]
  by_cases hadmits : Gcm.admits associated plaintext = true
  · simp [hadmits]
  · simp [hadmits]

theorem Galois.length_tag {algorithm : ContentAlgorithm} (hdigest : algorithm.tagDigest? = none)
    (plaintext associated key iv : Bytes) :
    (sealWith plaintext associated key iv).tag.length = algorithm.tagSize := by
  have htag : (sealWith plaintext associated key iv).tag.length = 16 := Bytes.length_ofNat 16 _
  cases algorithm with
  | a128gcm | a256gcm => exact htag
  | a128cbcHs256 | a256cbcHs512 => cases hdigest

theorem Composite.length_tag {algorithm : ContentAlgorithm} {digest : Digest}
    (hdigest : algorithm.tagDigest? = some digest) (associated iv ciphertext key : Bytes) :
    (tag algorithm digest associated iv ciphertext key).length = algorithm.tagSize := by
  have hsize : algorithm.tagSize ≤ digest.size := by
    cases algorithm <;> cases hdigest <;> decide
  rw [tag, List.length_take, Digest.length_hmac, Nat.min_eq_left hsize]

theorem tagSize_pos (algorithm : ContentAlgorithm) : 0 < algorithm.tagSize := by
  cases algorithm <;> decide

variable {algorithm : ContentAlgorithm} {cipher : ContentCipher}

/-- A content cipher is of one of two sorts, and its algorithm says which. -/
theorem ofAlgorithm_eq_ok (hcipher : ofAlgorithm algorithm = .ok cipher) :
    (algorithm.tagDigest? = none ∧ cipher = {
      algorithm := algorithm.name
      keySize := algorithm.keySize
      encrypt := Galois.encrypt algorithm
      decrypt := fun sealing associated key =>
        authenticated (Galois.open? algorithm sealing associated key) }) ∨
    ∃ digest, algorithm.tagDigest? = some digest ∧ cipher = {
      algorithm := algorithm.name
      keySize := algorithm.keySize
      encrypt := fun entropy plaintext associated key =>
        encryptWith algorithm (Composite.sealWith algorithm digest plaintext associated key)
          entropy key
      decrypt := fun sealing associated key =>
        authenticated (Composite.open? algorithm digest sealing associated key) } := by
  unfold ofAlgorithm at hcipher
  split at hcipher
  next hnone =>
    unfold galois at hcipher
    rw [hnone] at hcipher
    exact .inl ⟨hnone, (Except.ok.inj hcipher).symm⟩
  next digest hdigest =>
    unfold composite at hcipher
    rw [hdigest] at hcipher
    exact .inr ⟨digest, hdigest, (Except.ok.inj hcipher).symm⟩

theorem encrypt_filled (hcipher : ofAlgorithm algorithm = .ok cipher) {entropy : Entropy}
    {plaintext associated key : Bytes} (hplaintext : plaintext ≠ []) {sealing : Sealing}
    (hencrypt : cipher.encrypt entropy plaintext associated key = .ok sealing) :
    sealing.Filled := by
  have htag : ∀ {tag : Bytes}, tag.length = algorithm.tagSize → tag ≠ [] := by
    intro tag hlength
    exact List.length_pos_iff.1 (hlength ▸ tagSize_pos algorithm)
  rcases ofAlgorithm_eq_ok hcipher with ⟨hnone, rfl⟩ | ⟨digest, hdigest, rfl⟩
  · refine filled_of_encryptWith (fun iv => ⟨rfl, ?_, htag (Galois.length_tag hnone _ _ _ _)⟩)
      (Galois.encrypt_eq_ok.1 hencrypt).1
    rw [← List.length_pos_iff] at hplaintext ⊢
    exact Nat.lt_of_lt_of_eq hplaintext (Gcm.length_combine _ _ _).symm
  · exact filled_of_encryptWith (fun iv => ⟨rfl, Cbc.encrypt_ne_nil _ _ _,
      htag (Composite.length_tag hdigest _ _ _ _)⟩) hencrypt

end ContentCipher

end SecurityToken
