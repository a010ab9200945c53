import SecurityToken.Proofs.Crypto.Recovery
import SecurityToken.Proofs.Suite.Holder

/-!
# What a content cipher gives and takes

With a key of its size a content cipher seals every message that is not too long, and opens what it
sealed; with another key it seals nothing. Whatever it is given to open, it either opens it or says
that it is not authentic. Lengths are looked at before anything is made of the parts, so a part of
another size is no more than a forgery.
-/

namespace SecurityToken

namespace ContentAlgorithm

/-- How many bytes a message of so many bytes is sealed to: as many, or the next multiple of sixteen
above that. -/
def sealedLength (algorithm : ContentAlgorithm) (length : Nat) : Nat :=
  match algorithm.tagDigest? with
  | none => length
  | some _ => (length / 16 + 1) * 16

/-- Whether a message keeps to the limits of an algorithm. Only those without a digest have any. -/
def Admits (algorithm : ContentAlgorithm) (associated message : Bytes) : Prop :=
  algorithm.tagDigest? = none →
    message.length ≤ Gcm.maximumLength ∧ associated.length ≤ Gcm.maximumLength

end ContentAlgorithm

/-- Whether the parts of what was sealed have the sizes that an algorithm gives them. -/
structure Sealing.Sized (sealing : Sealing) (algorithm : ContentAlgorithm) (length : Nat) : Prop where
  iv : sealing.iv.length = algorithm.ivSize
  tag : sealing.tag.length = algorithm.tagSize
  ciphertext : sealing.ciphertext.length = algorithm.sealedLength length

/-- Whether a cipher does what is asked of an algorithm. -/
structure ContentCipher.Performs (cipher : ContentCipher) (algorithm : ContentAlgorithm) : Prop where
  recovers : ∀ entropy plaintext associated key, key.length = algorithm.keySize →
    algorithm.Admits associated plaintext →
    ∃ sealing, cipher.encrypt entropy plaintext associated key = .ok sealing ∧
      sealing.iv = entropy.bytes .iv algorithm.ivSize ∧ sealing.Sized algorithm plaintext.length ∧
      cipher.decrypt sealing associated key = .ok plaintext
  refuses : ∀ entropy plaintext associated key, key.length ≠ algorithm.keySize →
    cipher.encrypt entropy plaintext associated key =
      .error (.keyLength algorithm.keySize key.length)
  answers : ∀ sealing associated key,
    (∃ plaintext, cipher.decrypt sealing associated key = .ok plaintext) ∨
      cipher.decrypt sealing associated key = .error .authentication
  fits : ∀ sealing associated key plaintext,
    cipher.decrypt sealing associated key = .ok plaintext →
      key.length = algorithm.keySize ∧ sealing.iv.length = algorithm.ivSize ∧
        sealing.tag.length = algorithm.tagSize

namespace ContentCipher

variable {algorithm : ContentAlgorithm} {entropy : Entropy} {plaintext associated key : Bytes}

theorem authenticated_eq_ok {opened : Option Bytes} :
    authenticated opened = .ok plaintext ↔ opened = some plaintext := by
  cases opened with
  | none => simp [authenticated]
  | some other => simp [authenticated]

theorem authenticated_cases (opened : Option Bytes) :
    (∃ plaintext, authenticated opened = .ok plaintext) ∨
      authenticated opened = .error .authentication := by
  cases opened with
  | none => exact .inr rfl
  | some plaintext => exact .inl ⟨plaintext, rfl⟩

theorem encryptWith_of_ne (made : Bytes → Sealing) (hkey : key.length ≠ algorithm.keySize) :
    encryptWith algorithm made entropy key = .error (.keyLength algorithm.keySize key.length) :=
  if_neg hkey

namespace Galois

theorem sized_sealWith (hdigest : algorithm.tagDigest? = none) {iv : Bytes}
    (hiv : iv.length = algorithm.ivSize) :
    (sealWith plaintext associated key iv).Sized algorithm plaintext.length where
  iv := hiv
  tag := length_tag hdigest _ _ _ _
  ciphertext := by
    rw [ContentAlgorithm.sealedLength, hdigest]
    exact Gcm.length_combine _ _ _

theorem encrypt_of_ne (hkey : key.length ≠ algorithm.keySize) :
    encrypt algorithm entropy plaintext associated key =
      .error (.keyLength algorithm.keySize key.length) := by
  unfold encrypt
  rw [encryptWith_of_ne _ hkey]
  rfl

theorem lengthsFit_of_open? {sealing : Sealing}
    (hopen : open? algorithm sealing associated key = some plaintext) :
    lengthsFit algorithm sealing key = true := by
  dsimp only [open?] at hopen
  split at hopen
  next hall => exact hall.1
  next => exact nomatch hopen

end Galois

namespace Composite

theorem sized_sealWith {digest : Digest} (hdigest : algorithm.tagDigest? = some digest) {iv : Bytes}
    (hiv : iv.length = algorithm.ivSize) :
    (sealWith algorithm digest plaintext associated key iv).Sized algorithm plaintext.length where
  iv := hiv
  tag := length_tag hdigest _ _ _ _
  ciphertext := by
    rw [ContentAlgorithm.sealedLength, hdigest]
    exact Cbc.length_encrypt _ _ _

theorem lengthsFit_of_open? {digest : Digest} {sealing : Sealing}
    (hopen : open? algorithm digest sealing associated key = some plaintext) :
    lengthsFit algorithm sealing key = true := by
  unfold open? at hopen
  split at hopen
  next hall => exact hall.1
  next => exact nomatch hopen

end Composite

theorem performs {cipher : ContentCipher} (hcipher : ofAlgorithm algorithm = .ok cipher) :
    cipher.Performs algorithm := by
  have hround : ∀ {entropy plaintext associated key sealing},
      cipher.encrypt entropy plaintext associated key = .ok sealing →
        cipher.decrypt sealing associated key = .ok plaintext := decrypt_encrypt hcipher
  have hiv : ∀ entropy : Entropy, (entropy.bytes .iv algorithm.ivSize).length = algorithm.ivSize :=
    fun entropy => entropy.length_bytes .iv algorithm.ivSize
  rcases ofAlgorithm_eq_ok hcipher with ⟨hnone, rfl⟩ | ⟨digest, hdigest, rfl⟩
  · refine ⟨fun entropy plaintext associated key hkey hadmits => ?_,
      fun _ _ _ _ => Galois.encrypt_of_ne, fun _ _ _ => authenticated_cases _,
      fun sealing associated key plaintext hopen => ?_⟩
    · obtain ⟨hmessage, hassociated⟩ := hadmits hnone
      have hadmitted : Gcm.admits associated plaintext = true :=
        Bool.and_eq_true_iff.2 ⟨decide_eq_true hmessage, decide_eq_true hassociated⟩
      have hencrypt : Galois.encrypt algorithm entropy plaintext associated key =
          .ok (Galois.sealWith plaintext associated key (entropy.bytes .iv algorithm.ivSize)) :=
        Galois.encrypt_eq_ok.2 ⟨encryptWith_eq_ok.2 ⟨hkey, rfl⟩, hadmitted⟩
      exact ⟨_, hencrypt, rfl, Galois.sized_sealWith hnone (hiv entropy), hround hencrypt⟩
    · exact lengthsFit_iff.1 (Galois.lengthsFit_of_open? (authenticated_eq_ok.1 hopen))
  · refine ⟨fun entropy plaintext associated key hkey _ => ?_,
      fun _ _ _ _ => encryptWith_of_ne _, fun _ _ _ => authenticated_cases _,
      fun sealing associated key plaintext hopen => ?_⟩
    · have hencrypt : encryptWith algorithm
            (Composite.sealWith algorithm digest plaintext associated key) entropy key =
          .ok (Composite.sealWith algorithm digest plaintext associated key
            (entropy.bytes .iv algorithm.ivSize)) :=
        encryptWith_eq_ok.2 ⟨hkey, rfl⟩
      exact ⟨_, hencrypt, rfl, Composite.sized_sealWith hdigest (hiv entropy), hround hencrypt⟩
    · exact lengthsFit_iff.1 (Composite.lengthsFit_of_open? (authenticated_eq_ok.1 hopen))

end ContentCipher

/-- Whatever was asked of a suite before, the cipher that it serves under the name of an algorithm
opens what it seals, and does what else is asked of the algorithm. -/
theorem Holder.ciphers_perform (events : List KeyEvent) (algorithm : ContentAlgorithm) :
    ∃ cipher, ((empty.after events).ask (.cipher algorithm.name)).1 = .ok (.cipher cipher) ∧
      cipher.Performs algorithm := by
  obtain ⟨ring, hsound⟩ := sound_after (sound_empty fun _ => .secret []) events
  obtain ⟨cipher, hcipher⟩ := ContentCipher.exists_ofAlgorithm algorithm
  have hanswer := (hsound.faithful.content algorithm.name).1
  rw [CryptoSuite.standard_content_name, hcipher] at hanswer
  exact ⟨cipher, congrArg (Except.map Served.cipher) hanswer, ContentCipher.performs hcipher⟩

end SecurityToken
