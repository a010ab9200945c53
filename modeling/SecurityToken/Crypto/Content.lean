import SecurityToken.Crypto.Aes
import SecurityToken.Crypto.Algorithm
import SecurityToken.Crypto.Cbc
import SecurityToken.Crypto.Gcm
import SecurityToken.Crypto.Scheme

/-!
The content ciphers: AES in Galois/counter mode, and AES in block chaining with a keyed digest.
Whatever keeps a sealed content from being opened, the failure is the same.
-/

namespace SecurityToken.ContentCipher

def lengthsFit (algorithm : ContentAlgorithm) (sealing : Sealing) (key : Bytes) : Bool :=
  key.length == algorithm.keySize && sealing.iv.length == algorithm.ivSize &&
    sealing.tag.length == algorithm.tagSize

def encryptWith (algorithm : ContentAlgorithm) (sealing : (iv : Bytes) → Sealing)
    (entropy : Entropy) (key : Bytes) : Except CryptoFault Sealing :=
  if key.length = algorithm.keySize then .ok (sealing (entropy.bytes .iv algorithm.ivSize))
  else .error (.keyLength algorithm.keySize key.length)

def authenticated : Option Bytes → Except CryptoFault Bytes
  | some plaintext => .ok plaintext
  | none => .error .authentication

namespace Galois

def sealWith (plaintext associated key iv : Bytes) : Sealing :=
  let cipher := Aes.cipher key
  let ciphertext := Gcm.combine cipher iv plaintext
  ⟨ciphertext, iv, Gcm.tag cipher iv associated ciphertext⟩

def encrypt (algorithm : ContentAlgorithm) (entropy : Entropy) (plaintext associated key : Bytes) :
    Except CryptoFault Sealing := do
  let sealing ← encryptWith algorithm (sealWith plaintext associated key) entropy key
  if Gcm.admits associated plaintext then .ok sealing else .error (.encryption "aead::Error")

def open? (algorithm : ContentAlgorithm) (sealing : Sealing) (associated key : Bytes) :
    Option Bytes :=
  let cipher := Aes.cipher key
  if lengthsFit algorithm sealing key ∧ Gcm.admitsSealed associated sealing.ciphertext ∧
      Gcm.tag cipher sealing.iv associated sealing.ciphertext = sealing.tag then
    some (Gcm.combine cipher sealing.iv sealing.ciphertext)
  else none

end Galois

namespace Composite

def tagKey (key : Bytes) : Bytes := key.take (key.length / 2)

def cipherKey (key : Bytes) : Bytes := key.drop (key.length / 2)

/-- What the tag is computed over: the associated data, the initialization vector, the ciphertext,
and the length of the associated data in bits as a number of eight bytes. -/
def tagInput (associated iv ciphertext : Bytes) : Bytes :=
  associated ++ iv ++ ciphertext ++ Bytes.ofNat 8 (8 * associated.length)

def tag (algorithm : ContentAlgorithm) (digest : Digest) (associated iv ciphertext key : Bytes) :
    Bytes :=
  (digest.hmac (tagKey key) (tagInput associated iv ciphertext)).take algorithm.tagSize

def sealWith (algorithm : ContentAlgorithm) (digest : Digest)
    (plaintext associated key iv : Bytes) : Sealing :=
  let ciphertext := Cbc.encrypt (Aes.cipher (cipherKey key)) (Block.filled iv) plaintext
  ⟨ciphertext, iv, tag algorithm digest associated iv ciphertext key⟩

/-- The padding is looked at only when the tag is right. -/
def open? (algorithm : ContentAlgorithm) (digest : Digest) (sealing : Sealing)
    (associated key : Bytes) : Option Bytes :=
  if lengthsFit algorithm sealing key ∧ sealing.ciphertext ≠ [] ∧
      sealing.ciphertext.length % 16 = 0 ∧
      tag algorithm digest associated sealing.iv sealing.ciphertext key = sealing.tag then
    Cbc.decrypt? (Aes.cipher (cipherKey key)) (Block.filled sealing.iv) sealing.ciphertext
  else none

end Composite

/-- AES in Galois/counter mode, for an algorithm without a digest. -/
def galois (algorithm : ContentAlgorithm) : Except CryptoFault ContentCipher :=
  match algorithm.tagDigest? with
  | some _ => .error (.unsupportedAlgorithm algorithm.name)
  | none =>
      .ok {
        algorithm := algorithm.name
        keySize := algorithm.keySize
        encrypt := Galois.encrypt algorithm
        decrypt := fun sealing associated key =>
          authenticated (Galois.open? algorithm sealing associated key) }

/-- AES in block chaining with a keyed digest as the tag. -/
def composite (algorithm : ContentAlgorithm) : Except CryptoFault ContentCipher :=
  match algorithm.tagDigest? with
  | none => .error (.unsupportedAlgorithm algorithm.name)
  | some digest =>
      .ok {
        algorithm := algorithm.name
        keySize := algorithm.keySize
        encrypt := fun entropy plaintext associated key =>
          encryptWith algorithm (Composite.sealWith algorithm digest plaintext associated key)
            entropy key
        decrypt := fun sealing associated key =>
          authenticated (Composite.open? algorithm digest sealing associated key) }

def ofAlgorithm (algorithm : ContentAlgorithm) : Except CryptoFault ContentCipher :=
  match algorithm.tagDigest? with
  | none => galois algorithm
  | some _ => composite algorithm

end SecurityToken.ContentCipher
