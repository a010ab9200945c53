import SecurityToken.Crypto.Entropy
import SecurityToken.Crypto.Fault

/-!
What a key does under an algorithm: signing, managing content keys, and encrypting content. A scheme
is a record of functions, so that one from outside serves as well as a built-in one.
-/

namespace SecurityToken

structure SignatureScheme where
  algorithm : String
  sign : Entropy → Bytes → Except CryptoFault Bytes
  verify : Bytes → Bytes → Bool

structure KeyScheme where
  algorithm : String
  wrap : Entropy → Bytes → Except CryptoFault Bytes
  unwrap : Bytes → Except CryptoFault Bytes
  /-- The content key that the scheme fixes, if it does not leave it to the sender. -/
  ownKey : Option Bytes

structure Sealing where
  ciphertext : Bytes
  iv : Bytes
  tag : Bytes
  deriving DecidableEq, Repr

structure ContentCipher where
  algorithm : String
  keySize : Nat
  /-- Encrypts a plaintext and authenticates associated data with it. -/
  encrypt : Entropy → (plaintext associated key : Bytes) → Except CryptoFault Sealing
  decrypt : Sealing → (associated key : Bytes) → Except CryptoFault Bytes

end SecurityToken
