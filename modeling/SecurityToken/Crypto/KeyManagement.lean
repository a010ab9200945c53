import SecurityToken.Crypto.Aes
import SecurityToken.Crypto.Algorithm
import SecurityToken.Crypto.KeyWrap
import SecurityToken.Crypto.Rsa.Encryption
import SecurityToken.Crypto.Scheme

/-!
The schemes that bring a content key to its recipient: encrypted with RSA, wrapped with AES, or
agreed on beforehand. Whatever keeps a key from being unwrapped, the failure is the same.
-/

namespace SecurityToken.KeyScheme

def unwrapped : Option Bytes → Except CryptoFault Bytes
  | some key => .ok key
  | none => .error .unwrapping

def wrapRsa (algorithm : KeyAlgorithm) (key : Rsa.PublicKey) (entropy : Entropy)
    (contentKey : Bytes) : Except CryptoFault Bytes :=
  match algorithm with
  | .rsaOaep => Rsa.Masked.encrypt .sha1 key entropy contentKey
  | .rsaOaep256 => Rsa.Masked.encrypt .sha256 key entropy contentKey
  | _ => Rsa.Plain.encrypt key entropy contentKey

def unwrapRsa? (algorithm : KeyAlgorithm) (key : Rsa.PrivateKey) (wrapped : Bytes) : Option Bytes :=
  match algorithm with
  | .rsaOaep => Rsa.Masked.decrypt? .sha1 key wrapped
  | .rsaOaep256 => Rsa.Masked.decrypt? .sha256 key wrapped
  | _ => Rsa.Plain.decrypt? key wrapped

def rsa (algorithm : KeyAlgorithm) (privateKey : Option Rsa.PrivateKey)
    (publicKey : Rsa.PublicKey) : Except CryptoFault KeyScheme :=
  if algorithm.isRsa then
    .ok {
      algorithm := algorithm.name
      wrap := wrapRsa algorithm publicKey
      unwrap := fun wrapped =>
        unwrapped (privateKey.bind fun key => unwrapRsa? algorithm key wrapped)
      ownKey := none }
  else .error (.unsupportedAlgorithm algorithm.name)

def wrapAes (cipher : BlockCipher) (contentKey : Bytes) : Except CryptoFault Bytes :=
  if KeyWrap.fits contentKey then .ok (KeyWrap.wrap cipher contentKey)
  else
    .error (.wrapping
      ("key length " ++ toString contentKey.length ++ " is not a multiple of 64 bits"))

def aes (algorithm : KeyAlgorithm) (wrappingKey : Bytes) : Except CryptoFault KeyScheme :=
  match algorithm.wrappingKeySize? with
  | none => .error (.unsupportedAlgorithm algorithm.name)
  | some size =>
      if wrappingKey.length ≠ size then .error (.keyLength size wrappingKey.length)
      else
        .ok {
          algorithm := algorithm.name
          wrap := fun _ => wrapAes (Aes.cipher wrappingKey)
          unwrap := fun wrapped => unwrapped (KeyWrap.unwrap? (Aes.cipher wrappingKey) wrapped)
          ownKey := none }

/-- The shared key is itself the content key, and nothing is sent in its place. -/
def direct (key : Bytes) : KeyScheme where
  algorithm := KeyAlgorithm.direct.name
  wrap := fun _ _ => .ok []
  unwrap := fun wrapped => if wrapped.isEmpty then .ok key else .error .unwrapping
  ownKey := some key

end SecurityToken.KeyScheme
