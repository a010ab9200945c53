import SecurityToken.Crypto.Algorithm
import SecurityToken.Crypto.Curve.Signature
import SecurityToken.Crypto.Rsa.Signature
import SecurityToken.Crypto.Scheme

/-!
The signature schemes: keyed digests, RSA, and elliptic curves. A scheme that lacks the private half
of its key still verifies.
-/

namespace SecurityToken.SignatureScheme

def hmac (algorithm : SignatureAlgorithm) (secret : Bytes) : Except CryptoFault SignatureScheme :=
  if !algorithm.isSymmetric then .error (.unsupportedAlgorithm algorithm.name)
  else if 8 * secret.length < SignatureAlgorithm.minimumSecretBits then
    .error (.keyTooSmall SignatureAlgorithm.minimumSecretBits (8 * secret.length))
  else
    .ok {
      algorithm := algorithm.name
      sign := fun _ message => .ok (algorithm.digest.hmac secret message)
      verify := fun message signature => algorithm.digest.hmac secret message == signature }

def signRsa (algorithm : SignatureAlgorithm) (privateKey : Option Rsa.PrivateKey)
    (entropy : Entropy) (message : Bytes) : Except CryptoFault Bytes :=
  match privateKey with
  | none => .error .noPrivateKey
  | some key =>
      if algorithm.isProbabilistic then Rsa.Salted.sign algorithm.digest key entropy message
      else Rsa.Fixed.sign algorithm.digest key message

def verifyRsa (algorithm : SignatureAlgorithm) (key : Rsa.PublicKey) (message signature : Bytes) :
    Bool :=
  if algorithm.isProbabilistic then Rsa.Salted.verify algorithm.digest key message signature
  else Rsa.Fixed.verify algorithm.digest key message signature

def rsa (algorithm : SignatureAlgorithm) (privateKey : Option Rsa.PrivateKey)
    (publicKey : Rsa.PublicKey) : Except CryptoFault SignatureScheme :=
  if algorithm.isRsa then
    .ok {
      algorithm := algorithm.name
      sign := signRsa algorithm privateKey
      verify := verifyRsa algorithm publicKey }
  else .error (.unsupportedAlgorithm algorithm.name)

def curveAlgorithm : Curve → SignatureAlgorithm
  | .p256 => .es256
  | .p384 => .es384

def signCurve (curve : Curve) (privateKey : Option (Curve.PrivateKey curve)) (message : Bytes) :
    Except CryptoFault Bytes :=
  match privateKey with
  | none => .error .noPrivateKey
  | some key =>
      match curve.sign? key message with
      | some signature => .ok signature
      | none => .error (.signing "signature error")

def ofCurve (curve : Curve) (privateKey : Option (Curve.PrivateKey curve))
    (publicKey : Point curve) : SignatureScheme where
  algorithm := (curveAlgorithm curve).name
  sign := fun _ => signCurve curve privateKey
  verify := curve.verify publicKey

end SecurityToken.SignatureScheme
