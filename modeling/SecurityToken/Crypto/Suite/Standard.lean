import SecurityToken.Crypto.Content
import SecurityToken.Crypto.KeyManagement
import SecurityToken.Crypto.Signature
import SecurityToken.Crypto.Suite.Basic

/-!
The standard suite: what each kind of key does under each algorithm. A name that no algorithm has is
unsupported whatever the key; a known algorithm on an unfit key fails otherwise.
-/

namespace SecurityToken

namespace Key

def mismatch {α : Type} (key : Key) (algorithm : String) : Except CryptoFault α :=
  .error (.keyMismatch key.handle algorithm)

/-- The scheme of a key under a signature algorithm. A scheme that only verifies does without the
private half. -/
def signatureScheme (key : Key) (algorithm : SignatureAlgorithm) (forSigning : Bool) :
    Except CryptoFault SignatureScheme :=
  match key.material with
  | .secret bytes =>
      if algorithm.isSymmetric then SignatureScheme.hmac algorithm bytes
      else key.mismatch algorithm.name
  | .rsaPair pair =>
      if algorithm.isRsa then
        SignatureScheme.rsa algorithm (if forSigning then some pair else none) pair.publicKey
      else key.mismatch algorithm.name
  | .rsaPublic publicKey =>
      if !algorithm.isRsa then key.mismatch algorithm.name
      else if forSigning then .error .noPrivateKey
      else SignatureScheme.rsa algorithm none publicKey
  | .curvePair curve pair =>
      if algorithm = SignatureScheme.curveAlgorithm curve then
        .ok (SignatureScheme.ofCurve curve (if forSigning then some pair else none) pair.point)
      else key.mismatch algorithm.name
  | .curvePublic curve publicKey =>
      if algorithm ≠ SignatureScheme.curveAlgorithm curve then key.mismatch algorithm.name
      else if forSigning then .error .noPrivateKey
      else .ok (SignatureScheme.ofCurve curve none publicKey)

def keyScheme (key : Key) (algorithm : KeyAlgorithm) : Except CryptoFault KeyScheme :=
  match key.material with
  | .secret bytes =>
      match algorithm with
      | .a128kw | .a256kw => KeyScheme.aes algorithm bytes
      | .direct => .ok (KeyScheme.direct bytes)
      | .rsaOaep | .rsaOaep256 | .rsa15 => key.mismatch algorithm.name
  | .rsaPair pair =>
      if algorithm.isRsa then KeyScheme.rsa algorithm (some pair) pair.publicKey
      else key.mismatch algorithm.name
  | .rsaPublic publicKey =>
      if algorithm.isRsa then KeyScheme.rsa algorithm none publicKey
      else key.mismatch algorithm.name
  | .curvePair _ _ | .curvePublic _ _ => key.mismatch algorithm.name

end Key

namespace CryptoSuite

/-- The suite that builds each scheme anew. -/
def standard : CryptoSuite Unit where
  signature key name forSigning := pure do
    key.signatureScheme (← SignatureAlgorithm.ofName name) forSigning
  keyManagement key name := pure do
    key.keyScheme (← KeyAlgorithm.ofName name)
  content name := pure do
    ContentCipher.ofAlgorithm (← ContentAlgorithm.ofName name)
  release _ := pure ()

end CryptoSuite

end SecurityToken
