import SecurityToken.Crypto.Algorithm
import SecurityToken.Crypto.Curve.Signature
import SecurityToken.Crypto.Rsa.Key
import SecurityToken.Text.Quoted

/-!
Security keys: material with the hints that headers pick it out by, and a handle. Copies of a key
share its handle, and a handle stands for one material for ever.
-/

namespace SecurityToken

inductive KeyMaterial where
  | secret (bytes : Bytes)
  | rsaPair (key : Rsa.PrivateKey)
  | rsaPublic (key : Rsa.PublicKey)
  | curvePair (curve : Curve) (key : Curve.PrivateKey curve)
  | curvePublic (curve : Curve) (key : Point curve)
  deriving DecidableEq

namespace KeyMaterial

/-- The public half; a secret has none and stays as it is. -/
def toPublic : KeyMaterial → KeyMaterial
  | rsaPair key => rsaPublic key.publicKey
  | curvePair curve key => curvePublic curve key.point
  | material => material

def isSecret : KeyMaterial → Bool
  | secret _ => true
  | _ => false

def kind : KeyMaterial → String
  | secret _ => "symmetric"
  | rsaPair _ | rsaPublic _ => "rsa"
  | curvePair .p256 _ | curvePublic .p256 _ => "ec-p256"
  | curvePair .p384 _ | curvePublic .p384 _ => "ec-p384"

def family : KeyMaterial → String
  | curvePair .p256 _ | curvePublic .p256 _ => "p256"
  | curvePair .p384 _ | curvePublic .p384 _ => "p384"
  | material => material.kind

/-- The size of a key in bits; a modulus counts in whole bytes. -/
def bits : KeyMaterial → Nat
  | secret bytes => 8 * bytes.length
  | rsaPair key => 8 * key.publicKey.size
  | rsaPublic key => 8 * key.size
  | curvePair curve _ | curvePublic curve _ => curve.bits

def hasPrivate : KeyMaterial → Bool
  | secret _ | rsaPair _ | curvePair _ _ => true
  | rsaPublic _ | curvePublic _ _ => false

end KeyMaterial

abbrev KeyHandle := Nat

/-- Key material under a handle, with an optional key id and certificate thumbprint. -/
structure Key where
  handle : KeyHandle
  keyId : Option String := none
  thumbprint : Option String := none
  material : KeyMaterial
  deriving DecidableEq

namespace Key

/-- The public half under a fresh handle. A secret has no public half: the key stays as it is. -/
def toPublic (key : Key) (fresh : KeyHandle) : Key :=
  if key.material.isSecret then key
  else { key with handle := fresh, material := key.material.toPublic }

def bits (key : Key) : Nat := key.material.bits

def hasPrivate (key : Key) : Bool := key.material.hasPrivate

def supportsSignature (key : Key) (algorithm : SignatureAlgorithm) : Bool :=
  match key.material with
  | .secret bytes =>
      algorithm.isSymmetric &&
        decide (SignatureAlgorithm.minimumSecretBits ≤ 8 * bytes.length)
  | .rsaPair _ | .rsaPublic _ => algorithm.isRsa
  | .curvePair .p256 _ | .curvePublic .p256 _ => algorithm == .es256
  | .curvePair .p384 _ | .curvePublic .p384 _ => algorithm == .es384

def supportsKeyManagement (key : Key) (algorithm : KeyAlgorithm) : Bool :=
  match key.material with
  | .secret bytes => algorithm == .direct || algorithm.wrappingKeySize? == some bytes.length
  | .rsaPair _ | .rsaPublic _ => algorithm.isRsa
  | .curvePair _ _ | .curvePublic _ _ => false

def supports (key : Key) (name : String) : Bool :=
  match SignatureAlgorithm.ofName name with
  | .ok algorithm => key.supportsSignature algorithm
  | .error _ =>
      match KeyAlgorithm.ofName name with
      | .ok algorithm => key.supportsKeyManagement algorithm
      | .error _ => false

/-- A description of a key that tells nothing of its material. -/
def text (key : Key) : String :=
  Quoted.record "SecurityKey" [
    ("handle", "KeyHandle(" ++ toString key.handle ++ ")"),
    ("kind", Quoted.text key.material.kind),
    ("key_id", Quoted.optional (key.keyId.map Quoted.text)),
    ("thumbprint", Quoted.optional (key.thumbprint.map Quoted.text)),
    ("bits", toString key.bits)]

end Key

end SecurityToken
