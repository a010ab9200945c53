import SecurityToken.Crypto.Curve.Basic
import SecurityToken.Crypto.Digest.Basic

/-!
Signatures on elliptic curves: two numbers side by side. The secret number of each signature is
derived from the key and the digest, after RFC 6979, so that signing is deterministic.
-/

namespace SecurityToken.Curve

structure PrivateKey (curve : Curve) where
  scalar : Nat
  point : Point curve
  scalar_pos : 0 < scalar
  scalar_lt : scalar < curve.order
  point_eq : (Triple.multiply curve scalar (.ofPoint (.generator curve))).point? curve = some point
  deriving DecidableEq

def PrivateKey.ofScalar? (curve : Curve) (scalar : Nat) : Option (PrivateKey curve) :=
  if hrange : 0 < scalar ∧ scalar < curve.order then
    match h : (Triple.multiply curve scalar (.ofPoint (.generator curve))).point? curve with
    | some point => some ⟨scalar, point, hrange.1, hrange.2, h⟩
    | none => none
  else none

/-- Reads a big-endian scalar; up to its full length, and at least 24 bytes. -/
def PrivateKey.ofBytes? (curve : Curve) (bytes : Bytes) : Option (PrivateKey curve) :=
  if 24 ≤ bytes.length ∧ bytes.length ≤ curve.size then ofScalar? curve (Bytes.toNat bytes)
  else none

def digest : Curve → Digest
  | p256 => .sha256
  | p384 => .sha384

def messageScalar (curve : Curve) (message : Bytes) : Nat :=
  Bytes.toNat (curve.digest.hash message) % curve.order

/-- The key and the chaining value that secret numbers are drawn from. -/
structure Generator where
  (key value : Bytes)

namespace Generator

def mix (generator : Generator) (curve : Curve) (marker : UInt8) (data : Bytes) : Generator :=
  let key := curve.digest.hmac generator.key (generator.value ++ marker :: data)
  ⟨key, curve.digest.hmac key generator.value⟩

def seeded (curve : Curve) (seed : Bytes) : Generator :=
  let start : Generator :=
    ⟨List.replicate curve.digest.size 0, List.replicate curve.digest.size 1⟩
  (start.mix curve 0 seed).mix curve 1 seed

/-- The first number drawn that is not zero and lies below the order, within some attempts. -/
def draw? (curve : Curve) : Nat → Generator → Option Nat
  | 0, _ => none
  | attempts + 1, generator =>
      let value := curve.digest.hmac generator.key generator.value
      let number := Bytes.toNat value
      if 0 < number ∧ number < curve.order then some number
      else draw? curve attempts ((Generator.mk generator.key value).mix curve 0 [])

end Generator

/-- The secret number of a signature, drawn from the key and the digest as it is. A draw fails with a
chance below 2 ^ -32, so a hundred draws do not fail. -/
def secret? (curve : Curve) (key : PrivateKey curve) (message : Bytes) : Option Nat :=
  Generator.draw? curve 100
    (.seeded curve (Bytes.ofNat curve.size key.scalar ++ curve.digest.hash message))

def signWith? (curve : Curve) (key : PrivateKey curve) (secret : Nat) (message : Bytes) :
    Option Bytes := do
  let order := curve.order
  let commitment ← (Triple.multiply curve secret (.ofPoint (.generator curve))).point? curve
  let first := commitment.x % order
  let second :=
    Modular.inverse order secret * (curve.messageScalar message + first * key.scalar) % order
  if first = 0 ∨ second = 0 then none
  else some (Bytes.ofNat curve.size first ++ Bytes.ofNat curve.size second)

def sign? (curve : Curve) (key : PrivateKey curve) (message : Bytes) : Option Bytes := do
  curve.signWith? key (← curve.secret? key message) message

def verify (curve : Curve) (key : Point curve) (message signature : Bytes) : Bool :=
  let order := curve.order
  let first := Bytes.toNat (signature.take curve.size)
  let second := Bytes.toNat (signature.drop curve.size)
  if signature.length = 2 * curve.size ∧ 0 < first ∧ first < order ∧ 0 < second ∧ second < order then
    let inverse := Modular.inverse order second
    let ofGenerator := Triple.multiply curve (curve.messageScalar message * inverse % order)
      (.ofPoint (.generator curve))
    let ofKey := Triple.multiply curve (first * inverse % order) (.ofPoint key)
    match (Triple.add curve ofGenerator ofKey).point? curve with
    | some commitment => commitment.x % order == first
    | none => false
  else false

end SecurityToken.Curve
