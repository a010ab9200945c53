import SecurityToken.Bytes
import SecurityToken.Crypto.Modular

/-!
Elliptic curves over prime fields in short Weierstrass form with the coefficient -3, and the group
of their points. Sums are formed in projective coordinates, so that only the end of a computation
divides.
-/

namespace SecurityToken

/-- The curves y² = x³ - 3x + b whose points serve as keys, each with a generator of prime order. -/
inductive Curve where
  | p256
  | p384
  deriving DecidableEq, Repr

namespace Curve

def prime : Curve → Nat
  | p256 => 0xffffffff00000001000000000000000000000000ffffffffffffffffffffffff
  | p384 => 0xfffffffffffffffffffffffffffffffffffffffffffffffffffffffffffffffeffffffff0000000000000000ffffffff

def order : Curve → Nat
  | p256 => 0xffffffff00000000ffffffffffffffffbce6faada7179e84f3b9cac2fc632551
  | p384 => 0xffffffffffffffffffffffffffffffffffffffffffffffffc7634d81f4372ddf581a0db248b0a77aecec196accc52973

def coefficient : Curve → Nat
  | p256 => 0x5ac635d8aa3a93e7b3ebbd55769886bc651d06b0cc53b0f63bce3c3e27d2604b
  | p384 => 0xb3312fa7e23ee7e4988e056be3f82d19181d9c6efe8141120314088f5013875ac656398d8a2ed19d2a85c8edd3ec2aef

def size : Curve → Nat
  | p256 => 32
  | p384 => 48

def bits (curve : Curve) : Nat := 8 * curve.size

def cubic (curve : Curve) (x : Nat) : Nat :=
  Modular.subtract curve.prime (x * x * x + curve.coefficient) (3 * x)

end Curve

structure Point (curve : Curve) where
  x : Nat
  y : Nat
  x_lt : x < curve.prime
  y_lt : y < curve.prime
  on_curve : y * y % curve.prime = curve.cubic x
  deriving DecidableEq

namespace Point

def ofCoordinates? (curve : Curve) (x y : Nat) : Option (Point curve) :=
  if h : x < curve.prime ∧ y < curve.prime ∧ y * y % curve.prime = curve.cubic x then
    some ⟨x, y, h.1, h.2.1, h.2.2⟩
  else none

set_option maxRecDepth 4000 in
def generator : (curve : Curve) → Point curve
  | .p256 =>
      ⟨0x6b17d1f2e12c4247f8bce6e563a440f277037d812deb33a0f4a13945d898c296,
        0x4fe342e2fe1a7f9b8ee7eb4a7c0f9e162bce33576b315ececbb6406837bf51f5,
        by decide, by decide, by decide⟩
  | .p384 =>
      ⟨0xaa87ca22be8b05378eb1c71ef320ad746e1d3b628ba79b9859f741e082542a385502f25dbf55296c3a545e3872760ab7,
        0x3617de4a96262c6f5d9e98bf9292dc29f8f41dbd289a147ce9da3113b5f0b8c00a60b1ce1d7e819d7a431d7c90ea0e5f,
        by decide, by decide, by decide⟩

def bytes {curve : Curve} (point : Point curve) : Bytes :=
  4 :: Bytes.ofNat curve.size point.x ++ Bytes.ofNat curve.size point.y

def compressedBytes {curve : Curve} (point : Point curve) : Bytes :=
  UInt8.ofNat (2 + point.y % 2) :: Bytes.ofNat curve.size point.x

/-- A square root of the right-hand side of the equation, where it has one. Both primes leave three
when divided by four, so that a power gives it. -/
def root (curve : Curve) (x : Nat) : Nat :=
  Modular.power curve.prime (curve.cubic x) ((curve.prime + 1) / 4)

def ofParity? (curve : Curve) (x parity : Nat) : Option (Point curve) :=
  let first := root curve x
  let y := if first % 2 = parity then first else Modular.subtract curve.prime 0 first
  if y % 2 = parity then ofCoordinates? curve x y else none

/-- The point with a first coordinate and the smaller of the two that the second can be. -/
def ofSmaller? (curve : Curve) (x : Nat) : Option (Point curve) :=
  let first := root curve x
  ofCoordinates? curve x (min first (Modular.subtract curve.prime 0 first))

/-- Reads a point: both coordinates, or the first with a tag that says which second one is meant. -/
def ofBytes? (curve : Curve) : Bytes → Option (Point curve)
  | tag :: rest =>
      if tag = 4 ∧ rest.length = 2 * curve.size then
        ofCoordinates? curve (Bytes.toNat (rest.take curve.size)) (Bytes.toNat (rest.drop curve.size))
      else if (tag = 2 ∨ tag = 3) ∧ rest.length = curve.size then
        ofParity? curve (Bytes.toNat rest) (tag.toNat - 2)
      else if tag = 5 ∧ rest.length = curve.size then ofSmaller? curve (Bytes.toNat rest)
      else none
  | [] => none

end Point

/-- A point as a triple: the coordinates are `x / z ^ 2` and `y / z ^ 3`, and the point at infinity
has `z` zero. -/
structure Triple where
  (x y z : Nat)

namespace Triple

def infinity : Triple := ⟨1, 1, 0⟩

def ofPoint {curve : Curve} (point : Point curve) : Triple := ⟨point.x, point.y, 1⟩

def double (curve : Curve) (point : Triple) : Triple :=
  let p := curve.prime
  let delta := point.z * point.z % p
  let gamma := point.y * point.y % p
  let beta := point.x * gamma % p
  let alpha := 3 * (Modular.subtract p point.x delta * (point.x + delta)) % p
  let x := Modular.subtract p (alpha * alpha) (8 * beta)
  let z := 2 * point.y * point.z % p
  let y := Modular.subtract p (alpha * Modular.subtract p (4 * beta) x) (8 * (gamma * gamma))
  ⟨x, y, z⟩

def add (curve : Curve) (left right : Triple) : Triple :=
  if left.z = 0 then right
  else if right.z = 0 then left
  else
    let p := curve.prime
    let leftSquare := left.z * left.z % p
    let rightSquare := right.z * right.z % p
    let leftX := left.x * rightSquare % p
    let rightX := right.x * leftSquare % p
    let leftY := left.y * (rightSquare * right.z % p) % p
    let rightY := right.y * (leftSquare * left.z % p) % p
    let run := Modular.subtract p rightX leftX
    let rise := Modular.subtract p rightY leftY
    if run = 0 then
      if rise = 0 then double curve left else infinity
    else
      let runSquare := run * run % p
      let runCube := runSquare * run % p
      let shared := leftX * runSquare % p
      let x := Modular.subtract p (rise * rise) (runCube + 2 * shared)
      let y := Modular.subtract p (rise * Modular.subtract p shared x) (leftY * runCube)
      ⟨x, y, run * (left.z * right.z) % p⟩

def multiply (curve : Curve) (scalar : Nat) (point : Triple) : Triple :=
  if h : scalar = 0 then infinity
  else
    let half := multiply curve (scalar / 2) (double curve point)
    if scalar % 2 = 1 then add curve half point else half
termination_by scalar
decreasing_by omega

def point? (curve : Curve) (triple : Triple) : Option (Point curve) :=
  if triple.z = 0 then none
  else
    let p := curve.prime
    let inverse := Modular.inverse p triple.z
    let square := inverse * inverse % p
    Point.ofCoordinates? curve (triple.x * square % p) (triple.y * (square * inverse % p) % p)

end Triple

end SecurityToken
