import SecurityToken.Bytes
import SecurityToken.Crypto.Modular

/-!
RSA keys and the two operations on numbers below the modulus.
Main statement: a root that the private operation returns is one, since it is checked.
-/

namespace SecurityToken.Rsa

def bitLength (value : Nat) : Nat :=
  if value = 0 then 0 else value.log2 + 1

/-- An odd modulus, and below it an odd exponent from three to 2 ^ 33 - 1. -/
structure PublicKey where
  modulus : Nat
  exponent : Nat
  modulus_odd : modulus % 2 = 1
  exponent_odd : exponent % 2 = 1
  two_le_exponent : 2 ≤ exponent
  exponent_lt : exponent < 0x200000000
  exponent_lt_modulus : exponent < modulus
  deriving DecidableEq

namespace PublicKey

def ofNumbers? (modulus exponent : Nat) : Option PublicKey :=
  if h : modulus % 2 = 1 ∧ exponent % 2 = 1 ∧ 2 ≤ exponent ∧ exponent < 0x200000000 ∧
      exponent < modulus then
    some ⟨modulus, exponent, h.1, h.2.1, h.2.2.1, h.2.2.2.1, h.2.2.2.2⟩
  else none

/-- The key that comes without its private half; its modulus has at most 4096 bits. -/
def ofPublishedNumbers? (modulus exponent : Nat) : Option PublicKey :=
  if bitLength modulus ≤ 4096 then ofNumbers? modulus exponent else none

def bits (key : PublicKey) : Nat := bitLength key.modulus

def size (key : PublicKey) : Nat := (key.bits + 7) / 8

def raise (key : PublicKey) (value : Nat) : Nat :=
  Modular.power key.modulus value key.exponent

end PublicKey

/-- A public key with an exponent that undoes its own modulo each of two factors. -/
structure PrivateKey where
  publicKey : PublicKey
  exponent : Nat
  first : Nat
  second : Nat
  first_mul_second : first * second = publicKey.modulus
  inverse_first : exponent * publicKey.exponent % (first - 1) = 1
  inverse_second : exponent * publicKey.exponent % (second - 1) = 1
  deriving DecidableEq

namespace PrivateKey

def ofNumbers? (modulus publicExponent exponent first second : Nat) : Option PrivateKey := do
  let publicKey ← PublicKey.ofNumbers? modulus publicExponent
  if h : first * second = publicKey.modulus ∧
      exponent * publicKey.exponent % (first - 1) = 1 ∧
      exponent * publicKey.exponent % (second - 1) = 1 then
    some ⟨publicKey, exponent, first, second, h.1, h.2.1, h.2.2⟩
  else none

theorem modulus_pos (key : PrivateKey) : 0 < key.first * key.second := by
  rw [key.first_mul_second]
  exact Nat.zero_lt_of_lt key.publicKey.exponent_lt_modulus

/-- The number below the modulus with given remainders for both factors, by means of the inverse of
the second factor modulo the first. -/
def combine (key : PrivateKey) (inverse first second : Nat) : Nat :=
  Modular.subtract key.first first second * inverse % key.first * key.second + second

/-- The power that is the root if the factors are primes. Factors without a common divisor are dealt
with one by one. -/
def power (key : PrivateKey) (value : Nat) : Nat :=
  match Modular.coprimeInverse? key.first key.second with
  | some inverse =>
      key.combine inverse (Modular.power key.first value (key.exponent % (key.first - 1)))
        (Modular.power key.second value (key.exponent % (key.second - 1)))
  | none => Modular.power key.publicKey.modulus value key.exponent

theorem combine_lt (key : PrivateKey) (inverse first : Nat) {second : Nat}
    (h : second < key.second) : key.combine inverse first second < key.publicKey.modulus := by
  have hlt : Modular.subtract key.first first second * inverse % key.first < key.first :=
    Nat.mod_lt _ (Nat.pos_of_mul_pos_right key.modulus_pos)
  have hle := Nat.mul_le_mul_right key.second (Nat.succ_le_of_lt hlt)
  rw [Nat.succ_mul, key.first_mul_second] at hle
  unfold combine
  omega

theorem power_lt (key : PrivateKey) (value : Nat) : key.power value < key.publicKey.modulus := by
  unfold power
  split
  · refine combine_lt key _ _ ?_
    rw [Modular.power_eq]
    exact Nat.mod_lt _ (Nat.pos_of_mul_pos_left key.modulus_pos)
  · rw [Modular.power_eq]
    exact Nat.mod_lt _ (Nat.zero_lt_of_lt key.publicKey.exponent_lt_modulus)

/-- The private operation. Its result is given only if the public operation leads back. -/
def root? (key : PrivateKey) (value : Nat) : Option Nat :=
  let root := key.power value
  if value < key.publicKey.modulus ∧ key.publicKey.raise root = value then some root else none

theorem raise_of_root? {key : PrivateKey} {value root : Nat} (h : key.root? value = some root) :
    key.publicKey.raise root = value := by
  simp only [root?, Option.ite_none_right_eq_some, Option.some.injEq] at h
  obtain ⟨⟨_, hraise⟩, rfl⟩ := h
  exact hraise

theorem root?_lt {key : PrivateKey} {value root : Nat} (h : key.root? value = some root) :
    root < key.publicKey.modulus := by
  simp only [root?, Option.ite_none_right_eq_some, Option.some.injEq] at h
  obtain ⟨_, rfl⟩ := h
  exact key.power_lt value

end PrivateKey

end SecurityToken.Rsa
