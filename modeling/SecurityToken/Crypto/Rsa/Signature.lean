import SecurityToken.Crypto.Digest.Basic
import SecurityToken.Crypto.Entropy
import SecurityToken.Crypto.Fault
import SecurityToken.Crypto.Rsa.Key

/-!
RSA signatures: over a fixed encoding of the digest (`Fixed`), and over a salted one (`Salted`).
-/

namespace SecurityToken.Rsa

def PublicKey.open? (key : PublicKey) (signature : Bytes) : Option Nat :=
  if signature.length = key.size then some (key.raise (Bytes.toNat signature)) else none

def PrivateKey.sealed (key : PrivateKey) (encoded : Bytes) : Except CryptoFault Bytes :=
  match key.root? (Bytes.toNat encoded) with
  | some root => .ok (Bytes.ofNat key.publicKey.size root)
  | none => .error (.signing "internal error")

namespace Fixed

/-- What stands before a digest of each kind: its name and length in distinguished encoding. -/
def label : Digest → Bytes
  | .sha1 => [0x30, 0x21, 0x30, 0x09, 0x06, 0x05, 0x2b, 0x0e, 0x03, 0x02, 0x1a, 0x05, 0x00, 0x04, 0x14]
  | .sha256 => [0x30, 0x31, 0x30, 0x0d, 0x06, 0x09, 0x60, 0x86, 0x48, 0x01, 0x65, 0x03, 0x04, 0x02,
      0x01, 0x05, 0x00, 0x04, 0x20]
  | .sha384 => [0x30, 0x41, 0x30, 0x0d, 0x06, 0x09, 0x60, 0x86, 0x48, 0x01, 0x65, 0x03, 0x04, 0x02,
      0x02, 0x05, 0x00, 0x04, 0x30]
  | .sha512 => [0x30, 0x51, 0x30, 0x0d, 0x06, 0x09, 0x60, 0x86, 0x48, 0x01, 0x65, 0x03, 0x04, 0x02,
      0x03, 0x05, 0x00, 0x04, 0x40]

/-- The encoded digest of a message, filled up to a size; eight bytes of filling at least. -/
def encode? (digest : Digest) (size : Nat) (message : Bytes) : Option Bytes :=
  let content := label digest ++ digest.hash message
  if size < content.length + 11 then none
  else some (0 :: 1 :: List.replicate (size - content.length - 3) 0xff ++ 0 :: content)

def sign (digest : Digest) (key : PrivateKey) (message : Bytes) : Except CryptoFault Bytes :=
  match encode? digest key.publicKey.size message with
  | some encoded => key.sealed encoded
  | none => .error (.signing "message too long")

def verify (digest : Digest) (key : PublicKey) (message signature : Bytes) : Bool :=
  match encode? digest key.size message, key.open? signature with
  | some encoded, some opened =>
      decide (Bytes.toNat signature < key.modulus) && Bytes.ofNat key.size opened == encoded
  | _, _ => false

end Fixed

namespace Salted

/-- The length in bytes of an encoded digest: its number has one bit less than the modulus. -/
def encodedSize (key : PublicKey) : Nat := (key.bits - 1 + 7) / 8

/-- Clears the bits of the first byte that lie above those of the modulus. -/
def clearTop (key : PublicKey) : Bytes → Bytes
  | [] => []
  | first :: rest =>
      UInt8.ofNat (first.toNat % Nat.pow 2 (8 - (8 * encodedSize key - (key.bits - 1)))) :: rest

/-- The digest of a message digest and a salt behind eight zeros. -/
def check (digest : Digest) (message salt : Bytes) : Bytes :=
  digest.hash (List.replicate 8 0 ++ digest.hash message ++ salt)

def encode? (digest : Digest) (key : PublicKey) (message salt : Bytes) : Option Bytes :=
  let size := encodedSize key
  if size < digest.size + salt.length + 2 then none
  else
    let check := check digest message salt
    let block := List.replicate (size - salt.length - digest.size - 2) 0 ++ 1 :: salt
    let masked := Bytes.xor block (digest.mask check block.length)
    some (clearTop key masked ++ check ++ [0xbc])

def sign (digest : Digest) (key : PrivateKey) (entropy : Entropy) (message : Bytes) :
    Except CryptoFault Bytes :=
  match encode? digest key.publicKey message (entropy.bytes .salt digest.size) with
  | some encoded => key.sealed encoded
  | none => .error (.signing "internal error")

def salt? (digest : Digest) (key : PublicKey) (encoded : Bytes) : Option Bytes :=
  let size := encodedSize key
  let blockSize := size - digest.size - 1
  let masked := encoded.take blockSize
  let check := (encoded.drop blockSize).take digest.size
  let block := clearTop key (Bytes.xor masked (digest.mask check blockSize))
  let zeros := size - 2 * digest.size - 2
  if clearTop key masked = masked ∧ block.take zeros = List.replicate zeros 0 ∧
      block[zeros]? = some 1 then
    some (block.drop (zeros + 1))
  else none

def verify (digest : Digest) (key : PublicKey) (message signature : Bytes) : Bool :=
  let size := encodedSize key
  match key.open? signature with
  | none => false
  | some opened =>
      let encoded := (Bytes.ofNat key.size opened).drop (key.size - size)
      if size < 2 * digest.size + 2 ∨ encoded.getLast? ≠ some 0xbc then false
      else
        match salt? digest key encoded with
        | none => false
        | some salt =>
            (encoded.drop (size - digest.size - 1)).take digest.size == check digest message salt

end Salted

end SecurityToken.Rsa
