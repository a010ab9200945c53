import SecurityToken.Crypto.Digest.Sha1
import SecurityToken.Crypto.Digest.Sha2

/-!
Digests by name, the keyed digest HMAC built on them, and the mask generation of RSA padding.
-/

namespace SecurityToken

inductive Digest where
  | sha1
  | sha256
  | sha384
  | sha512
  deriving DecidableEq, Repr

namespace Digest

def size : Digest → Nat
  | sha1 => 20
  | sha256 => 32
  | sha384 => 48
  | sha512 => 64

def blockSize : Digest → Nat
  | sha1 => 64
  | sha256 => 64
  | sha384 => 128
  | sha512 => 128

def hash : Digest → Bytes → Bytes
  | sha1, message => Sha1.sha1 message
  | sha256, message => Sha2.sha256 message
  | sha384, message => Sha2.sha384 message
  | sha512, message => Sha2.sha512 message

/-- A key filled up with zeros to one block; a longer key is digested first. -/
def blockKey (digest : Digest) (key : Bytes) : Bytes :=
  let key := if digest.blockSize < key.length then digest.hash key else key
  key ++ List.replicate (digest.blockSize - key.length) 0

def hmac (digest : Digest) (key message : Bytes) : Bytes :=
  let key := digest.blockKey key
  let inner := digest.hash (key.map (· ^^^ 0x36) ++ message)
  digest.hash (key.map (· ^^^ 0x5c) ++ inner)

/-- The first bytes of the digests of a seed with a counter behind it. -/
def mask (digest : Digest) (seed : Bytes) (length : Nat) : Bytes :=
  let blocks := (List.range ((length + digest.size - 1) / digest.size)).flatMap fun counter =>
    digest.hash (seed ++ Bytes.ofNat 4 counter)
  blocks.take length

end Digest

end SecurityToken
