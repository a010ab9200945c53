import SecurityToken.Crypto.Digest.Basic
import SecurityToken.Crypto.Entropy
import SecurityToken.Crypto.Fault
import SecurityToken.Crypto.Rsa.Key

/-!
RSA encryption of short messages: with padding that is masked by a digest (`Masked`), and with plain
random padding (`Plain`).
-/

namespace SecurityToken.Rsa

def PublicKey.lock (key : PublicKey) (padded : Bytes) : Bytes :=
  Bytes.ofNat key.size (key.raise (Bytes.toNat padded))

/-- The padded message whose power a sealed one is. -/
def PrivateKey.unlock? (key : PrivateKey) (sealed : Bytes) : Option Bytes :=
  (key.root? (Bytes.toNat sealed)).map (Bytes.ofNat key.publicKey.size)

namespace Masked

/-- The digest of the empty label, zeros, a one, and the message, both masked by turns with a
random seed. -/
def pad? (digest : Digest) (size : Nat) (entropy : Entropy) (message : Bytes) : Option Bytes :=
  if size < message.length + 2 * digest.size + 2 then none
  else
    let zeros := size - message.length - 2 * digest.size - 2
    let block := digest.hash [] ++ List.replicate zeros 0 ++ 1 :: message
    let seed := entropy.bytes .padding digest.size
    let block := Bytes.xor block (digest.mask seed block.length)
    let seed := Bytes.xor seed (digest.mask block digest.size)
    some (0 :: seed ++ block)

def unpad? (digest : Digest) (padded : Bytes) : Option Bytes :=
  match padded with
  | 0 :: masked =>
      if padded.length < 2 * digest.size + 2 then none
      else
        let block := masked.drop digest.size
        let seed := Bytes.xor (masked.take digest.size) (digest.mask block digest.size)
        let block := Bytes.xor block (digest.mask seed block.length)
        if block.take digest.size = digest.hash [] then
          match (block.drop digest.size).dropWhile (· == 0) with
          | 1 :: message => some message
          | _ => none
        else none
  | _ => none

def encrypt (digest : Digest) (key : PublicKey) (entropy : Entropy) (message : Bytes) :
    Except CryptoFault Bytes :=
  match pad? digest key.size entropy message with
  | some padded => .ok (key.lock padded)
  | none => .error (.wrapping "message too long")

def decrypt? (digest : Digest) (key : PrivateKey) (sealed : Bytes) : Option Bytes :=
  if sealed.length = key.publicKey.size then (key.unlock? sealed).bind (unpad? digest) else none

end Masked

namespace Plain

/-- A zero, a two, random bytes that are not zero, a zero, and the message. -/
def pad? (size : Nat) (entropy : Entropy) (message : Bytes) : Option Bytes :=
  if size < message.length + 11 then none
  else
    some (0 :: 2 :: entropy.nonzeroBytes .padding (size - message.length - 3) ++ 0 :: message)

/-- The message behind the first zero; at least eight bytes of padding come before it. -/
def unpad? : Bytes → Option Bytes
  | 0 :: 2 :: rest =>
      match rest.dropWhile (· != 0) with
      | _ :: message => if rest.length < message.length + 9 then none else some message
      | [] => none
  | _ => none

def encrypt (key : PublicKey) (entropy : Entropy) (message : Bytes) : Except CryptoFault Bytes :=
  match pad? key.size entropy message with
  | some padded => .ok (key.lock padded)
  | none => .error (.wrapping "message too long")

/-- Opens a sealed message; only its value as a number counts. -/
def decrypt? (key : PrivateKey) (sealed : Bytes) : Option Bytes :=
  (key.unlock? sealed).bind unpad?

end Plain

end SecurityToken.Rsa
