import SecurityToken.Crypto.Digest.Basic
import SecurityToken.Crypto.Fault

/-!
The algorithms that headers name: for signatures, for the management of content keys, and for the
encryption of content. A name is exact; any other text is an unsupported algorithm.
-/

namespace SecurityToken

inductive SignatureAlgorithm where
  | hs256 | hs384 | hs512
  | rs256 | rs384 | rs512
  | ps256 | ps384 | ps512
  | es256 | es384
  deriving DecidableEq, Repr

namespace SignatureAlgorithm

def all : List SignatureAlgorithm :=
  [hs256, hs384, hs512, rs256, rs384, rs512, ps256, ps384, ps512, es256, es384]

def name : SignatureAlgorithm → String
  | hs256 => "HS256"
  | hs384 => "HS384"
  | hs512 => "HS512"
  | rs256 => "RS256"
  | rs384 => "RS384"
  | rs512 => "RS512"
  | ps256 => "PS256"
  | ps384 => "PS384"
  | ps512 => "PS512"
  | es256 => "ES256"
  | es384 => "ES384"

def digest : SignatureAlgorithm → Digest
  | hs256 | rs256 | ps256 | es256 => .sha256
  | hs384 | rs384 | ps384 | es384 => .sha384
  | hs512 | rs512 | ps512 => .sha512

def isSymmetric : SignatureAlgorithm → Bool
  | hs256 | hs384 | hs512 => true
  | _ => false

def minimumSecretBits : Nat := 128

def isRsa : SignatureAlgorithm → Bool
  | rs256 | rs384 | rs512 | ps256 | ps384 | ps512 => true
  | _ => false

def isProbabilistic : SignatureAlgorithm → Bool
  | ps256 | ps384 | ps512 => true
  | _ => false

def ofName (name : String) : Except CryptoFault SignatureAlgorithm :=
  match all.find? fun algorithm => algorithm.name == name with
  | some algorithm => .ok algorithm
  | none => .error (.unsupportedAlgorithm name)

end SignatureAlgorithm

inductive KeyAlgorithm where
  | rsaOaep
  | rsaOaep256
  | rsa15
  | a128kw
  | a256kw
  | direct
  deriving DecidableEq, Repr

namespace KeyAlgorithm

def all : List KeyAlgorithm := [rsaOaep, rsaOaep256, rsa15, a128kw, a256kw, direct]

def name : KeyAlgorithm → String
  | rsaOaep => "RSA-OAEP"
  | rsaOaep256 => "RSA-OAEP-256"
  | rsa15 => "RSA1_5"
  | a128kw => "A128KW"
  | a256kw => "A256KW"
  | direct => "dir"

def wrappingKeySize? : KeyAlgorithm → Option Nat
  | a128kw => some 16
  | a256kw => some 32
  | _ => none

def isRsa : KeyAlgorithm → Bool
  | rsaOaep | rsaOaep256 | rsa15 => true
  | _ => false

def ofName (name : String) : Except CryptoFault KeyAlgorithm :=
  match all.find? fun algorithm => algorithm.name == name with
  | some algorithm => .ok algorithm
  | none => .error (.unsupportedAlgorithm name)

end KeyAlgorithm

inductive ContentAlgorithm where
  | a128gcm
  | a256gcm
  | a128cbcHs256
  | a256cbcHs512
  deriving DecidableEq, Repr

namespace ContentAlgorithm

def all : List ContentAlgorithm := [a128gcm, a256gcm, a128cbcHs256, a256cbcHs512]

def name : ContentAlgorithm → String
  | a128gcm => "A128GCM"
  | a256gcm => "A256GCM"
  | a128cbcHs256 => "A128CBC-HS256"
  | a256cbcHs512 => "A256CBC-HS512"

/-- The size of a content key in bytes. A composite algorithm takes a key for the tag and one for
the cipher, of equal size. -/
def keySize : ContentAlgorithm → Nat
  | a128gcm => 16
  | a256gcm => 32
  | a128cbcHs256 => 32
  | a256cbcHs512 => 64

def ivSize : ContentAlgorithm → Nat
  | a128gcm | a256gcm => 12
  | a128cbcHs256 | a256cbcHs512 => 16

def tagSize : ContentAlgorithm → Nat
  | a128gcm | a256gcm | a128cbcHs256 => 16
  | a256cbcHs512 => 32

/-- The digest of the tag of a composite algorithm; none for an algorithm with a tag of its own. -/
def tagDigest? : ContentAlgorithm → Option Digest
  | a128gcm | a256gcm => none
  | a128cbcHs256 => some .sha256
  | a256cbcHs512 => some .sha512

def ofName (name : String) : Except CryptoFault ContentAlgorithm :=
  match all.find? fun algorithm => algorithm.name == name with
  | some algorithm => .ok algorithm
  | none => .error (.unsupportedAlgorithm name)

end ContentAlgorithm

end SecurityToken
