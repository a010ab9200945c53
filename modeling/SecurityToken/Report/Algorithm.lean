import SecurityToken.Crypto.Algorithm
import SecurityToken.Json.Conversion

/-!
Algorithms as JSON, with what they demand of keys.
-/

namespace SecurityToken

def SignatureAlgorithm.report (algorithm : SignatureAlgorithm) : Json :=
  .object [("name", .string algorithm.name), ("digest_bytes", .ofNat algorithm.digest.size),
    ("symmetric", .bool algorithm.isSymmetric)]

def KeyAlgorithm.report (algorithm : KeyAlgorithm) : Json :=
  .object [("name", .string algorithm.name),
    ("kek_size", .ofOption .ofNat algorithm.wrappingKeySize?)]

def ContentAlgorithm.report (algorithm : ContentAlgorithm) : Json :=
  .object [("name", .string algorithm.name), ("key_size", .ofNat algorithm.keySize),
    ("iv_size", .ofNat algorithm.ivSize), ("tag_size", .ofNat algorithm.tagSize)]

end SecurityToken
