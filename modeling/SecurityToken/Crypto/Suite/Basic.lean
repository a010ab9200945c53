import SecurityToken.Crypto.Key
import SecurityToken.Crypto.Scheme

/-!
A suite answers requests for schemes by key and algorithm name. Its answers may depend on a state
that the requests change.
-/

namespace SecurityToken

/-- A source of schemes with a state of its own. -/
structure CryptoSuite (σ : Type) where
  /-- The scheme to sign with, or the one to verify with. -/
  signature : Key → String → (forSigning : Bool) → StateM σ (Except CryptoFault SignatureScheme)
  keyManagement : Key → String → StateM σ (Except CryptoFault KeyScheme)
  content : String → StateM σ (Except CryptoFault ContentCipher)
  release : Key → StateM σ Unit

end SecurityToken
