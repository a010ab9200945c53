import SecurityToken.Handler.Basic
import SecurityToken.Validation.Decryption

/-!
The check of a token's signature. The candidate keys are tried in turn until one verifies it.
-/

namespace SecurityToken

variable {σ ρ : Type}

/-- A token whose signature was accepted, with the key that verified it. -/
structure Verified where
  token : Token
  key : Option Key

namespace Handler

def checkSigningKey (policy : Policy ρ) (key : Key) (token : Token) : Run σ ρ Unit := do
  if policy.validateSigningKey then
    if let some accepts := policy.signingKeyValidator then
      Run.note (.validateSigningKey key)
      unless ← accepts key token do
        throw ((Fault.new .invalidSigningKey "signing key was rejected").withContext?
          Detail.keyId key.keyId)

/-- Tries keys in turn. A key that gets no scheme is passed over and does not count as tried. -/
def verifyWith (handler : Handler σ) (algorithm : String) (token : Token) (tried : Nat) :
    List Key → Run σ ρ Key
  | [] =>
      throw ((Fault.new .invalidSignature "signature verification failed")
        |>.withContext Detail.algorithm algorithm
        |>.withContext Detail.keysTried (toString tried))
  | key :: rest => do
      match ← Run.ask (.signatureScheme algorithm)
          (handler.suite.signature key algorithm false) with
      | .error fault =>
          if fault.isUnsupported then
            throw ((Fault.new .unsupportedAlgorithm
              ("no signature provider for '" ++ algorithm ++ "'")).withContext
                Detail.algorithm algorithm)
          else handler.verifyWith algorithm token tried rest
      | .ok scheme =>
          if scheme.verify (Bytes.ofText (Compact.signingInput token.raw)) token.signature then
            return key
          else handler.verifyWith algorithm token (tried + 1) rest

def verifySigned (handler : Handler σ) (policy : Policy ρ) (token : Token) :
    Run σ ρ Verified := do
  let algorithm := token.header.algorithm?.getD ""
  let keys ← candidates policy .signing token
  if keys.isEmpty then
    throw ((Fault.new .noSignatureKeyAvailable "no key available to verify the signature")
      |>.withContext Detail.algorithm algorithm
      |>.withContext? Detail.keyId token.header.keyId?)
  let key ← handler.verifyWith algorithm token 0 keys
  checkSigningKey policy key token
  return ⟨token, some key⟩

/-- Accepts or refuses a token for its signature. A policy may have a function do it instead, and
may do without a signature. -/
def verify (handler : Handler σ) (policy : Policy ρ) (token : Token) : Run σ ρ Verified := do
  match policy.signatureValidator with
  | some validate =>
      Run.note (.validateSignature token.raw)
      return ⟨← validate token.raw, none⟩
  | none =>
      if token.hasSignature then handler.verifySigned policy token
      else if policy.requireSignature then
        throw (.new .signatureRequiredButMissing "token is not signed")
      else return ⟨token, none⟩

end Handler

end SecurityToken
