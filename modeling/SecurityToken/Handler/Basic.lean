import SecurityToken.Claim.Mapping
import SecurityToken.Crypto.Suite.Basic
import SecurityToken.Format
import SecurityToken.Settings

/-!
A handler of tokens: the way they are written, the suite that serves their algorithms, the mapping
of their claims, settings, and other names for algorithms.
-/

namespace SecurityToken

/-- The names that other vocabularies have for algorithms. -/
def standardAlgorithmNames : Table String :=
  .ofList [
    ("http://www.w3.org/2001/04/xmldsig-more#hmac-sha256", "HS256"),
    ("http://www.w3.org/2001/04/xmldsig-more#hmac-sha384", "HS384"),
    ("http://www.w3.org/2001/04/xmldsig-more#hmac-sha512", "HS512"),
    ("http://www.w3.org/2001/04/xmldsig-more#rsa-sha256", "RS256"),
    ("http://www.w3.org/2001/04/xmldsig-more#rsa-sha384", "RS384"),
    ("http://www.w3.org/2001/04/xmldsig-more#rsa-sha512", "RS512"),
    ("http://www.w3.org/2007/05/xmldsig-more#sha256-rsa-MGF1", "PS256"),
    ("http://www.w3.org/2007/05/xmldsig-more#sha384-rsa-MGF1", "PS384"),
    ("http://www.w3.org/2007/05/xmldsig-more#sha512-rsa-MGF1", "PS512"),
    ("http://www.w3.org/2001/04/xmldsig-more#ecdsa-sha256", "ES256"),
    ("http://www.w3.org/2001/04/xmldsig-more#ecdsa-sha384", "ES384"),
    ("http://www.w3.org/2001/04/xmlenc#rsa-oaep-mgf1p", "RSA-OAEP"),
    ("http://www.w3.org/2001/04/xmlenc#rsa-1_5", "RSA1_5"),
    ("http://www.w3.org/2001/04/xmlenc#kw-aes128", "A128KW"),
    ("http://www.w3.org/2001/04/xmlenc#kw-aes256", "A256KW")]

structure Handler (σ : Type) where
  format : TokenFormat := .compact
  suite : CryptoSuite σ
  mapping : ClaimMapping := .standard
  settings : Settings := .standard
  algorithmNames : Table String := standardAlgorithmNames

namespace Handler

variable {σ : Type}

def withSettings (handler : Handler σ) (settings : Settings) : Except Fault (Handler σ) := do
  settings.check
  return { handler with settings }

def withMaximumTokenSize (handler : Handler σ) (size : Nat) : Except Fault (Handler σ) :=
  handler.withSettings { handler.settings with maximumTokenSize := size }

def algorithmName (handler : Handler σ) (algorithm : String) : String :=
  (handler.algorithmNames.get? algorithm).getD algorithm

def canRead (handler : Handler σ) (raw : String) : Bool :=
  decide (raw.utf8ByteSize ≤ handler.settings.maximumTokenSize) && handler.format.canRead raw

def read (handler : Handler σ) (raw : String) : Except Fault Token := do
  Compact.checkSize raw handler.settings.maximumTokenSize
  handler.format.parse true raw

def write (handler : Handler σ) (token : Token) : Except Fault String :=
  handler.format.write token

end Handler

end SecurityToken
