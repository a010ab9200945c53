import SecurityToken.Handler.Basic
import SecurityToken.Handler.Draft
import SecurityToken.Session

/-!
The making of a token from a draft. A token that is to be encrypted is signed first, and its text is
what gets encrypted.
-/

namespace SecurityToken

variable {σ ρ : Type}

abbrev Creation (σ ρ α : Type) := ExceptT CreationError (StateM (Session σ ρ)) α

namespace Creation

def failure (kind : FaultKind) (action algorithm : String) (cause : CryptoFault) : Fault :=
  let kind := if cause.isUnsupported then .unsupportedAlgorithm else kind
  (Fault.new kind ("cannot " ++ action ++ " with '" ++ algorithm ++ "'"))
    |>.withContext Detail.algorithm algorithm
    |>.becauseOf cause

def signingFailure : String → CryptoFault → Fault := failure .configurationError "sign"

def encryptionFailure : String → CryptoFault → Fault := failure .encryptionFailed "encrypt"

def hinted (header : Header) (key : Key) : Header :=
  (header.insertText? "kid" key.keyId).insertText? "x5t" key.thumbprint

/-- The members of a header that a draft may set. -/
def extra (header : Header) : List (String × Json) :=
  header.members.entries.filter fun member => member.1 != "alg" && member.1 != "enc"

def signedHeader (draft : Draft) (algorithm : String) : Header :=
  let header := (Header.empty.insertText "alg" algorithm).insertText "typ" "JWT"
  let header :=
    match draft.signing with
    | some credential => hinted header credential.key
    | none => header
  (extra draft.header).foldl (fun header member => header.insert member.1 member.2) header

def encryptedHeader (key : Key) (algorithm encryption : String) : Header :=
  let header := (Header.empty.insertText "alg" algorithm).insertText "enc" encryption
  ((hinted header key).insertText "typ" "JWT").insertText "cty" "JWT"

def serve {α : Type} (failure : String → CryptoFault → Fault) (algorithm : String) :
    Except CryptoFault α → Run σ ρ α
  | .ok answer => return answer
  | .error cause => throw (failure algorithm cause)

end Creation

namespace Handler

open Creation

/-- The algorithm that is written into a token. An unsigned token has the algorithm "none". -/
def signingAlgorithm (handler : Handler σ) (draft : Draft) : String :=
  match draft.signing with
  | some credential => handler.algorithmName credential.algorithm
  | none => "none"

/-- The signature of a draft; without a credential it is empty. -/
def signature (handler : Handler σ) (entropy : Entropy) (draft : Draft) (input : String) :
    Run σ ρ Bytes := do
  match draft.signing with
  | none => return []
  | some credential =>
      let algorithm := handler.algorithmName credential.algorithm
      let answer ← Run.ask (.signatureScheme algorithm)
        (handler.suite.signature credential.key algorithm true)
      let scheme ← serve signingFailure algorithm answer
      serve signingFailure algorithm (scheme.sign entropy (Bytes.ofText input))

def sign (handler : Handler σ) (entropy : Entropy) (draft : Draft) (claims : ClaimSet) :
    Run σ ρ Token := do
  let header := signedHeader draft (handler.signingAlgorithm draft)
  let input := Compact.encodeParts header claims
  let signature ← handler.signature entropy draft input
  return .signed (Compact.writeSigned input signature) header claims signature

/-- Encrypts the text of a token. A key scheme that does not fix the content key has one drawn. -/
def encrypt (handler : Handler σ) (entropy : Entropy) (credential : EncryptingCredential)
    (inner : Token) : Run σ ρ Token := do
  let encryption := handler.algorithmName credential.contentAlgorithm
  let algorithm := handler.algorithmName credential.keyAlgorithm
  let cipher ← serve encryptionFailure encryption
    (← Run.ask (.contentCipher encryption) (handler.suite.content encryption))
  let scheme ← serve encryptionFailure algorithm
    (← Run.ask (.keyScheme algorithm) (handler.suite.keyManagement credential.key algorithm))
  let contentKey := scheme.ownKey.getD (entropy.bytes .contentKey cipher.keySize)
  let encryptedKey ← serve encryptionFailure algorithm (scheme.wrap entropy contentKey)
  let header := encryptedHeader credential.key algorithm encryption
  let encodedHeader := Compact.encodeJson header.json
  let sealing ← serve encryptionFailure encryption
    (cipher.encrypt entropy (Bytes.ofText inner.raw) (Bytes.ofText encodedHeader) contentKey)
  let content : SealedContent := ⟨encryptedKey, sealing.iv, sealing.ciphertext, sealing.tag⟩
  return .encrypted (Compact.writeEncrypted encodedHeader content) header content (some inner)

def signAndEncrypt (handler : Handler σ) (entropy : Entropy) (draft : Draft) (claims : ClaimSet) :
    Run σ ρ Token := do
  let token ← handler.sign entropy draft claims
  match draft.encrypting with
  | some credential => handler.encrypt entropy credential token
  | none => return token

def create (handler : Handler σ) (entropy : Entropy) (now : Instant) (draft : Draft) :
    Creation σ ρ Token := do
  let claims ← draft.claimSet handler.mapping handler.settings now
  ExceptT.adapt .refused (handler.signAndEncrypt entropy draft claims)

def createText (handler : Handler σ) (entropy : Entropy) (now : Instant) (draft : Draft) :
    Creation σ ρ String := do
  let token ← handler.create entropy now draft
  ExceptT.mk (pure ((handler.write token).mapError .refused))

end Handler

end SecurityToken
