import SecurityToken.Crypto.Fault
import SecurityToken.Table

/-!
Why a token was refused or could not be made: a kind to act on, a message, and a table of details.
A fault may carry the cryptographic failure behind it, or the fault of the actor token inside.
-/

namespace SecurityToken

inductive FaultKind where
  | malformedToken
  | tokenTooLarge
  | unsupportedAlgorithm
  | noSignatureKeyAvailable
  | invalidSignature
  | signatureRequiredButMissing
  | invalidSigningKey
  | decryptionFailed
  | invalidIssuer
  | invalidAudience
  | invalidLifetime
  | tokenReplayed
  | encryptionFailed
  | configurationError
  | internal
  deriving DecidableEq, Repr

namespace FaultKind

def all : List FaultKind :=
  [malformedToken, tokenTooLarge, unsupportedAlgorithm, noSignatureKeyAvailable, invalidSignature,
    signatureRequiredButMissing, invalidSigningKey, decryptionFailed, invalidIssuer,
    invalidAudience, invalidLifetime, tokenReplayed, encryptionFailed, configurationError,
    internal]

def name : FaultKind → String
  | malformedToken => "MalformedToken"
  | tokenTooLarge => "TokenTooLarge"
  | unsupportedAlgorithm => "UnsupportedAlgorithm"
  | noSignatureKeyAvailable => "NoSignatureKeyAvailable"
  | invalidSignature => "InvalidSignature"
  | signatureRequiredButMissing => "SignatureRequiredButMissing"
  | invalidSigningKey => "InvalidSigningKey"
  | decryptionFailed => "DecryptionFailed"
  | invalidIssuer => "InvalidIssuer"
  | invalidAudience => "InvalidAudience"
  | invalidLifetime => "InvalidLifetime"
  | tokenReplayed => "TokenReplayed"
  | encryptionFailed => "EncryptionFailed"
  | configurationError => "ConfigurationError"
  | internal => "Internal"

def ofName? (name : String) : Option FaultKind :=
  all.find? fun kind => kind.name == name

end FaultKind

structure Fault where
  kind : FaultKind
  message : String
  context : Table String
  crypto : Option CryptoFault
  nested : Option Fault

/-! The names of the details that faults carry. -/
namespace Detail

def stage : String := "stage"
def invalidIssuer : String := "invalid_issuer"
def invalidAudience : String := "invalid_audience"
def notBefore : String := "not_before"
def expires : String := "expires"
def algorithm : String := "algorithm"
def keyId : String := "kid"
def keysTried : String := "keys_tried"
def tokenSize : String := "token_size"
def maximumSize : String := "maximum_size"
def format : String := "format"

end Detail

namespace Fault

def new (kind : FaultKind) (message : String) : Fault :=
  ⟨kind, message, ∅, none, none⟩

def withContext (fault : Fault) (key value : String) : Fault :=
  { fault with context := fault.context.insert key value }

def withContext? (fault : Fault) (key : String) (value : Option String) : Fault :=
  match value with
  | some value => fault.withContext key value
  | none => fault

def becauseOf (fault : Fault) (cause : CryptoFault) : Fault :=
  { fault with crypto := some cause, nested := none }

/-- Records the fault of another token behind the fault. -/
def wrapping (fault inner : Fault) : Fault :=
  { fault with crypto := none, nested := some inner }

def malformed (message : String) : Fault :=
  new .malformedToken message

def configuration (message : String) : Fault :=
  new .configurationError message

def text (fault : Fault) : String :=
  fault.kind.name ++ ": " ++ fault.message

end Fault

end SecurityToken
