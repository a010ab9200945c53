/-!
What can go wrong with keys and cryptographic schemes, and how each failure is worded.
-/

namespace SecurityToken

inductive CryptoFault where
  | unsupportedAlgorithm (name : String)
  | invalidKey (reason : String)
  | keyMismatch (handle : Nat) (algorithm : String)
  | keyLength (expected actual : Nat)
  | keyTooSmall (minimumBits actualBits : Nat)
  | noPrivateKey
  | signing (reason : String)
  | wrapping (reason : String)
  | unwrapping
  | encryption (reason : String)
  | authentication
  deriving DecidableEq, Repr

namespace CryptoFault

def name : CryptoFault → String
  | unsupportedAlgorithm _ => "UnsupportedAlgorithm"
  | invalidKey _ | keyMismatch _ _ => "InvalidKey"
  | keyLength _ _ => "InvalidKeyLength"
  | keyTooSmall _ _ => "KeyTooSmall"
  | noPrivateKey => "MissingPrivateKey"
  | signing _ => "SigningFailed"
  | wrapping _ => "WrapFailed"
  | unwrapping => "UnwrapFailed"
  | encryption _ => "EncryptionFailed"
  | authentication => "AuthenticationFailed"

def isUnsupported : CryptoFault → Bool
  | unsupportedAlgorithm _ => true
  | _ => false

def message : CryptoFault → String
  | unsupportedAlgorithm name => "Unsupported algorithm: " ++ name
  | invalidKey reason => "Invalid key: " ++ reason
  | keyMismatch handle algorithm =>
      "Invalid key: key#" ++ toString handle ++ " cannot be used with " ++ algorithm
  | keyLength expected actual =>
      "Invalid key length: expected " ++ toString expected ++ ", got " ++ toString actual
  | keyTooSmall minimumBits actualBits =>
      "Key too small: minimum " ++ toString minimumBits ++ " bits, got " ++ toString actualBits ++
        " bits"
  | noPrivateKey => "Key has no private component"
  | signing reason => "Signing failed: " ++ reason
  | wrapping reason => "Key wrap failed: " ++ reason
  | unwrapping => "Key unwrap failed"
  | encryption reason => "Encryption failed: " ++ reason
  | authentication => "Authentication failed"

end CryptoFault

end SecurityToken
