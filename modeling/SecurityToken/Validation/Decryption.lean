import SecurityToken.Handler.Basic
import SecurityToken.Session

/-!
The way from an encrypted token to the token inside. The candidate keys are tried in turn until one
unwraps the content key and opens the content; whatever kept the others from it, the fault is the
same.
-/

namespace SecurityToken

variable {σ ρ : Type}

namespace Decryption

def unsupported (algorithm : String) : Fault :=
  (Fault.new .unsupportedAlgorithm ("no provider for '" ++ algorithm ++ "'")).withContext
    Detail.algorithm algorithm

def failed (keysTried : Nat) : Fault :=
  (Fault.new .decryptionFailed "token could not be decrypted").withContext Detail.keysTried
    (toString keysTried)

def open? (scheme : KeyScheme) (cipher : ContentCipher) (content : SealedContent)
    (associated : Bytes) : Option Bytes :=
  match scheme.unwrap content.encryptedKey with
  | .error _ => none
  | .ok contentKey =>
      (cipher.decrypt ⟨content.ciphertext, content.iv, content.tag⟩ associated contentKey).toOption

def claims? (payload : String) : Option ClaimSet :=
  match Json.ofText? payload with
  | some (.object members) => some ⟨Table.ofList members⟩
  | _ => none

def isObject (payload : String) : Bool :=
  (Text.dropBlank payload).head? == some '{'

end Decryption

def Settings.tooDeep (settings : Settings) : Fault :=
  .malformed ("tokens nested deeper than " ++ toString settings.maximumNestingDepth ++ " levels")

namespace Handler

def parse (handler : Handler σ) (policy : Policy ρ) (raw : String) : Run σ ρ Token := do
  let allowUnsigned := !policy.requireSignature
  Run.note (.parse allowUnsigned raw)
  handler.format.parse allowUnsigned raw

def candidates (policy : Policy ρ) (use : KeyUse) (token : Token) : Run σ ρ (List Key) := do
  if (policy.activeResolver? use).isSome then
    Run.note (.resolveKeys use token.raw token.header)
  return policy.candidates use token.raw token.header

/-- Tries keys in turn. A key that gets no scheme is passed over and does not count as tried. -/
def openWith (handler : Handler σ) (algorithm : String) (cipher : ContentCipher)
    (content : SealedContent) (associated : Bytes) (tried : Nat) : List Key → Run σ ρ Bytes
  | [] => throw (Decryption.failed tried)
  | key :: rest => do
      match ← Run.ask (.keyScheme algorithm) (handler.suite.keyManagement key algorithm) with
      | .error fault =>
          if fault.isUnsupported then throw (Decryption.unsupported algorithm)
          else handler.openWith algorithm cipher content associated tried rest
      | .ok scheme =>
          match Decryption.open? scheme cipher content associated with
          | some plaintext => return plaintext
          | none => handler.openWith algorithm cipher content associated (tried + 1) rest

def plaintext (handler : Handler σ) (policy : Policy ρ) (token : Token) : Run σ ρ Bytes := do
  match token.header.algorithm?, token.header.encryption?, token.content? with
  | some algorithm, some encryption, some content =>
      match ← Run.ask (.contentCipher encryption) (handler.suite.content encryption) with
      | .error fault =>
          throw (if fault.isUnsupported then Decryption.unsupported encryption
            else Decryption.failed 0)
      | .ok cipher =>
          let keys ← candidates policy .decryption token
          handler.openWith algorithm cipher content (Bytes.ofText (Compact.segment token.raw 0)) 0
            keys
  | _, _, _ => throw (.malformed "encrypted token is missing 'alg', 'enc' or parts")

def payload (handler : Handler σ) (policy : Policy ρ) (token : Token) : Run σ ρ String := do
  match Bytes.text? (← handler.plaintext policy token) with
  | some payload => return payload
  | none => throw (.malformed "decrypted payload is not UTF-8")

/-- An encrypted token with what is inside, opened through as many further layers as remain. A
payload that is a JSON object counts as an unsigned token with the outer header. -/
def decrypt (handler : Handler σ) (policy : Policy ρ) (remaining : Nat) (token : Token) :
    Run σ ρ Token := do
  let payload ← handler.payload policy token
  if Decryption.isObject payload then
    match Decryption.claims? payload with
    | some claims => return token.withInner (.signed token.raw token.header claims [])
    | none => throw (.malformed "decrypted payload is not a JSON object")
  else
    match remaining with
    | 0 => throw handler.settings.tooDeep
    | remaining + 1 =>
        let nested ← handler.parse policy payload
        if nested.isEncrypted then
          return token.withInner (← handler.decrypt policy remaining nested)
        else return token.withInner nested
termination_by structural remaining

end Handler

end SecurityToken
