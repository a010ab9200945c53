import SecurityToken.Compact.Base64url
import SecurityToken.Compact.Text
import SecurityToken.Json.Parser
import SecurityToken.Token.Basic

/-!
The reader of compact tokens. Three segments are a signed token whose signature may be empty, five
an encrypted one whose encrypted key may be empty; two are an unsigned token, where that is allowed.
-/

namespace SecurityToken.Compact

inductive Malformation where
  | segmentCount (count : Nat)
  | emptySegment
  | foreignCharacter (segment : Nat)
  | notBase64url (name : String)
  | notJson (name : String)
  | notObject (name : String)
  | noAlgorithm
  | noEncryption
  | emptyPart
  deriving DecidableEq

namespace Malformation

def message : Malformation → String
  | segmentCount count => "token has " ++ toString count ++ " segments, expected 3 or 5"
  | emptySegment => "header and payload segments must not be empty"
  | foreignCharacter segment =>
      "segment " ++ toString segment ++ " contains non-base64url characters"
  | notBase64url name => name ++ " segment is not base64url"
  | notJson name => name ++ " is not valid JSON"
  | notObject name => name ++ " is not a JSON object"
  | noAlgorithm => "header has no 'alg'"
  | noEncryption => "encrypted token header has no 'enc'"
  | emptyPart => "iv, ciphertext and tag segments must not be empty"

def fault (malformation : Malformation) : Fault :=
  .malformed malformation.message

end Malformation

/-- The number of segments that a text may have, their fillings and their alphabet. -/
def checkShape (allowUnsigned : Bool) (segments : List String) : Except Malformation Unit :=
  let count := segments.length
  if ¬(count = 3 ∨ count = 5 ∨ (count = 2 ∧ allowUnsigned)) then .error (.segmentCount count)
  else if segments.getD 0 "" = "" ∨ (count ≠ 5 ∧ segments.getD 1 "" = "") then .error .emptySegment
  else
    match segments.findIdx? fun segment => !segment.toList.all Base64url.isSymbol with
    | some index => .error (.foreignCharacter index)
    | none => .ok ()

/-- Whether a text has the shape of a compact token, its content aside. -/
def isCompact (allowUnsigned : Bool) (text : String) : Bool :=
  (checkShape allowUnsigned (segments text)).isOk

def decodeSegment (name segment : String) : Except Malformation Bytes :=
  match Base64url.decode segment.toList with
  | some bytes => .ok bytes
  | none => .error (.notBase64url name)

def decodeObject (name segment : String) : Except Malformation (Table Json) := do
  let bytes ← decodeSegment name segment
  match (Bytes.text? bytes).bind Json.ofText? with
  | some (.object members) => .ok (Table.ofList members)
  | some _ => .error (.notObject name)
  | none => .error (.notJson name)

def decodeContent (segments : List String) : Except Malformation SealedContent := do
  let encryptedKey ← decodeSegment "encrypted key" (segments.getD 1 "")
  let iv ← decodeSegment "iv" (segments.getD 2 "")
  let ciphertext ← decodeSegment "ciphertext" (segments.getD 3 "")
  let tag ← decodeSegment "authentication tag" (segments.getD 4 "")
  if iv = [] ∨ ciphertext = [] ∨ tag = [] then .error .emptyPart
  else .ok ⟨encryptedKey, iv, ciphertext, tag⟩

def decodeSignature (segments : List String) : Except Malformation Bytes :=
  if segments.length = 3 then decodeSegment "signature" (segments.getD 2 "") else .ok []

def parse (allowUnsigned : Bool) (text : String) : Except Malformation Token := do
  let segments := segments text
  checkShape allowUnsigned segments
  let header : Header := ⟨← decodeObject "header" (segments.getD 0 "")⟩
  if header.algorithm?.isNone then
    throw .noAlgorithm
  if segments.length = 5 then
    if header.encryption?.isNone then
      throw .noEncryption
    let content ← decodeContent segments
    return .encrypted text header content none
  let claims : ClaimSet := ⟨← decodeObject "payload" (segments.getD 1 "")⟩
  let signature ← decodeSignature segments
  return .signed text header claims signature

end SecurityToken.Compact
