import SecurityToken.Crypto.Curve.Signature
import SecurityToken.Crypto.Der
import SecurityToken.Crypto.Pem
import SecurityToken.Crypto.Rsa.Key

/-!
Keys in documents of distinguished encoding: private keys (PKCS #8) and public keys, each with the
name of its algorithm.
-/

namespace SecurityToken.KeyDocument

open Der

namespace Name

def rsa : Bytes := [0x2a, 0x86, 0x48, 0x86, 0xf7, 0x0d, 0x01, 0x01, 0x01]

def ellipticCurve : Bytes := [0x2a, 0x86, 0x48, 0xce, 0x3d, 0x02, 0x01]

def curve : Curve → Bytes
  | .p256 => [0x2a, 0x86, 0x48, 0xce, 0x3d, 0x03, 0x01, 0x07]
  | .p384 => [0x2b, 0x81, 0x04, 0x00, 0x22]

end Name

def algorithm (name : Bytes) (parameter : Element) : List Element :=
  [⟨Tag.objectIdentifier, name⟩, parameter]

def rsaAlgorithm : List Element := algorithm Name.rsa ⟨Tag.null, []⟩

def curveAlgorithm (curve : Curve) : List Element :=
  algorithm Name.ellipticCurve ⟨Tag.objectIdentifier, Name.curve curve⟩

/-- Whether the numbered fields behind a private key fit its version. The second version has a public
key in field one, which the first version must not have. Before it there may be anything in field
zero, and behind it any fields with one element each. -/
def fieldsFit (version : Nat) (fields : List Element) : Bool :=
  let isExtension (element : Element) : Bool := element.inner?.isSome
  match fields.dropWhile (Element.isNumbered 0) with
  | [] => version == 0
  | first :: rest =>
      if first.isNumbered 1 then
        version == 1 && first.tag == Tag.field 1 && first.content.head? == some 0 &&
          rest.all isExtension
      else version == 0 && isExtension first && rest.all isExtension

def privateContent? (expected : List Element) (bytes : Bytes) : Option Bytes :=
  match sequence? bytes with
  | some (version :: description :: key :: fields) => do
      let version ← version.natural?
      let description ← elements? (← description.content? Tag.sequence)
      let key ← key.content? Tag.octetString
      if description = expected ∧ fieldsFit version fields then some key else none
  | _ => none

def publicContent? (expected : List Element) (bytes : Bytes) : Option Bytes :=
  match sequence? bytes with
  | some [description, key] => do
      let description ← elements? (← description.content? Tag.sequence)
      let key ← key.bitString?
      if description = expected then some key else none
  | _ => none

def rsaPrivate? (bytes : Bytes) : Option Rsa.PrivateKey := do
  let key ← privateContent? rsaAlgorithm bytes
  match (← (← sequence? key).mapM Element.natural?) with
  | [0, modulus, publicExponent, exponent, first, second, _, _, _] =>
      Rsa.PrivateKey.ofNumbers? modulus publicExponent exponent first second
  | _ => none

def rsaPrivateOfText? (text : String) : Option Rsa.PrivateKey := do
  rsaPrivate? (← Pem.document? "PRIVATE KEY" text)

def rsaPublic? (bytes : Bytes) : Option Rsa.PublicKey := do
  let key ← publicContent? rsaAlgorithm bytes
  match (← (← sequence? key).mapM Element.natural?) with
  | [modulus, exponent] => Rsa.PublicKey.ofPublishedNumbers? modulus exponent
  | _ => none

/-- Whether the fields behind a scalar fit it: some name in field zero, which no one looks up, and
the point of the key in field one. Either may be missing, and more may come in field zero. -/
def curveFieldsFit (curve : Curve) (key : Curve.PrivateKey curve) (fields : List Element) : Bool :=
  let isName (element : Element) : Bool := element.inner?.any Element.isIdentifier
  let isPoint (element : Element) : Bool :=
    element.tag == Tag.wrapped 1 &&
      match element.inner?.bind Element.bitString? with
      | some bytes => bytes == key.point.bytes || bytes == key.point.compressedBytes
      | none => false
  fields.head?.all (fun first => !first.isNumbered 0 || isName first) &&
    match fields.dropWhile (Element.isNumbered 0) with
    | [] => true
    | [field] => isPoint field
    | _ => false

def curvePrivate? (curve : Curve) (bytes : Bytes) : Option (Curve.PrivateKey curve) := do
  let content ← privateContent? (curveAlgorithm curve) bytes
  match (← sequence? content) with
  | version :: scalar :: fields => do
      let version ← version.natural?
      let key ← Curve.PrivateKey.ofBytes? curve (← scalar.content? Tag.octetString)
      if version = 1 ∧ curveFieldsFit curve key fields then some key else none
  | _ => none

end SecurityToken.KeyDocument
