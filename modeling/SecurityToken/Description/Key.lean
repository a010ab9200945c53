import SecurityToken.Crypto.Key
import SecurityToken.Crypto.KeyDocument
import SecurityToken.Description.Basic

/-!
Descriptions of keys: the kind of the key, its numbers or its document, and the hints that pick it
out.
-/

namespace SecurityToken

namespace KeyMaterial

def accept (half : String) : Option KeyMaterial → Described KeyMaterial
  | some material => .ok material
  | none => .error (.refused (.invalidKey ("Invalid " ++ half ++ " key")))

def describedRsaPair (key : Option Rsa.PrivateKey) : Described KeyMaterial :=
  accept "RSA private" (key.map .rsaPair)

def describedRsaPublic (key : Option Rsa.PublicKey) : Described KeyMaterial :=
  accept "RSA public" (key.map .rsaPublic)

def curveName : Curve → String
  | .p256 => "P-256"
  | .p384 => "P-384"

def describedCurvePair (curve : Curve) (key : Option (Curve.PrivateKey curve)) :
    Described KeyMaterial :=
  accept (curveName curve ++ " private") (key.map (.curvePair curve ·))

def describedCurvePublic (curve : Curve) (key : Option (Point curve)) : Described KeyMaterial :=
  accept (curveName curve ++ " public") (key.map (.curvePublic curve ·))

/-- The material of a description, by its kind. Numbers have their most significant byte first. -/
def ofDescription (description : Json) : Described KeyMaterial := do
  let number (field : String) : Described Nat := return Bytes.toNat (← description.bytesAt field)
  let content := description.bytesAt "hex"
  match ← description.textAt "kind" with
  | "symmetric" => return .secret (← content)
  | "rsa" =>
      describedRsaPair (Rsa.PrivateKey.ofNumbers? (← number "n") (← number "e") (← number "d")
        (← number "p") (← number "q"))
  | "rsa_public" => 
      describedRsaPublic (Rsa.PublicKey.ofPublishedNumbers? (← number "n") (← number "e"))
  | "rsa_der" => describedRsaPair (KeyDocument.rsaPrivate? (← content))
  | "rsa_pem" =>
      describedRsaPair (KeyDocument.rsaPrivateOfText? (← description.textAt "pem"))
  | "rsa_public_der" => describedRsaPublic (KeyDocument.rsaPublic? (← content))
  | "p256" => describedCurvePair .p256 (Curve.PrivateKey.ofBytes? .p256 (← content))
  | "p384" => describedCurvePair .p384 (Curve.PrivateKey.ofBytes? .p384 (← content))
  | "p256_public" => describedCurvePublic .p256 (Point.ofBytes? .p256 (← content))
  | "p384_public" => describedCurvePublic .p384 (Point.ofBytes? .p384 (← content))
  | "p256_der" => describedCurvePair .p256 (KeyDocument.curvePrivate? .p256 (← content))
  | "p384_der" => describedCurvePair .p384 (KeyDocument.curvePrivate? .p384 (← content))
  | _ => throw (.unknown "key kind")

end KeyMaterial

/-- The key of a description, under a handle; on demand it is only the public half. -/
def Key.ofDescription (handle : KeyHandle) (description : Json) : Described Key := do
  let key : Key := ⟨handle, description.textAt? "kid", description.textAt? "x5t",
    ← KeyMaterial.ofDescription description⟩
  return if description.flagAt? "public" = some true then key.toPublic handle else key

end SecurityToken
