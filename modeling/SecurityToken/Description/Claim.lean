import SecurityToken.Claim.Mapping
import SecurityToken.Description.Basic

/-!
Descriptions of claims and of the mapping of their names.
-/

namespace SecurityToken

namespace Claim

def describedValues (description : Json) : Described (List Claim) := do
  let type ← description.textAt "type"
  match description.textAt? "json" with
  | some source => return ofJson type (← Json.jsonOf source)
  | none =>
      let value ← description.textAt "value"
      match ClaimKind.ofName? ((description.textAt? "value_type").getD "string") with
      | some kind => return [.new type value kind]
      | none => throw (.unknown "value_type")

def ofDescription (description : Json) : Described (List Claim) := do
  return (← describedValues description).map fun claim =>
    let claim := ((description.textAt? "issuer").map claim.withIssuer).getD claim
    (description.pairsAt "properties").foldl
      (fun claim property => claim.withProperty property.1 property.2) claim

def describedAt (description : Json) (field : String) : Described (List Claim) := do
  return (← (description.itemsAt field).mapM ofDescription).flatten

end Claim

def ClaimMapping.ofDescription (description : Json) : ClaimMapping :=
  let base := if description.textAt? "base" = some "empty" then empty else standard
  let mapping := (description.pairsAt "mappings").foldl
    (fun mapping names => mapping.withName names.1 names.2) base
  if (description.at? "filter").isSome then mapping.ignoring (description.textsAt "filter")
  else mapping

end SecurityToken
