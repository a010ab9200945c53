import SecurityToken.Claim.Basic
import SecurityToken.Claim.Names

/-!
The mapping between the names of claims on the wire and the types of claims in an identity, and
the names that are left out on the way in.
-/

namespace SecurityToken

structure ClaimMapping where
  inbound : Table String
  outbound : Table String
  ignored : List String

namespace ClaimMapping

def empty : ClaimMapping := ⟨∅, ∅, []⟩

def standard : ClaimMapping :=
  ⟨Table.ofList (standardNames ++ aliases),
    Table.ofList (standardNames.map fun entry => (entry.2, entry.1)), []⟩

def withName (mapping : ClaimMapping) (short long : String) : ClaimMapping :=
  { mapping with
    inbound := mapping.inbound.insert short long
    outbound := mapping.outbound.insert long short }

def ignoring (mapping : ClaimMapping) (names : List String) : ClaimMapping :=
  { mapping with ignored := names.eraseDups }

def ignores (mapping : ClaimMapping) (name : String) : Bool :=
  mapping.ignored.contains name

def inboundType (mapping : ClaimMapping) (name : String) : String :=
  (mapping.inbound.get? name).getD name

def outboundType (mapping : ClaimMapping) (type : String) : String :=
  (mapping.outbound.get? type).getD type

/-- The wire name of a claim: that of its type, else the one it came with, else its type. -/
def outboundName (mapping : ClaimMapping) (claim : Claim) : String :=
  (mapping.outbound.get? claim.type).getD (claim.shortType?.getD claim.type)

/-- Gives a claim the long type of its name, if it has one, and records the name. -/
def lengthen (mapping : ClaimMapping) (name : String) (claim : Claim) : Claim :=
  match mapping.inbound.get? name with
  | some long => { claim with type := long }.withProperty Claim.shortTypeProperty name
  | none => claim

def extractMember (mapping : ClaimMapping) (issuer : String) (mapped : Bool)
    (member : String × Json) : List Claim :=
  if mapping.ignores member.1 then []
  else
    (Claim.ofJson member.1 member.2).map fun claim =>
      let claim := claim.withIssuer issuer
      if mapped then mapping.lengthen member.1 claim else claim

def extract (mapping : ClaimMapping) (claims : ClaimSet) (issuer : String) (mapped : Bool) :
    List Claim :=
  claims.members.entries.flatMap (mapping.extractMember issuer mapped)

def assemble (mapping : ClaimMapping) (claims : List Claim) : ClaimSet :=
  .ofEntries (claims.map fun claim => (mapping.outboundName claim, claim.json))

end ClaimMapping

end SecurityToken
