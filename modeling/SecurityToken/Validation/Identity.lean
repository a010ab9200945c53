import SecurityToken.Claim.Basic
import SecurityToken.Crypto.Key
import SecurityToken.Token.Basic

/-!
Who presents a token, as far as its validation establishes it.
-/

namespace SecurityToken

/-- What a valid token says of its bearer. -/
structure Identity where
  claims : List Claim
  issuer : String
  /-- The text of the token, if the policy has it kept. -/
  bootstrapToken : Option String
  /-- The party that acts for the subject, with a token of its own. -/
  actor : Option Identity
  /-- The key that verified the signature; none if nothing was verified with a key. -/
  signingKey : Option Key
  nameClaimType : String
  roleClaimType : String
  /-- The token that was validated, out of any encryption. -/
  token : Token

namespace Identity

def claimsOf (identity : Identity) (type : String) : List Claim :=
  identity.claims.filter fun claim => claim.type == type

def firstOf? (identity : Identity) (type : String) : Option Claim :=
  identity.claims.find? fun claim => claim.type == type

def hasClaim (identity : Identity) (type value : String) : Bool :=
  (identity.claimsOf type).any fun claim => claim.value == value

def name? (identity : Identity) : Option String :=
  (identity.firstOf? identity.nameClaimType).map Claim.value

def roles (identity : Identity) : List String :=
  (identity.claimsOf identity.roleClaimType).map Claim.value

def claimSet (identity : Identity) : ClaimSet :=
  .ofEntries (identity.claims.map fun claim => (claim.type, claim.json))

end Identity

end SecurityToken
