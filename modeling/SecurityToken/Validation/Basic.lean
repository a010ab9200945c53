import SecurityToken.Validation.Check
import SecurityToken.Validation.Decryption
import SecurityToken.Validation.Identity
import SecurityToken.Validation.Signature

/-!
The validation of a token: size, form, encryption, signature, issuer, audience, lifetime, replay,
and then the token of the actor, if it carries one. The first stage that fails ends it, and the
fault names the stage.
-/

namespace SecurityToken

variable {σ ρ : Type}

def Fault.ofActor (inner : Fault) : Fault :=
  ((Fault.new inner.kind "actor token failed validation").withContext Detail.stage "actor").wrapping
    inner

namespace Handler

/-- Reads a token that is not too large, and opens it if it is encrypted. -/
def openToken (handler : Handler σ) (policy : Policy ρ) (remaining : Nat) (raw : String) :
    Run σ ρ Token := do
  let maximum := policy.maximumTokenSize.getD handler.settings.maximumTokenSize
  Run.atStage "size" (Compact.checkSize raw maximum)
  let token ← Run.atStage "parse" <|
    Run.adapting (·.withContext Detail.format handler.format.name) (handler.parse policy raw)
  if token.isEncrypted then Run.atStage "decrypt" (handler.decrypt policy remaining token)
  else return token

/-- Every stage but that of the actor. -/
def validateAlone (handler : Handler σ) (policy : Policy ρ) (remaining : Nat) (raw : String) :
    Run σ ρ Identity := do
  let opened ← handler.openToken policy remaining raw
  let verified ← Run.atStage "signature" (handler.verify policy opened.innermost)
  let token := verified.token
  let issuer ← Run.atStage "issuer" (Validation.checkIssuer policy token)
  Run.atStage "audience" (Validation.checkAudience policy token)
  let expires ← Run.atStage "lifetime" (Validation.checkLifetime policy token)
  Run.atStage "replay" (Validation.checkReplay policy raw expires)
  return {
    claims := handler.mapping.extract token.claims issuer handler.settings.mapInboundClaims
    issuer
    bootstrapToken := if policy.keepToken then some raw else none
    actor := none
    signingKey := verified.key
    nameClaimType := handler.settings.nameClaimType
    roleClaimType := handler.settings.roleClaimType
    token }

/-- Validates a token inside which so many further levels may lie. -/
def validateWithin (handler : Handler σ) (policy : Policy ρ) (remaining : Nat) (raw : String) :
    Run σ ρ Identity := do
  let identity ← handler.validateAlone policy remaining raw
  match identity.token.claims.actorToken? with
  | none => return identity
  | some actorRaw =>
      if policy.validateActor then
        match remaining with
        | 0 => throw handler.settings.tooDeep.ofActor
        | remaining + 1 =>
            Run.note (.enterActor actorRaw)
            let actor ← Run.adapting Fault.ofActor
              (handler.validateWithin policy.actorPolicy remaining actorRaw)
            return { identity with actor := some actor }
      else return identity
termination_by structural remaining

def validate (handler : Handler σ) (policy : Policy ρ) (raw : String) : Run σ ρ Identity :=
  handler.validateWithin policy handler.settings.maximumNestingDepth raw

end Handler

end SecurityToken
