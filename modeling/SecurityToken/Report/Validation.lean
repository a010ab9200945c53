import SecurityToken.Report.Token
import SecurityToken.Validation.Identity
import SecurityToken.Validation.Policy

/-!
Keys, policies and identities as JSON. No report tells anything of the material of a key.
-/

namespace SecurityToken

def Key.report (key : Key) : Json :=
  .object [("kind", .string key.material.family), ("kid", .ofOptionalText key.keyId),
    ("x5t", .ofOptionalText key.thumbprint), ("bits", .ofNat key.bits),
    ("private", .bool key.hasPrivate)]

namespace Policy

variable {ρ : Type}

def reportMembers (policy : Policy ρ) : List (String × Json) :=
  let flags := Json.ofList Json.bool
  [("validate", flags [policy.validateIssuer, policy.validateAudience, policy.validateLifetime,
      policy.validateActor, policy.validateSigningKey, policy.detectReplay]),
    ("require", flags [policy.requireSignature, policy.requireExpiration, policy.requireResolver]),
    ("save_signin_token", .bool policy.keepToken),
    ("clock_skew_seconds", .ofInt policy.clockSkew.seconds),
    ("maximum_token_size", .ofOption .ofNat policy.maximumTokenSize),
    ("keys", .ofList .ofNat [policy.signingKeys.length, policy.decryptionKeys.length]),
    ("valid_issuer", .ofOptionalText policy.issuer), ("valid_issuers", .ofTexts policy.issuers),
    ("valid_audience", .ofOptionalText policy.audience),
    ("valid_audiences", .ofTexts policy.audiences),
    ("validators", flags [policy.issuerValidator.isSome, policy.audienceValidator.isSome,
      policy.lifetimeValidator.isSome, policy.signatureValidator.isSome,
      policy.signingKeyValidator.isSome, policy.signingKeyResolver.isSome,
      policy.decryptionKeyResolver.isSome, policy.replayStore.isSome]),
    ("now", .string policy.now.text), ("debug", .string policy.text)]

def report (policy : Policy ρ) : Json :=
  let actor :=
    match _found : policy.actor with
    | some actor => actor.report
    | none => .null
  .object (policy.reportMembers ++ [("actor", actor)])
termination_by sizeOf policy
decreasing_by
  cases policy
  simp_all only [Policy.mk.sizeOf_spec, Option.some.sizeOf_spec]
  omega

end Policy

/-- An identity with those of its actors. The text that was validated reads as given. -/
def Identity.report (raw : String) (identity : Identity) : Json :=
  let shown (text : String) : String := if text = raw then "<given>" else text
  let token := identity.token
  let actor :=
    match _found : identity.actor with
    | some actor => actor.report (token.claims.actorToken?.getD "")
    | none => .null
  .object [("issuer", .string identity.issuer), ("claims", .ofList Claim.report identity.claims),
    ("name", .ofOptionalText identity.name?), ("roles", .ofTexts identity.roles),
    ("claim_set", .string identity.claimSet.json.text),
    ("bootstrap_token", .ofOptionalText (identity.bootstrapToken.map shown)),
    ("signing_key", .ofOption Key.report identity.signingKey),
    ("token", .object [("raw", .string (shown token.raw)),
      ("header", .string token.header.json.text),
      ("signature_bytes", .ofNat token.signature.length),
      ("is_encrypted", .bool token.isEncrypted)]),
    ("actor", actor)]
termination_by sizeOf identity
decreasing_by
  cases identity
  simp_all only [Identity.mk.sizeOf_spec, Option.some.sizeOf_spec]
  omega

end SecurityToken
