import SecurityToken.Compact.Parser
import SecurityToken.Description.Fault
import SecurityToken.Validation.Policy

/-!
Descriptions of policies, as far as they need no key and no store: a preset to start from, then the
clock, tolerance, limits, issuers, audiences, switches, and rules that take the place of checks.
-/

namespace SecurityToken

namespace Policy

variable {ρ : Type}

def ofPreset (preset : Option String) (now : Instant) : Policy ρ :=
  match preset with
  | some "strict" => .strict now
  | some "insecure" => .lenient now
  | _ => .standard now

/-- The reading of the clock unless another is given: the fourteenth of November 2023. -/
def describedClock : Instant := ⟨1700000000 * 1000000000, by decide, by decide⟩

/-- The tolerance, in whole seconds or in milliseconds, unless none is given. -/
def describedSkew? (description : Json) : Described (Option Duration) :=
  let given :=
    match description.integerAt? "clock_skew" with
    | some seconds => some (Duration.ofSeconds? seconds)
    | none => (description.integerAt? "clock_skew_ms").map Duration.ofMilliseconds?
  match given with
  | some (some skew) => .ok (some skew)
  | some none => .error (.outOfRange "clock_skew")
  | none => .ok none

def withSwitches (policy : Policy ρ) (description : Json) : Policy ρ :=
  let switch (name : String) (value : Bool) := (description.flagAt? name).getD value
  { policy with
    validateIssuer := switch "validate_issuer" policy.validateIssuer
    validateAudience := switch "validate_audience" policy.validateAudience
    validateLifetime := switch "validate_lifetime" policy.validateLifetime
    requireSignature := switch "require_signed_tokens" policy.requireSignature
    requireExpiration := switch "require_expiration_time" policy.requireExpiration
    validateActor := switch "validate_actor" policy.validateActor
    validateSigningKey := switch "validate_issuer_signing_key" policy.validateSigningKey
    detectReplay := switch "validate_token_replay" policy.detectReplay
    keepToken := switch "save_signin_token" policy.keepToken
    requireResolver := switch "require_key_resolver" policy.requireResolver }

end Policy

/-! Rules in place of checks. -/
namespace Rule

def fault (rule : Json) : Fault :=
  match Fault.ofDescription ((rule.at? "error").getD .null) with
  | .ok fault => fault
  | .error _ => .new .internal "rule without a fault"

def verdict (rule : Json) (isMatch : Bool) : Except Fault Bool :=
  match rule.textAt? "kind" with
  | some "accept" => .ok true
  | some "reject" => .ok false
  | some "match" => .ok isMatch
  | _ => .error (fault rule)

def issuer (rule : Json) (issuer : Option String) : Except Fault String :=
  match rule.textAt? "kind" with
  | some "fixed" => .ok ((rule.textAt? "value").getD "")
  | some "echo" => .ok ("echo:" ++ issuer.getD "<none>")
  | _ => .error (fault rule)

/-- The token itself or another one, read without a look at the signature, or a fault. Unless it is
ruled out, there may be no signature. -/
def signature (rule : Json) (raw : String) : Except Fault Token :=
  let parse (raw : String) :=
    (Compact.parse (rule.flagAt? "allow_unsigned" ≠ some false) raw).mapError (·.fault)
  match rule.textAt? "kind" with
  | some "parse" => parse raw
  | some "replace" => parse ((rule.textAt? "value").getD "")
  | _ => .error (fault rule)

end Rule

def Policy.ofDescription {ρ : Type} (description : Json) : Described (Policy ρ) := do
  let now := (← description.instantAt? "clock").getD describedClock
  let policy := ofPreset (description.textAt? "preset") now
  let rule (name : String) := description.at? name
  return { policy with
    clockSkew := (← describedSkew? description).getD policy.clockSkew
    maximumTokenSize := description.naturalAt? "maximum_token_size"
    issuer := description.textAt? "valid_issuer"
    issuers := description.textsAt "valid_issuers"
    audience := description.textAt? "valid_audience"
    audiences := description.textsAt "valid_audiences"
    validateSigningKey := (rule "signing_key_validator").isSome
    issuerValidator := (rule "issuer_validator").map fun rule issuer _ => Rule.issuer rule issuer
    audienceValidator := (rule "audience_validator").map fun rule audiences _ =>
      Rule.verdict rule ((rule.textAt? "value").any audiences.contains)
    lifetimeValidator := (rule "lifetime_validator").map fun rule _ expires _ =>
      Rule.verdict rule expires.isSome
    signatureValidator := (rule "signature_validator").map Rule.signature
    signingKeyValidator := (rule "signing_key_validator").map fun rule key _ =>
      Rule.verdict rule (key.keyId == rule.textAt? "value") }

end SecurityToken
