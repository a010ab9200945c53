import SecurityToken.Crypto.Key
import SecurityToken.Replay.Ledger
import SecurityToken.Text.Blank
import SecurityToken.Token.Basic

/-!
What a validation demands of a token: the checks that are on, the keys, issuers and audiences that
are trusted, and the functions that take the place of a check.
-/

namespace SecurityToken

abbrev KeyResolver := (raw : String) → Header → List Key

inductive KeyUse where
  | signing
  | decryption
  deriving DecidableEq, Repr

/-- The demands on a token. `ρ` is the state of the stores of presented tokens. -/
structure Policy (ρ : Type) where
  validateIssuer : Bool := true
  validateAudience : Bool := true
  validateLifetime : Bool := true
  requireSignature : Bool := true
  requireExpiration : Bool := true
  validateActor : Bool := false
  validateSigningKey : Bool := false
  detectReplay : Bool := true
  /-- Whether the identity keeps the text of the token. -/
  keepToken : Bool := false
  /-- By how much a token may be early or late. -/
  clockSkew : Duration := .fiveMinutes
  /-- Takes the place of the handler's limit on the bytes of a token. -/
  maximumTokenSize : Option Nat := none
  signingKeys : List Key := []
  decryptionKeys : List Key := []
  issuer : Option String := none
  issuers : List String := []
  audience : Option String := none
  audiences : List String := []
  signingKeyResolver : Option KeyResolver := none
  decryptionKeyResolver : Option KeyResolver := none
  /-- Whether the resolvers answer even where keys are given. -/
  requireResolver : Bool := false
  issuerValidator : Option (Option String → Token → Except Fault String) := none
  audienceValidator : Option (List String → Token → Except Fault Bool) := none
  lifetimeValidator :
    Option ((notBefore expires : Option Instant) → Token → Except Fault Bool) := none
  signatureValidator : Option (String → Except Fault Token) := none
  signingKeyValidator : Option (Key → Token → Except Fault Bool) := none
  replayStore : Option (ReplayStore ρ) := none
  /-- The demands on actor tokens, if they differ. -/
  actor : Option (Policy ρ) := none
  /-- The reading of the clock. -/
  now : Instant

namespace Policy

variable {ρ : Type}

def standard (now : Instant) : Policy ρ := { now }

def strict (now : Instant) : Policy ρ :=
  { now, clockSkew := .zero, validateActor := true }

def lenient (now : Instant) : Policy ρ :=
  { now, validateIssuer := false, validateAudience := false, validateLifetime := false,
    requireSignature := false, requireExpiration := false, detectReplay := false }

def accepted (single : Option String) (many : List String) : List String :=
  (single.toList ++ many).filter fun value => !Text.isBlank value

def acceptedIssuers (policy : Policy ρ) : List String :=
  accepted policy.issuer policy.issuers

def acceptedAudiences (policy : Policy ρ) : List String :=
  accepted policy.audience policy.audiences

/-- The demands on an actor token: those given for it, or else the same ones. -/
def actorPolicy (policy : Policy ρ) : Policy ρ :=
  policy.actor.getD policy

def keys (policy : Policy ρ) : KeyUse → List Key
  | .signing => policy.signingKeys
  | .decryption => policy.decryptionKeys

def resolver? (policy : Policy ρ) : KeyUse → Option KeyResolver
  | .signing => policy.signingKeyResolver
  | .decryption => policy.decryptionKeyResolver

/-- The resolver that answers for a use: it must, or no keys are given for that use. -/
def activeResolver? (policy : Policy ρ) (use : KeyUse) : Option KeyResolver :=
  if policy.requireResolver || (policy.keys use).isEmpty then policy.resolver? use else none

/-- Whether a header names a key by its id or its thumbprint. -/
def isHinted (header : Header) (key : Key) : Bool :=
  (header.keyId?.isSome && header.keyId? == key.keyId) ||
    (header.thumbprint?.isSome && header.thumbprint? == key.thumbprint)

/-- The keys to try for a token, in order: those that the resolver gives, or else the given ones,
with those first that the header names. -/
def candidates (policy : Policy ρ) (use : KeyUse) (raw : String) (header : Header) : List Key :=
  match policy.activeResolver? use with
  | some resolve => resolve raw header
  | none =>
      let (hinted, rest) := (policy.keys use).partition (isHinted header)
      hinted ++ rest

def latest (policy : Policy ρ) (expires : Instant) : Instant :=
  (expires.add? policy.clockSkew).getD .latest

def earliest (policy : Policy ρ) (notBefore : Instant) : Instant :=
  (notBefore.sub? policy.clockSkew).getD .earliest

def flagText (value : Bool) : String := if value then "true" else "false"

def durationText (duration : Duration) : String :=
  Quoted.record "TimeDelta" [("secs", toString (duration.nanoseconds / 1000000000)),
    ("nanos", toString (duration.nanoseconds % 1000000000))]

/-- A description of a policy that tells nothing of its keys. -/
def text (policy : Policy ρ) : String :=
  Quoted.openRecord "ValidationConfig" [
    ("validate_issuer", flagText policy.validateIssuer),
    ("validate_audience", flagText policy.validateAudience),
    ("validate_lifetime", flagText policy.validateLifetime),
    ("require_signed_tokens", flagText policy.requireSignature),
    ("require_expiration_time", flagText policy.requireExpiration),
    ("validate_actor", flagText policy.validateActor),
    ("validate_issuer_signing_key", flagText policy.validateSigningKey),
    ("validate_token_replay", flagText policy.detectReplay),
    ("clock_skew", durationText policy.clockSkew),
    ("issuer_signing_keys", toString policy.signingKeys.length),
    ("token_decryption_keys", toString policy.decryptionKeys.length),
    ("valid_issuers", Quoted.list (policy.acceptedIssuers.map Quoted.text)),
    ("valid_audiences", Quoted.list (policy.acceptedAudiences.map Quoted.text)),
    ("replay_cache", flagText policy.replayStore.isSome),
    ("actor_validation", flagText policy.actor.isSome)]

end Policy

end SecurityToken
