import SecurityToken.Claim.Basic
import SecurityToken.Session

/-!
The checks of what a token says: its issuer, its audiences, its lifetime, and whether it was
presented before. A function in the policy takes the place of the check of the same name.
-/

namespace SecurityToken

variable {σ ρ : Type}

def nonBlank? (value : Option String) : Option String :=
  value.filter fun value => !Text.isBlank value

namespace Policy

def acceptIssuer (policy : Policy ρ) (issuer : Option String) : Except Fault String :=
  match issuer with
  | none => .error (.new .invalidIssuer "token has no issuer")
  | some issuer =>
      if policy.acceptedIssuers.isEmpty then
        .error (.configuration "issuer validation is enabled but no valid issuers are configured")
      else if policy.acceptedIssuers.contains issuer then .ok issuer
      else
        .error ((Fault.new .invalidIssuer "issuer is not trusted").withContext
          Detail.invalidIssuer issuer)

def foreignAudience (audiences : List String) : Fault :=
  (Fault.new .invalidAudience "audience is not accepted").withContext Detail.invalidAudience
    (", ".intercalate audiences)

def acceptAudience (policy : Policy ρ) (audiences : List String) : Except Fault Unit :=
  if policy.acceptedAudiences.isEmpty then
    .error (.configuration "audience validation is enabled but no valid audiences are configured")
  else if audiences.isEmpty then .error (.new .invalidAudience "token has no audience")
  else if audiences.any policy.acceptedAudiences.contains then .ok ()
  else .error (foreignAudience audiences)

def wrongTime (message : String) (notBefore expires : Option Instant) : Fault :=
  (Fault.new .invalidLifetime message)
    |>.withContext? Detail.notBefore (notBefore.map Instant.text)
    |>.withContext? Detail.expires (expires.map Instant.text)

/-- Why a lifetime is refused, if it is: it has no end, it ends before it begins, it has not begun,
or it is over. -/
def lifetimeDefect? (policy : Policy ρ) (notBefore expires : Option Instant) : Option String :=
  if expires.isNone && policy.requireExpiration then some "token has no expiration time"
  else if notBefore.any fun start => expires.any fun stop => decide (stop < start) then
    some "not-before is after expiration"
  else if notBefore.any fun start => decide (policy.now < policy.earliest start) then
    some "token is not yet valid"
  else if expires.any fun stop => decide (policy.latest stop < policy.now) then
    some "token has expired"
  else none

def acceptLifetime (policy : Policy ρ) (notBefore expires : Option Instant) :
    Except Fault Unit :=
  match policy.lifetimeDefect? notBefore expires with
  | some defect => .error (wrongTime defect notBefore expires)
  | none => .ok ()

/-- How long a token is kept on record: as long as it could still be valid. -/
def recordUntil (policy : Policy ρ) (expires : Option Instant) : Instant :=
  (expires.map policy.latest).getD .latest

end Policy

namespace Validation

/-- The issuer that an identity gets. -/
def checkIssuer (policy : Policy ρ) (token : Token) : Run σ ρ String := do
  let issuer := nonBlank? token.claims.issuer?
  if policy.validateIssuer then
    match policy.issuerValidator with
    | some validate =>
        Run.note (.validateIssuer issuer token)
        validate issuer token
    | none => policy.acceptIssuer issuer
  else return issuer.getD Claim.localAuthority

def checkAudience (policy : Policy ρ) (token : Token) : Run σ ρ Unit := do
  if policy.validateAudience then
    let audiences := token.claims.audiences.filter fun audience => !Text.isBlank audience
    match policy.audienceValidator with
    | some validate =>
        Run.note (.validateAudience audiences)
        unless ← validate audiences token do
          throw (Policy.foreignAudience audiences)
    | none => policy.acceptAudience audiences

/-- Accepts or refuses a lifetime; gives the instant at which it ends. -/
def checkLifetime (policy : Policy ρ) (token : Token) : Run σ ρ (Option Instant) := do
  let notBefore ← token.claims.notBefore
  let expires ← token.claims.expires
  if policy.validateLifetime then
    match policy.lifetimeValidator with
    | some validate =>
        Run.note (.validateLifetime notBefore expires)
        unless ← validate notBefore expires token do
          throw (Policy.wrongTime "lifetime was rejected" notBefore expires)
    | none => policy.acceptLifetime notBefore expires
  return expires

/-- Puts a token on record and refuses it if it was there already. -/
def checkReplay (policy : Policy ρ) (raw : String) (expires : Option Instant) :
    Run σ ρ Unit := do
  if policy.detectReplay then
    if let some store := policy.replayStore then
      if ← Run.claim store (ReplayLedger.digest raw) (policy.recordUntil expires) policy.now then
        throw (.new .tokenReplayed "token was already presented")

end Validation

end SecurityToken
